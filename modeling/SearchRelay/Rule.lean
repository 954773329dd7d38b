import SearchRelay.Error
import SearchRelay.Json.Decode

/-!
# SearchRelay.Rule

Rules of merchandising.

1. A rule may promote a value, which is put under `promoted`, and may hide
   documents, which are taken out of the hits; the total is then the number of
   hits that are left.
2. Rules are applied in their order.  The first rule that wants to hide
   something in a result of another shape ends the application; what was
   changed before stays.
-/

namespace SearchRelay

/-- A rule. -/
structure Rule where
  /-- The term that the rule is for. -/
  matchTerm : String := ""
  promote : Option Json := none
  /-- The ids of the documents to hide. -/
  hide : Option (List String) := none
  deriving DecidableEq

namespace Rule

open Json

/-! ## JSON -/

/-- A document to hide. -/
def hiddenForm : Record String where
  name := "HiddenDoc"
  fields := [.of "docId" .required Decoder.text fun _ id => id]
  blank := ""

/-- What a rule does. -/
def actionForm : Record Rule where
  name := "RuleAction"
  fields := [
    .of "promote" .free (Decoder.nullable Decoder.any) fun r v => { r with promote := v },
    .of "hide" .free (Decoder.nullable (Decoder.list hiddenForm.decode))
      fun r v => { r with hide := v }]
  blank := {}

/-- The fields of a rule. -/
def form : Record Rule where
  name := "Rule"
  fields := [
    .of "matchTerm" .free Decoder.text fun r v => { r with matchTerm := v },
    .of "then" .required actionForm.decode
      fun r v => { r with promote := v.promote, hide := v.hide }]
  blank := {}

def decode : Decoder Rule := form.decode

def hiddenToJson (ids : List String) : Json :=
  .array (ids.map fun id => .object [("docId", .string id)])

def toJson (r : Rule) : Json := .object [
  ("matchTerm", .string r.matchTerm),
  ("then", .object (optional "hide" (r.hide.map hiddenToJson) ++ optional "promote" r.promote))]

/-! ## Application -/

/-- Why a rule cannot be applied to a result. -/
inductive Fault where
  | resultNotObject
  | noHits
  | hitsNotArray
  | hitNotObject
  deriving DecidableEq

/-- The wording of a fault. -/
def Fault.reason : Fault → String
  | .resultNotObject => "result is not a JSON object"
  | .noHits => "result has no `hits`"
  | .hitsNotArray => "`hits.hits` is not an array"
  | .hitNotObject => "hit is not a JSON object"

def Fault.error (fault : Fault) : Error := .structuralMismatch fault.reason

/-- The id of a document; a number counts as its text. -/
def documentId? : Json → Option String
  | .object fields => match Fields.find? fields "_id" with
    | some (.string id) => some id
    | some (.number n) => some (String.ofList n.text)
    | _ => none
  | _ => none

def hides (ids : List String) (document : Json) : Bool := (documentId? document).any ids.contains

/-- The object of hits in a result, and the list of hits in it. -/
def hitsOf (result : Fields) : Except Fault (Fields × List Json) := do
  let some (.object hits) := result.find? "hits" | throw .noHits
  let some (.array documents) := Fields.find? hits "hits" | throw .hitsNotArray
  if documents.any fun d => d.object?.isNone then throw .hitNotObject
  return (hits, documents)

/-- Takes documents out of the hits of a result. -/
def hideFrom (ids : List String) (result : Fields) : Except Fault Fields := do
  let (hits, documents) ← hitsOf result
  let kept := documents.filter fun d => !hides ids d
  return result.insert "hits" <| .object <|
    (hits.insert "hits" (.array kept)).insert "total" (.ofNat kept.length)

/-- Puts the promoted value of a rule into a result. -/
def promoteIn (r : Rule) (result : Fields) : Fields :=
  r.promote.elim result fun value => result.insert "promoted" value

/-- Applies rules to a result in their order.  Gives the result as far as it
was changed, and the fault that ended the application. -/
def applyFrom (result : Fields) : List Rule → Fields × Option Fault
  | [] => (result, none)
  | r :: rules =>
    let promoted := r.promoteIn result
    match r.hide with
    | none => applyFrom promoted rules
    | some ids => match hideFrom ids promoted with
      | .ok hidden => applyFrom hidden rules
      | .error fault => (promoted, some fault)

/-- Applies rules to a result. -/
def applyAll (rules : List Rule) : Json → Json × Option Fault
  | .object result =>
    let (changed, fault) := applyFrom result rules
    (.object changed, fault)
  | other => (other, some .resultNotObject)

end Rule

end SearchRelay
