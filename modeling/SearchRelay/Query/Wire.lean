import SearchRelay.Json.Decode
import SearchRelay.Query

/-!
# SearchRelay.Query.Wire

Queries as JSON.

1. `Query.decode` reads a query; only the id is required.  The data fields are
   a text, or an array of texts and of objects with a field and a weight.
2. `Query.toJson` writes a query; options that are not set are left out.
3. `Query.decodeRequest` reads a whole request.
-/

namespace SearchRelay.Query

open Json

/-! ## Reading -/

def Kind.names : List (String × Kind) :=
  [.search, .suggestion, .term, .range, .geo].map fun kind : Kind => (kind.name, kind)

def Kind.decode : Decoder Kind := Decoder.variant Kind.names

/-- A field with a weight under way. -/
structure Weighted where
  field : String := ""
  weight : Option Binary64 := none

/-- A field with a weight, as an object. -/
def Weighted.form : Record Weighted where
  name := "FieldSpec"
  fields := [
    .of "field" .required Decoder.text fun w v => { w with field := v },
    .of "weight" .free (Decoder.nullable Decoder.double) fun w v => { w with weight := v }]
  blank := {}

/-- Reads one item of a list of data fields. -/
def FieldSpec.ofDocument? : Document → Option FieldSpec
  | .string (some s) => some (.plain s)
  | .object entries => match Weighted.form.ofObject {} entries with
    | .ok w => some (.weighted w.field w.weight)
    | .error _ => none
  | _ => none

/-- Reads data fields from one of their forms. -/
def DataField.ofDocument? : Document → Option DataField
  | .string (some s) => some (.single s)
  | .array items => (items.mapM FieldSpec.ofDocument?).map .many
  | _ => none

/-- Reads data fields.  The whole value is taken in before its form is
looked at. -/
def DataField.decode : Decoder DataField := fun r d => do
  let _ ← Decoder.any r d
  match ofDocument? d with
  | some fields => return fields
  | none => throw (.noForm "DataField")

/-- The fields of a query. -/
def form : Record Query where
  name := "Query"
  fields := [
    .of "id" .required Decoder.text fun q v => { q with id := v },
    .of "type" .free Kind.decode fun q v => { q with kind := v },
    .of "index" .free (Decoder.nullable Decoder.text) fun q v => { q with index := v },
    .of "value" .free (Decoder.nullable Decoder.any) fun q v => { q with value := v },
    .of "dataField" .free (Decoder.nullable DataField.decode) fun q v => { q with dataField := v },
    .of "showDistinctSuggestions" .free (Decoder.nullable Decoder.bool)
      fun q v => { q with showDistinctSuggestions := v },
    .of "enablePredictiveSuggestions" .free (Decoder.nullable Decoder.bool)
      fun q v => { q with enablePredictiveSuggestions := v },
    .of "maxPredictedWords" .free (Decoder.nullable (Decoder.natBelow UInt64.size "usize"))
      fun q v => { q with maxPredictedWords := v },
    .of "enableSynonyms" .free (Decoder.nullable Decoder.bool)
      fun q v => { q with enableSynonyms := v },
    .of "applyStopwords" .free (Decoder.nullable Decoder.bool)
      fun q v => { q with applyStopwords := v },
    .of "stopwords" .free (Decoder.nullable (Decoder.list Decoder.text))
      fun q v => { q with stopwords := v },
    .of "urlField" .free (Decoder.nullable Decoder.text) fun q v => { q with urlField := v },
    .of "categoryField" .free (Decoder.nullable Decoder.text)
      fun q v => { q with categoryField := v },
    .of "body" .free (Decoder.nullable Decoder.any) fun q v => { q with body := v }]
  blank := {}

def decode : Decoder Query := form.decode

/-- A request: the queries of one search. -/
def requestForm : Record (List Query) where
  name := "SearchRequest"
  fields := [.of "query" .required (Decoder.list decode) fun _ queries => queries]
  blank := []

def decodeRequest : Decoder (List Query) := requestForm.decode

/-! ## Writing -/

/-- One item of a list of data fields as JSON. -/
def FieldSpec.toJson : FieldSpec → Json
  | .plain field => .string field
  | .weighted field weight => .object [("field", .string field), ("weight", ofDouble? weight)]

def DataField.toJson : DataField → Json
  | .single field => .string field
  | .many specs => .array (specs.map FieldSpec.toJson)

def textsToJson (texts : List String) : Json := .array (texts.map .string)

/-- A query as JSON. -/
def toJson (q : Query) : Json := .object <| List.flatten [
  optional "applyStopwords" (q.applyStopwords.map .bool),
  optional "body" q.body,
  optional "categoryField" (q.categoryField.map .string),
  optional "dataField" (q.dataField.map DataField.toJson),
  optional "enablePredictiveSuggestions" (q.enablePredictiveSuggestions.map .bool),
  optional "enableSynonyms" (q.enableSynonyms.map .bool),
  [("id", .string q.id)],
  optional "index" (q.index.map .string),
  optional "maxPredictedWords" (q.maxPredictedWords.map Json.ofNat),
  optional "showDistinctSuggestions" (q.showDistinctSuggestions.map .bool),
  optional "stopwords" (q.stopwords.map textsToJson),
  [("type", .string q.kind.name)],
  optional "urlField" (q.urlField.map .string),
  optional "value" q.value]

end SearchRelay.Query
