import SearchRelay.Json.Document
import SearchRelay.Json.Printer
import SearchRelay.Text.Quoted

/-!
# SearchRelay.Json.Decode

Typed values read from JSON documents.

1. A decoder reads a value or says why it cannot: `DecodeError` is the cause,
   `DecodeError.message` its wording.
2. A record is a list of fields in declaration order, each with its presence
   and its setter.  It is written as an object, whose fields are read in the
   order of the document, or as an array of its fields in declaration order.
3. Unknown fields are skipped, whatever they hold; a known field may stand
   only once.
-/

namespace SearchRelay.Json

/-! ## Errors -/

/-- What a document holds where something else was expected. -/
inductive Found where
  | null
  | bool (value : Bool)
  | number (value : Number)
  | string (value : String)
  | array
  | object
  deriving DecidableEq

/-- The wording of what was found. -/
def Found.text : Found → String
  | .null => "null"
  | .bool true => "boolean `true`"
  | .bool false => "boolean `false`"
  | .number (.integer i) => "integer `" ++ String.ofList (integerText i) ++ "`"
  | .number (.double x) => "floating point `" ++ String.ofList (doubleText x) ++ "`"
  | .string s => "string " ++ Text.quoted s
  | .array => "sequence"
  | .object => "map"

/-- Why a document cannot be read as a typed value. -/
inductive DecodeError where
  /-- A value of another kind. -/
  | invalidType (found : Found) (expected : String)
  /-- A value of the right kind that is not allowed. -/
  | invalidValue (found : Found) (expected : String)
  /-- An array of the wrong length. -/
  | invalidLength (length : Nat) (expected : String)
  /-- A name that is none of the alternatives. -/
  | unknownVariant (name : String) (variants : List String)
  | missingField (name : String)
  | duplicateField (name : String)
  /-- None of the forms of a value that has several. -/
  | noForm (type : String)
  /-- A document id that is neither a string nor a number. -/
  | unfitId (value : Json)
  /-- A part of the text that has no value: an incomplete character, a number
  too large, or containers nested too deep. -/
  | noValue
  deriving DecidableEq

/-- The alternatives of a choice. -/
def variantsText : List String → String
  | [] => "there are no variants"
  | [a] => "expected `" ++ a ++ "`"
  | [a, b] => "expected `" ++ a ++ "` or `" ++ b ++ "`"
  | names => "expected one of " ++ ", ".intercalate (names.map fun n => "`" ++ n ++ "`")

/-- The wording of a decoding error. -/
def DecodeError.message : DecodeError → String
  | .invalidType found expected => "invalid type: " ++ found.text ++ ", expected " ++ expected
  | .invalidValue found expected => "invalid value: " ++ found.text ++ ", expected " ++ expected
  | .invalidLength n expected => "invalid length " ++ toString n ++ ", expected " ++ expected
  | .unknownVariant name variants => "unknown variant `" ++ name ++ "`, " ++ variantsText variants
  | .missingField name => "missing field `" ++ name ++ "`"
  | .duplicateField name => "duplicate field `" ++ name ++ "`"
  | .noForm type => "data did not match any variant of untagged enum " ++ type
  | .unfitId value => "document id must be a string or number, got " ++ value.compact
  | .noValue => "text without a value"

/-! ## Decoders -/

/-- How a document is read. -/
structure Reading where
  /-- How deep containers may still nest; nothing if that is not limited. -/
  nesting : Option Nat := none
  /-- Whether an array may hold more items than the value has places. -/
  surplus : Bool := false
  /-- Whether a number without a value counts as null where any value may
  stand. -/
  filling : Bool := false

/-- Reads a typed value. -/
abbrev Decoder (α : Type) := Reading → Document → Except DecodeError α

namespace Decoder

variable {α : Type}

/-- What a document holds. -/
def found : Document → Except DecodeError Found
  | .null => .ok .null
  | .bool b => .ok (.bool b)
  | .number (some n) => .ok (.number n)
  | .string (some s) => .ok (.string s)
  | .number none | .string none => .error .noValue
  | .array _ => .ok .array
  | .object _ => .ok .object

def mismatch (expected : String) (d : Document) : Except DecodeError α := do
  throw (.invalidType (← found d) expected)

/-- Goes into a container. -/
def enter (r : Reading) : Except DecodeError Reading :=
  match r.nesting with
  | none => .ok r
  | some 0 => .error .noValue
  | some (n + 1) => .ok { r with nesting := some n }

def text : Decoder String
  | _, .string (some s) => .ok s
  | _, d => mismatch "a string" d

def bool : Decoder Bool
  | _, .bool b => .ok b
  | _, d => mismatch "a boolean" d

/-- Reads a natural number below `limit`. -/
def natBelow (limit : Nat) (expected : String) : Decoder Nat
  | _, .number (some (.integer i)) =>
    if 0 ≤ i ∧ i < limit then .ok i.toNat
    else .error (.invalidValue (.number (.integer i)) expected)
  | _, d => mismatch expected d

/-- Reads a binary64 number; an integer is rounded to the nearest one. -/
def double : Decoder Binary64
  | _, .number (some (.double x)) => .ok x
  | _, .number (some (.integer i)) => .ok ((Binary64.ofInt? i).getD .zero)
  | _, d => mismatch "f64" d

/-- Reads any value. -/
def any : Decoder Json := fun r d =>
  match (if r.filling then d.filled else d).value? r.nesting with
  | some v => .ok v
  | none => .error .noValue

def nullable (decode : Decoder α) : Decoder (Option α)
  | _, .null => .ok none
  | r, d => (decode r d).map some

/-- Reads an array. -/
def list (decode : Decoder α) : Decoder (List α)
  | r, .array items => do
    let inner ← enter r
    items.mapM (decode inner)
  | _, d => mismatch "a sequence" d

/-- Puts an entry into its place among sorted entries. -/
def putEntry (key : String) (value : α) : List (String × α) → List (String × α)
  | [] => [(key, value)]
  | (k, v) :: rest =>
    if key < k then (key, value) :: (k, v) :: rest
    else if key = k then (key, value) :: rest
    else (k, v) :: putEntry key value rest

/-- Reads an object of values of one type into entries sorted by their keys; of
a repeated key the last one counts. -/
def dictionary (decode : Decoder α) : Decoder (List (String × α))
  | r, .object entries => do
    let inner ← enter r
    entries.foldlM (fun done entry => do
      let some key := entry.1 | throw .noValue
      return putEntry key (← decode inner entry.2) done) []
  | _, d => mismatch "a map" d

/-- Reads an object of any values. -/
def fields : Decoder Fields
  | r, .object entries => do
    match ← any r (.object entries) with
    | .object fields => return fields
    | _ => throw .noValue
  | _, d => mismatch "a map" d

def unit : Decoder Unit
  | _, .null => .ok ()
  | _, d => mismatch "unit" d

/-- Refuses the items behind the last place of an array. -/
def refuseSurplus (r : Reading) (places : Nat) (items : List Document) : Except DecodeError Unit :=
  if places < items.length ∧ !r.surplus then
    throw (.invalidLength items.length "fewer elements in array")
  else pure ()

/-- Reads an array of two values of one type. -/
def pair (decode : Decoder α) : Decoder (α × α)
  | r, .array items => do
    let inner ← enter r
    match items with
    | [] => throw (.invalidLength 0 "a tuple of size 2")
    | [a] => do
      let _ ← decode inner a
      throw (.invalidLength 1 "a tuple of size 2")
    | a :: b :: rest => do
      let x ← decode inner a
      let y ← decode inner b
      refuseSurplus r 2 (a :: b :: rest)
      return (x, y)
  | _, d => mismatch "a tuple of size 2" d

/-- Reads one of several names: as a text, or as the only key of an object
that holds null. -/
def variant (names : List (String × α)) : Decoder α
  | _, .string (some s) => choose s
  | r, .object [(key, value)] => do
    let inner ← enter r
    let some name := key | throw .noValue
    let choice ← choose name
    unit inner value
    return choice
  | _, .object _ => throw (.invalidValue .object "map with a single key")
  | _, d => mismatch "string or map" d
where
  /-- The alternative of a name. -/
  choose (name : String) : Except DecodeError α :=
    match names.lookup name with
    | some a => .ok a
    | none => .error (.unknownVariant name (names.map Prod.fst))

end Decoder

/-! ## Records -/

/-- Whether a field may be left out. -/
inductive Presence where
  /-- Never. -/
  | required
  /-- Only from an object, not from an array. -/
  | named
  /-- Always. -/
  | free
  deriving DecidableEq

/-- A field of a record: its name, whether it may be left out, and how it is
read into the record. -/
structure Field (σ : Type) where
  name : String
  presence : Presence
  read : Reading → Document → σ → Except DecodeError σ

/-- A field that is read by a decoder and put into its place. -/
def Field.of {σ α : Type} (name : String) (presence : Presence) (decode : Decoder α)
    (put : σ → α → σ) : Field σ :=
  ⟨name, presence, fun r d record => (decode r d).map (put record)⟩

/-- A record type: its name, its fields in declaration order, and the record
before any field is read. -/
structure Record (σ : Type) where
  name : String
  fields : List (Field σ)
  blank : σ

namespace Record

variable {σ : Type}

/-- The wording of a record type where another value was found. -/
def title (form : Record σ) : String := "struct " ++ form.name

/-- The wording of the length of a record type. -/
def lengthText (form : Record σ) : String :=
  form.title ++ " with " ++ toString form.fields.length ++
    (if form.fields.length = 1 then " element" else " elements")

/-- A record under way, and the names of the fields read so far. -/
structure Progress (σ : Type) where
  record : σ
  seen : List String

/-- Reads one field of an object. -/
def step (form : Record σ) (r : Reading) (p : Progress σ)
    (entry : Option String × Document) : Except DecodeError (Progress σ) := do
  let some key := entry.1 | throw .noValue
  match form.fields.find? (·.name = key) with
  | none => return p
  | some field =>
    if p.seen.contains key then throw (.duplicateField key)
    return ⟨← field.read r entry.2 p.record, key :: p.seen⟩

/-- Reads an object. -/
def ofObject (form : Record σ) (r : Reading) (entries : List (Option String × Document)) :
    Except DecodeError σ := do
  let p ← entries.foldlM (form.step r) ⟨form.blank, []⟩
  match form.fields.find? fun f => f.presence = .required ∧ !p.seen.contains f.name with
  | some field => throw (.missingField field.name)
  | none => return p.record

/-- Reads the items of an array into the fields.  `place` counts the fields
passed. -/
def ofItems (form : Record σ) (r : Reading) :
    (place : Nat) → List (Field σ) → List Document → σ → Except DecodeError σ
  | _, [], _, record => .ok record
  | place, field :: fields, [], record =>
    if field.presence = .free then ofItems form r (place + 1) fields [] record
    else .error (.invalidLength place form.lengthText)
  | place, field :: fields, item :: items, record => do
    ofItems form r (place + 1) fields items (← field.read r item record)

/-- Reads a record. -/
def decode (form : Record σ) : Decoder σ
  | r, .object entries => do form.ofObject (← Decoder.enter r) entries
  | r, .array items => do
    let record ← form.ofItems (← Decoder.enter r) 0 form.fields items form.blank
    Decoder.refuseSurplus r form.fields.length items
    return record
  | _, d => Decoder.mismatch form.title d

end Record

/-- Reads a typed value from a JSON value. -/
def decodeAs {α : Type} (decode : Decoder α) (v : Json) : Except DecodeError α :=
  decode {} (.ofJson v)

/-- Reads a typed value from a text in UTF-8. -/
def decodeBytes {α : Type} (decode : Decoder α) (bytes : List UInt8) : Except DecodeError α :=
  match (String.fromUTF8? (ByteArray.mk bytes.toArray)).bind Document.parse? with
  | some d => decode { nesting := some nestingLimit } d
  | none => .error .noValue

end SearchRelay.Json
