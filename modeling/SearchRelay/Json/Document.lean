import SearchRelay.Json.Token

/-!
# SearchRelay.Json.Document

A JSON text as it was written, before it is given a meaning: fields stand in
the order of the text and may repeat, and a string or number without a value
is kept as such.

1. `Document.parse?` reads a text.  It goes through the tokens once, with the
   open containers on a stack.
2. `Document.meaning?` gives a document its JSON value.  Of repeated fields
   the last counts, and every string and number needs a value.
   `Document.value?` also limits how deep containers nest.
3. `Json.parse?` is both, with the limit of a whole text.
-/

namespace SearchRelay.Json

/-- A JSON text as it was written. -/
inductive Document where
  | null
  | bool (value : Bool)
  | number (value : Option Number)
  | string (value : Option String)
  | array (items : List Document)
  | object (fields : List (Option String × Document))

namespace Document

instance : Inhabited Document := ⟨.null⟩

/-! ## Reading tokens -/

/-- An open container that waits for a value.  What it holds so far stands in
reverse. -/
inductive Frame where
  | array (before : List Document)
  | object (before : List (Option String × Document)) (key : Option String)

/-- What may come next. -/
inductive Awaiting where
  /-- A value. -/
  | value
  /-- The first item of an array, or its end. -/
  | firstItem
  /-- The first key of an object, or its end. -/
  | firstKey
  /-- A key of an object that holds fields already. -/
  | key (before : List (Option String × Document))
  /-- The colon behind a key. -/
  | colon (before : List (Option String × Document)) (key : Option String)
  /-- What follows a complete value. -/
  | after (value : Document)

/-- The reader: what may come next, and the open containers, innermost
first. -/
structure Reader where
  awaiting : Awaiting
  frames : List Frame

/-- The scalar of a token. -/
def scalar? : Token → Option Document
  | .null => some .null
  | .bool b => some (.bool b)
  | .number n => some (.number n)
  | .string s => some (.string s)
  | _ => none

/-- Starts a value. -/
def Reader.startValue (frames : List Frame) : Token → Option Reader
  | .beginArray => some ⟨.firstItem, .array [] :: frames⟩
  | .beginObject => some ⟨.firstKey, frames⟩
  | token => (scalar? token).map fun v => ⟨.after v, frames⟩

/-- Goes on after a complete value. -/
def Reader.afterValue (v : Document) : List Frame → Token → Option Reader
  | .array before :: frames, .comma => some ⟨.value, .array (v :: before) :: frames⟩
  | .array before :: frames, .endArray => some ⟨.after (.array (v :: before).reverse), frames⟩
  | .object before key :: frames, .comma => some ⟨.key ((key, v) :: before), frames⟩
  | .object before key :: frames, .endObject =>
    some ⟨.after (.object ((key, v) :: before).reverse), frames⟩
  | _, _ => none

/-- Takes one token. -/
def Reader.step (r : Reader) (token : Token) : Option Reader :=
  match r.awaiting, token, r.frames with
  | .firstItem, .endArray, .array [] :: frames => some ⟨.after (.array []), frames⟩
  | .firstItem, token, frames => startValue frames token
  | .value, token, frames => startValue frames token
  | .firstKey, .endObject, frames => some ⟨.after (.object []), frames⟩
  | .firstKey, .string key, frames => some ⟨.colon [] key, frames⟩
  | .key before, .string key, frames => some ⟨.colon before key, frames⟩
  | .colon before key, .colon, frames => some ⟨.value, .object before key :: frames⟩
  | .after v, token, frames => afterValue v frames token
  | _, _, _ => none

/-- The document of a reader that has read everything. -/
def Reader.finish? (r : Reader) : Option Document :=
  match r.awaiting, r.frames with
  | .after v, [] => some v
  | _, _ => none

def ofTokens? (tokens : List Token) : Option Document :=
  (tokens.foldlM Reader.step ⟨.value, []⟩).bind Reader.finish?

def parse? (text : String) : Option Document := (tokens? text.toList).bind ofTokens?

/-! ## Values -/

mutual

/-- The value of a document, however deep it nests. -/
def meaning? : Document → Option Json
  | .null => some .null
  | .bool b => some (.bool b)
  | .number n => n.map .number
  | .string s => s.map .string
  | .array items => (itemMeanings? items).map .array
  | .object fields => (fieldMeanings? fields).map ofFields

/-- The values of the items of a container. -/
def itemMeanings? : List Document → Option (List Json)
  | [] => some []
  | d :: ds => do
    let v ← meaning? d
    let vs ← itemMeanings? ds
    return v :: vs

/-- The values of the fields of a container. -/
def fieldMeanings? : List (Option String × Document) → Option Fields
  | [] => some []
  | (key, d) :: ds => do
    let k ← key
    let v ← meaning? d
    let vs ← fieldMeanings? ds
    return (k, v) :: vs

end

mutual

/-- How deep the containers of a document nest. -/
def depth : Document → Nat
  | .null | .bool _ | .number _ | .string _ => 0
  | .array items => depthOfItems items + 1
  | .object fields => depthOfFields fields + 1

/-- How deep the items of a container nest. -/
def depthOfItems : List Document → Nat
  | [] => 0
  | d :: ds => max (depth d) (depthOfItems ds)

/-- How deep the fields of a container nest. -/
def depthOfFields : List (Option String × Document) → Nat
  | [] => 0
  | (_, d) :: ds => max (depth d) (depthOfFields ds)

end

/-- Whether a document nests at most `limit` deep; without a limit every
document does. -/
def fits (d : Document) : (limit : Option Nat) → Bool
  | none => true
  | some n => d.depth ≤ n

/-- The value of a document that nests at most `limit` deep. -/
def value? (limit : Option Nat) (d : Document) : Option Json :=
  if d.fits limit then d.meaning? else none

mutual

/-- A document with null in place of every number without a value. -/
def filled : Document → Document
  | .number none => .null
  | .array items => .array (filledItems items)
  | .object fields => .object (filledFields fields)
  | d => d

/-- Items with null in place of every number without a value. -/
def filledItems : List Document → List Document
  | [] => []
  | d :: ds => d.filled :: filledItems ds

/-- Fields with null in place of every number without a value. -/
def filledFields : List (Option String × Document) → List (Option String × Document)
  | [] => []
  | (key, d) :: ds => (key, d.filled) :: filledFields ds

end

mutual

/-- A value as a document. -/
def ofJson : Json → Document
  | .null => .null
  | .bool b => .bool b
  | .number n => .number (some n)
  | .string s => .string (some s)
  | .array items => .array (ofItems items)
  | .object fields => .object (ofFields fields)

def ofItems : List Json → List Document
  | [] => []
  | v :: vs => ofJson v :: ofItems vs

def ofFields : Fields → List (Option String × Document)
  | [] => []
  | (k, v) :: rest => (some k, ofJson v) :: ofFields rest

end

end Document

/-- How deep the containers of a text may nest. -/
def nestingLimit : Nat := 127

/-- The value of a text; nothing if it is not JSON. -/
def parse? (text : String) : Option Json :=
  (Document.parse? text).bind (Document.value? (some nestingLimit))

/-- The value of a text in UTF-8; nothing if it is not JSON or not UTF-8. -/
def parseBytes? (bytes : List UInt8) : Option Json :=
  (String.fromUTF8? (ByteArray.mk bytes.toArray)).bind parse?

end SearchRelay.Json
