import SearchRelay.Json.Document

/-!
# SearchRelay.Toml.Value

Values of a TOML document.

A table is a list of entries in the order in which they were written, each key
once.  `Value.document` reads a value as a JSON document, which is how settings
are decoded; `ofJson` gives the value for a JSON value, unless it holds a null
or a number beyond the integers of TOML.
-/

namespace SearchRelay.Toml

/-- A value. -/
inductive Value where
  | string (text : String)
  | integer (value : Int)
  | double (value : Binary64)
  /-- An infinity, or no number. -/
  | notFinite
  | boolean (value : Bool)
  /-- A date, a time or both, in the common spelling. -/
  | moment (text : String)
  | array (items : List Value)
  | table (entries : List (String × Value))

/-- The entries of a table. -/
abbrev Table := List (String × Value)

/-- The least integer of a document: that of the signed 64-bit range,
`-2 ^ 63`. -/
def leastInteger : Int := -9223372036854775808

/-- The first integer beyond those of a document, `2 ^ 63`. -/
def integerEnd : Int := 9223372036854775808

/-! ## As a JSON document -/

/-- The key under which a date or time stands in a JSON document. -/
def momentKey : String := "$__toml_private_datetime"

namespace Value

open Json

mutual

/-- A value as a JSON document.  A number that is not finite has no value
there. -/
def document : Value → Document
  | .string text => .string (some text)
  | .integer i => .number (some (.integer i))
  | .double x => .number (some (.double x))
  | .notFinite => .number none
  | .boolean b => .bool b
  | .moment text => .object [(some momentKey, .string (some text))]
  | .array items => .array (documents items)
  | .table entries => .object (entryDocuments entries)

def documents : List Value → List Document
  | [] => []
  | v :: vs => v.document :: documents vs

def entryDocuments : List (String × Value) → List (Option String × Document)
  | [] => []
  | (k, v) :: rest => (some k, v.document) :: entryDocuments rest

end

/-! ## From JSON -/

/-- Why there is no value. -/
inductive Fault where
  | tooLarge
  | null
  deriving DecidableEq

def Fault.reason : Fault → String
  | .tooLarge => "out-of-range value for u64 type"
  | .null => "unsupported unit type"

/-- The value for an integer that is not below the range. -/
def ofInt (i : Int) : Except Fault Value :=
  if i < integerEnd then .ok (.integer i) else .error .tooLarge

mutual

/-- The value for a JSON value. -/
def ofJson : Json → Except Fault Value
  | .null => .error .null
  | .bool b => .ok (.boolean b)
  | .number (.integer i) => ofInt i
  | .number (.double x) => .ok (.double x)
  | .string text => .ok (.string text)
  | .array items => return .array (← ofItems items)
  | .object fields => return .table (← ofFields fields)

def ofItems : List Json → Except Fault (List Value)
  | [] => .ok []
  | v :: vs => return (← ofJson v) :: (← ofItems vs)

def ofFields : Fields → Except Fault Table
  | [] => .ok []
  | (k, v) :: rest => return (k, ← ofJson v) :: (← ofFields rest)

end

end Value

end SearchRelay.Toml
