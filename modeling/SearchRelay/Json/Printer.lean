import SearchRelay.Json.Basic

/-!
# SearchRelay.Json.Printer

The compact text of a JSON value: no blanks, fields in their order, and each
number in one form.

1. Strings escape the quote, the backslash and the controls below U+0020, the
   five with a short escape by it and the others by four lower-case
   hexadecimal digits.
2. A binary64 number has its shortest digits, positionally from `1e-5`
   (inclusive) to `1e16` (exclusive) and scientifically elsewhere.
-/

namespace SearchRelay.Json

/-! ## Strings -/

def hexDigit (n : Nat) : Char := Nat.digitChar n

/-- The text of one character of a string. -/
def escapeChar (c : Char) : List Char :=
  if c = '"' then ['\\', '"']
  else if c = '\\' then ['\\', '\\']
  else if c = '\x08' then ['\\', 'b']
  else if c = '\x0c' then ['\\', 'f']
  else if c = '\n' then ['\\', 'n']
  else if c = '\r' then ['\\', 'r']
  else if c = '\t' then ['\\', 't']
  else if c.val < 32 then
    ['\\', 'u', '0', '0', hexDigit (c.val.toNat / 16), hexDigit (c.val.toNat % 16)]
  else [c]

/-- The text of a string, with its quotes. -/
def quote (s : String) : List Char := '"' :: (s.toList.flatMap escapeChar ++ ['"'])

/-! ## Numbers -/

/-- The least exponent of ten written positionally. -/
def leastPositional : Int := -5

/-- The least exponent of ten beyond those written positionally. -/
def positionalEnd : Int := 16

/-- The text of a magnitude. -/
def magnitudeText (d : Binary64.Decimal) : List Char :=
  if leastPositional ≤ d.leading ∧ d.leading < positionalEnd then d.positional else d.scientific

def doubleText (x : Binary64) : List Char :=
  (if x.negative then ['-'] else []) ++ magnitudeText x.shortest

def integerText (i : Int) : List Char :=
  (if i < 0 then ['-'] else []) ++ Nat.toDigits 10 i.natAbs

def Number.text : Number → List Char
  | .integer i => integerText i
  | .double x => doubleText x

/-! ## Values -/

mutual

/-- The text of a value. -/
def text : Json → List Char
  | .null => ['n', 'u', 'l', 'l']
  | .bool true => ['t', 'r', 'u', 'e']
  | .bool false => ['f', 'a', 'l', 's', 'e']
  | .number n => n.text
  | .string s => quote s
  | .array [] => ['[', ']']
  | .array (v :: vs) => '[' :: (text v ++ itemsText vs)
  | .object [] => ['{', '}']
  | .object ((k, v) :: rest) => '{' :: (quote k ++ ':' :: (text v ++ fieldsText rest))

/-- The text of the items after the first, with the closing bracket. -/
def itemsText : List Json → List Char
  | [] => [']']
  | v :: vs => ',' :: (text v ++ itemsText vs)

/-- The text of the fields after the first, with the closing brace. -/
def fieldsText : Fields → List Char
  | [] => ['}']
  | (k, v) :: rest => ',' :: (quote k ++ ':' :: (text v ++ fieldsText rest))

end

/-- The compact text of a value. -/
def compact (v : Json) : String := String.ofList v.text

end SearchRelay.Json
