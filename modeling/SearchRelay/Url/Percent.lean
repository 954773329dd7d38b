import SearchRelay.Text.Table
import SearchRelay.Text.Utf8

/-!
# SearchRelay.Url.Percent

Percent encoding.  Each part of a URL has its own set of characters that are
encoded; controls and characters beyond ASCII are encoded everywhere.
-/

namespace SearchRelay.Url

/-! ## Sets -/

/-- Characters encoded everywhere. -/
def isControl (c : Char) : Bool := c.toNat < 0x20 || 0x7f ≤ c.toNat

def inFragmentSet (c : Char) : Bool := isControl c || [' ', '"', '<', '>', '`'].contains c

def inQuerySet (c : Char) : Bool := isControl c || [' ', '"', '#', '<', '>', '\''].contains c

def inPathSet (c : Char) : Bool := inFragmentSet c || ['#', '?', '{', '}'].contains c

def inUserSet (c : Char) : Bool :=
  inPathSet c || ['/', ':', ';', '=', '@', '[', '\\', ']', '^', '|'].contains c

/-! ## Encoding -/

/-- A byte as a percent sign and two upper-case hexadecimal digits. -/
def encodeByte (b : UInt8) : List Char :=
  ['%', (Nat.digitChar (b.toNat / 16)).toUpper, (Nat.digitChar (b.toNat % 16)).toUpper]

/-- A character, encoded if it is in a set. -/
def encodeChar (set : Char → Bool) (c : Char) : List Char :=
  if set c then (String.utf8EncodeChar c).flatMap encodeByte else [c]

/-- A text with the characters of a set encoded. -/
def encodeWith (set : Char → Bool) (cs : List Char) : List Char := cs.flatMap (encodeChar set)

/-! ## Decoding -/

/-- The value of a byte that is a hexadecimal digit. -/
def hexByte? (b : UInt8) : Option Nat :=
  let c := Char.ofNat b.toNat
  if c.isDigit || ('a' ≤ c && c ≤ 'f') || ('A' ≤ c && c ≤ 'F') then
    some (Text.Table.digitValue c)
  else none

def percentSign : UInt8 := 37

/-- Bytes with percent encoding undone.  A percent sign without two digits
stays. -/
def decode : List UInt8 → List UInt8
  | [] => []
  | [a] => [a]
  | [a, b] => [a, b]
  | a :: b :: c :: rest =>
    match hexByte? b, hexByte? c with
    | some high, some low =>
      if a = percentSign then UInt8.ofNat (high * 16 + low) :: decode rest
      else a :: decode (b :: c :: rest)
    | _, _ => a :: decode (b :: c :: rest)

end SearchRelay.Url
