/-!
# SearchRelay.Text.Utf8

Bytes read as UTF-8.

`decodeLossy` reads any bytes.  Where they are not UTF-8, the longest run that
could have begun a character, and any byte that could not, stands for one
replacement character.
-/

namespace SearchRelay.Text.Utf8

def replacement : Char := '\ufffd'

/-- A character under way: how many bytes are missing, between which bounds
the next one lies, and the bits so far. -/
structure Pending where
  missing : Nat
  low : Nat
  high : Nat
  bits : Nat

/-- What the first byte of a character says: the character, what is missing of
it, or nothing. -/
def start (b : Nat) : List Char × Option Pending :=
  if b < 0x80 then ([Char.ofNat b], none)
  else if 0xc2 ≤ b ∧ b ≤ 0xdf then ([], some ⟨1, 0x80, 0xbf, b - 0xc0⟩)
  else if b = 0xe0 then ([], some ⟨2, 0xa0, 0xbf, b - 0xe0⟩)
  else if b = 0xed then ([], some ⟨2, 0x80, 0x9f, b - 0xe0⟩)
  else if 0xe1 ≤ b ∧ b ≤ 0xef then ([], some ⟨2, 0x80, 0xbf, b - 0xe0⟩)
  else if b = 0xf0 then ([], some ⟨3, 0x90, 0xbf, b - 0xf0⟩)
  else if 0xf1 ≤ b ∧ b ≤ 0xf3 then ([], some ⟨3, 0x80, 0xbf, b - 0xf0⟩)
  else if b = 0xf4 then ([], some ⟨3, 0x80, 0x8f, b - 0xf0⟩)
  else ([replacement], none)

/-- Takes one byte. -/
def step (pending : Option Pending) (b : Nat) : List Char × Option Pending :=
  match pending with
  | none => start b
  | some p =>
    if p.low ≤ b ∧ b ≤ p.high then
      let bits := p.bits * 64 + (b - 0x80)
      if p.missing ≤ 1 then ([Char.ofNat bits], none)
      else ([], some ⟨p.missing - 1, 0x80, 0xbf, bits⟩)
    else
      let (chars, next) := start b
      (replacement :: chars, next)

/-- Reads bytes behind a character under way. -/
def decodeFrom (pending : Option Pending) : List UInt8 → List Char
  | [] => if pending.isSome then [replacement] else []
  | b :: bs =>
    let (chars, next) := step pending b.toNat
    chars ++ decodeFrom next bs

/-- The characters of bytes. -/
def decodeLossy (bytes : List UInt8) : List Char := decodeFrom none bytes

def textOf (bytes : List UInt8) : String := String.ofList (decodeLossy bytes)

def encode (cs : List Char) : List UInt8 := cs.flatMap String.utf8EncodeChar

end SearchRelay.Text.Utf8
