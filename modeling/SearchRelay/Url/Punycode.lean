/-!
# SearchRelay.Url.Punycode

Labels of any characters as labels of ASCII characters.

The ASCII characters come first.  The others follow as steps of a walk over
all places in the label and all code points in increasing order: each step is
a number in a base of 36 with digits of varying weight, which adapts to the
sizes seen so far.
-/

namespace SearchRelay.Url.Punycode

/-! ## Weights -/

def digitChar (d : Nat) : Char :=
  if d < 26 then Char.ofNat ('a'.toNat + d) else Char.ofNat ('0'.toNat + (d - 26))

/-- The value of a digit. -/
def digitValue? (c : Char) : Option Nat :=
  if 'a' ≤ c ∧ c ≤ 'z' then some (c.toNat - 'a'.toNat)
  else if 'A' ≤ c ∧ c ≤ 'Z' then some (c.toNat - 'A'.toNat)
  else if c.isDigit then some (c.toNat - '0'.toNat + 26)
  else none

/-- The threshold at a position: at least 1, at most 26. -/
def threshold (position bias : Nat) : Nat :=
  if position ≤ bias then 1 else if bias + 26 ≤ position then 26 else position - bias

/-- Divides a step until it is small, counting positions. -/
def shrink (delta position : Nat) : Nat × Nat :=
  if 455 < delta then shrink (delta / 35) (position + 36) else (delta, position)
  termination_by delta
  decreasing_by omega

/-- The bias after a step. -/
def adapt (delta count : Nat) (first : Bool) : Nat :=
  let scaled := if first then delta / 700 else delta / 2
  let (rest, position) := shrink (scaled + scaled / count) 0
  position + 36 * rest / (rest + 38)

def initialBias : Nat := 72

/-- The first code point that is not ASCII. -/
def initialPoint : Nat := 128

/-! ## Encoding -/

theorem threshold_bounds (position bias : Nat) :
    1 ≤ threshold position bias ∧ threshold position bias ≤ 26 := by
  unfold threshold
  split
  · omega
  · split <;> omega

/-- The digits of a step. -/
def digits (bias position value : Nat) : List Char :=
  let t := threshold position bias
  if value < t then [digitChar value]
  else
    digitChar (t + (value - t) % (36 - t)) ::
      digits bias (position + 36) ((value - t) / (36 - t))
  termination_by value
  decreasing_by
    have h := threshold_bounds position bias
    calc (value - threshold position bias) / (36 - threshold position bias)
        ≤ value - threshold position bias := Nat.div_le_self _ _
      _ < value := by omega

/-- An encoding under way. -/
structure Encoder where
  output : List Char
  delta : Nat
  bias : Nat
  handled : Nat

/-- Passes one character while the code point `point` is encoded. -/
def Encoder.pass (basic point : Nat) (e : Encoder) (c : Char) : Encoder :=
  if c.toNat < point then { e with delta := e.delta + 1 }
  else if c.toNat = point then
    { output := e.output ++ digits e.bias 36 e.delta
      delta := 0
      bias := adapt e.delta (e.handled + 1) (e.handled = basic)
      handled := e.handled + 1 }
  else e

/-- Encodes code points in increasing order; all below `next` are done. -/
def encodePoints (label : List Char) (basic : Nat) (next : Nat) (e : Encoder) :
    List Nat → Encoder
  | [] => e
  | point :: points =>
    let start := { e with delta := e.delta + (point - next) * (e.handled + 1) }
    let passed := label.foldl (Encoder.pass basic point) start
    encodePoints label basic (point + 1) { passed with delta := passed.delta + 1 } points

/-- Puts a number into an increasing list, once. -/
def insertOnce (n : Nat) : List Nat → List Nat
  | [] => [n]
  | m :: ms => if n < m then n :: m :: ms else if n = m then m :: ms else m :: insertOnce n ms

/-- Encodes a label. -/
def encode (label : List Char) : List Char :=
  let basic := label.filter fun c => c.toNat < initialPoint
  let others := (label.filter fun c => initialPoint ≤ c.toNat).map Char.toNat
  let start : Encoder :=
    ⟨if basic.isEmpty then [] else basic ++ ['-'], 0, initialBias, basic.length⟩
  (encodePoints label basic.length initialPoint start (others.foldr insertOnce [])).output

/-! ## Decoding -/

/-- A decoding under way: the label so far, the place and the code point of
the walk, and the step being read. -/
structure Decoder where
  label : List Char
  point : Nat
  place : Nat
  bias : Nat
  value : Nat := 0
  weight : Nat := 1
  position : Nat := 36

/-- Ends a step of the walk: a character is put into the label. -/
def Decoder.finishStep (d : Decoder) (value : Nat) : Option Decoder :=
  let count := d.label.length + 1
  let walk := d.place + value
  let point := d.point + walk / count
  let place := walk % count
  if point.isValidChar then
    some {
      label := d.label.take place ++ Char.ofNat point :: d.label.drop place
      point
      place := place + 1
      bias := adapt value count (d.place = 0) }
  else none

/-- Takes one digit. -/
def Decoder.step (d : Decoder) (c : Char) : Option Decoder := do
  let digit ← digitValue? c
  let value := d.value + digit * d.weight
  let t := threshold d.position d.bias
  if digit < t then d.finishStep value
  else return { d with value, weight := d.weight * (36 - t), position := d.position + 36 }

/-- The part of a label before its last hyphen, and the part behind it.  A
hyphen at the front of a label is a digit, and so a fault. -/
def splitLastHyphen (cs : List Char) : List Char × List Char :=
  let digits := (cs.reverse.takeWhile (· ≠ '-')).reverse
  let basic := cs.take (cs.length - digits.length - 1)
  if basic.isEmpty then ([], cs) else (basic, digits)

/-- Decodes a label; nothing if it does not encode one. -/
def decode? (cs : List Char) : Option (List Char) := do
  let (basic, digits) := splitLastHyphen cs
  guard (basic.all fun c => c.toNat < initialPoint)
  let d ← digits.foldlM Decoder.step ⟨basic, initialPoint, 0, initialBias, 0, 1, 36⟩
  if d.position = 36 then some d.label else none

end SearchRelay.Url.Punycode
