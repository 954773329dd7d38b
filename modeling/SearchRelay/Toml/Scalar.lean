import SearchRelay.Binary64.Decimal
import SearchRelay.Toml.Moment
import SearchRelay.Toml.Value

/-!
# SearchRelay.Toml.Scalar

Values that are written as one word: numbers, truth values, dates and times.

1. An integer is decimal, with a sign if need be, or hexadecimal, octal or
   binary behind `0x`, `0o`, `0b`.  It must fit into 64 bits with a sign.
2. A float is rounded correctly.  One that is too large is refused; below the
   range it is an infinity.
3. Single underscores may stand between digits.
-/

namespace SearchRelay.Toml.Scalar

/-! ## Digits -/

/-- The digits of a run in which single underscores may separate them. -/
def run? (test : Char → Bool) (cs : List Char) : Option (List Char) :=
  let pieces := Text.splitBy (· = '_') cs
  if pieces.all fun piece => !piece.isEmpty && piece.all test then some pieces.flatten else none

/-- The number that digits write in a base. -/
def numberIn (base : Nat) (digits : List Char) : Nat :=
  digits.foldl (fun n c => n * base + Text.Table.digitValue c) 0

/-- Splits off a sign: whether it is a minus, and the rest. -/
def splitSign : List Char → Bool × List Char
  | '-' :: cs => (true, cs)
  | '+' :: cs => (false, cs)
  | cs => (false, cs)

/-- The digits of a whole number, which does not begin with a zero unless it
is one. -/
def whole? (cs : List Char) : Option (List Char) :=
  match run? Char.isDigit cs with
  | some ('0' :: _ :: _) => none
  | digits? => digits?

/-! ## Integers -/

def isHexDigit (c : Char) : Bool := c.isDigit || ('a' ≤ c && c ≤ 'f') || ('A' ≤ c && c ≤ 'F')

def isOctalDigit (c : Char) : Bool := '0' ≤ c && c ≤ '7'

def isBinaryDigit (c : Char) : Bool := c = '0' || c = '1'

/-- An integer that is in range. -/
def inRange? (i : Int) : Option Value :=
  if leastInteger ≤ i ∧ i < integerEnd then some (.integer i) else none

/-- Reads an integer. -/
def integer? : List Char → Option Value
  | '0' :: 'x' :: cs => (run? isHexDigit cs).bind fun ds => inRange? (numberIn 16 ds)
  | '0' :: 'o' :: cs => (run? isOctalDigit cs).bind fun ds => inRange? (numberIn 8 ds)
  | '0' :: 'b' :: cs => (run? isBinaryDigit cs).bind fun ds => inRange? (numberIn 2 ds)
  | cs =>
    let (negative, cs) := splitSign cs
    (whole? cs).bind fun ds =>
      let n := numberIn 10 ds
      inRange? (if negative then -(n : Int) else n)

/-! ## Floats -/

/-- A float that is written with digits and an exponent of ten. -/
def float? (negative : Bool) (whole fraction : List Char) (exponent : Int) : Option Value :=
  let decimal : Binary64.Decimal :=
    ⟨numberIn 10 (whole ++ fraction), exponent - fraction.length⟩
  match Binary64.nearestDecimal? negative decimal with
  | some x => some (.double x)
  | none => if negative then some .notFinite else none

/-- Reads the exponent of a float. -/
def exponent? (cs : List Char) : Option Int :=
  let (negative, cs) := splitSign cs
  (run? Char.isDigit cs).map fun ds =>
    let n := numberIn 10 ds
    if negative then -(n : Int) else n

/-- Reads a float with digits. -/
def decimal? (cs : List Char) : Option Value := do
  let (negative, cs) := splitSign cs
  let isMark := fun c => c = 'e' || c = 'E'
  let mantissa := cs.takeWhile fun c => !isMark c
  let exponent ← match cs.drop mantissa.length with
    | [] => some 0
    | _ :: rest => exponent? rest
  match Text.splitBy (· = '.') mantissa with
  | [whole] =>
    if mantissa.length = cs.length then none
    else float? negative (← whole? whole) [] exponent
  | [whole, fraction] =>
    float? negative (← whole? whole) (← run? Char.isDigit fraction) exponent
  | _ => none

def special? (cs : List Char) : Option Value :=
  let (_, cs) := splitSign cs
  if cs = ['i', 'n', 'f'] ∨ cs = ['n', 'a', 'n'] then some .notFinite else none

/-! ## Words -/

/-- Reads a truth value. -/
def boolean? (cs : List Char) : Option Value :=
  if cs = ['t', 'r', 'u', 'e'] then some (.boolean true)
  else if cs = ['f', 'a', 'l', 's', 'e'] then some (.boolean false)
  else none

def moment? (cs : List Char) : Option Value :=
  (Moment.text? cs).map fun text => .moment (String.ofList text)

def ofWord? (word : List Char) : Option Value :=
  moment? word <|> decimal? word <|> integer? word <|> special? word <|> boolean? word

end SearchRelay.Toml.Scalar
