import SearchRelay.Json.Basic

/-!
# SearchRelay.Json.Token

The tokens of a JSON text.

1. A text is cut into tokens before it is read as a value; blanks (space, tab,
   line feed, carriage return) only separate tokens.
2. A string token holds its characters, or nothing if an escape names half of
   a surrogate pair.  A number token holds its value, or nothing if it is too
   large for a binary64 number.  Such tokens are well-formed text without a
   value; whether that matters is decided by who reads the value.
3. An integer text in the 64-bit range is an integer.  Any other number is the
   binary64 number of its leading digits, as many as fit into 64 bits, scaled
   by a power of ten; so is `-0`.
-/

namespace SearchRelay.Json

/-- A token of a JSON text. -/
inductive Token where
  | beginArray
  | endArray
  | beginObject
  | endObject
  | colon
  | comma
  | null
  | bool (value : Bool)
  | number (value : Option Number)
  | string (value : Option String)
  deriving DecidableEq

/-! ## Strings -/

/-- The value of a hexadecimal digit. -/
def hexValue? (c : Char) : Option Nat :=
  if '0' ≤ c ∧ c ≤ '9' then some (c.toNat - '0'.toNat)
  else if 'a' ≤ c ∧ c ≤ 'f' then some (c.toNat - 'a'.toNat + 10)
  else if 'A' ≤ c ∧ c ≤ 'F' then some (c.toNat - 'A'.toNat + 10)
  else none

def hexUnit? (a b c d : Char) : Option Nat := do
  return (((← hexValue? a) * 16 + (← hexValue? b)) * 16 + (← hexValue? c)) * 16 + (← hexValue? d)

/-- The character that a short escape stands for. -/
def shortEscape? : Char → Option Char
  | '"' => some '"'
  | '\\' => some '\\'
  | '/' => some '/'
  | 'b' => some '\x08'
  | 'f' => some '\x0c'
  | 'n' => some '\n'
  | 'r' => some '\r'
  | 't' => some '\t'
  | _ => none

/-- The code units up to the closing quote, and what follows it.  A unit is a
code point, or half of a surrogate pair named by an escape. -/
def scanUnits : List Char → Option (List Nat × List Char)
  | [] => none
  | '"' :: rest => some ([], rest)
  | '\\' :: 'u' :: a :: b :: c :: d :: rest => do
    let unit ← hexUnit? a b c d
    let (units, rest) ← scanUnits rest
    return (unit :: units, rest)
  | '\\' :: c :: rest => do
    let char ← shortEscape? c
    let (units, rest) ← scanUnits rest
    return (char.toNat :: units, rest)
  | c :: rest =>
    if c.val < 32 ∨ c = '\\' then none
    else do
      let (units, rest) ← scanUnits rest
      return (c.toNat :: units, rest)

/-- Joins surrogate pairs; nothing if a half stands alone. -/
def joinUnits? : List Nat → Option (List Char)
  | [] => some []
  | [u] => if 0xd800 ≤ u ∧ u < 0xe000 then none else some [Char.ofNat u]
  | u :: v :: rest =>
    if 0xd800 ≤ u ∧ u < 0xdc00 then
      if 0xdc00 ≤ v ∧ v < 0xe000 then do
        let chars ← joinUnits? rest
        return Char.ofNat (0x10000 + (u - 0xd800) * 0x400 + (v - 0xdc00)) :: chars
      else none
    else if 0xdc00 ≤ u ∧ u < 0xe000 then none
    else do
      let chars ← joinUnits? (v :: rest)
      return Char.ofNat u :: chars

/-! ## Numbers -/

def digitValue (c : Char) : Nat := c.toNat - '0'.toNat

def digits (cs : List Char) : List Nat := (cs.takeWhile Char.isDigit).map digitValue

def afterDigits (cs : List Char) : List Char := cs.dropWhile Char.isDigit

/-- The largest significand: the largest unsigned 64-bit integer. -/
def largestSignificand : Nat := UInt64.size - 1

/-- Digits collected so far: their significand, and the power of ten that the
significand still has to be multiplied with. -/
structure Collected where
  significand : Nat
  exponent : Int
  deriving DecidableEq

/-- Collects the digits before the point.  From the first digit that does not
fit on, each digit only counts as a power of ten. -/
def collectWhole (significand : Nat) : List Nat → Collected
  | [] => ⟨significand, 0⟩
  | d :: ds =>
    if largestSignificand < significand * 10 + d then ⟨significand, (ds.length + 1 : Nat)⟩
    else collectWhole (significand * 10 + d) ds

/-- Collects the digits after the point, up to the first that does not fit. -/
def collectFraction (c : Collected) : List Nat → Collected
  | [] => c
  | d :: ds =>
    if largestSignificand < c.significand * 10 + d then c
    else collectFraction ⟨c.significand * 10 + d, c.exponent - 1⟩ ds

/-- The parts of a number text. -/
structure NumberParts where
  negative : Bool
  whole : List Nat
  fraction : Option (List Nat)
  exponent : Option Int
  deriving DecidableEq

/-- The number of its parts; nothing if it is too large. -/
def NumberParts.value? (p : NumberParts) : Option Number :=
  let whole := collectWhole 0 p.whole
  if p.fraction.isNone ∧ p.exponent.isNone ∧ whole.exponent = 0 ∧
      (p.negative = false ∨
        (0 < whole.significand ∧ (whole.significand : Int) ≤ -leastInteger)) then
    some (.integer (if p.negative then -(whole.significand : Int) else whole.significand))
  else
    let all := collectFraction whole (p.fraction.getD [])
    (Binary64.ofDecimal? p.negative ⟨all.significand, all.exponent + p.exponent.getD 0⟩).map .double

/-- The sign of an exponent, positive if there is none. -/
def scanSign : List Char → Int × List Char
  | '+' :: rest => (1, rest)
  | '-' :: rest => (-1, rest)
  | rest => (1, rest)

/-- The exponent part, if there is one; nothing if it has no digits. -/
def scanExponent (cs : List Char) : Option (Option Int × List Char) :=
  match cs with
  | c :: rest =>
    if c = 'e' ∨ c = 'E' then
      let signed := scanSign rest
      match digits signed.2 with
      | [] => none
      | ds => some (some (signed.1 * ds.foldl (fun n d => n * 10 + d) (0 : Nat)),
          afterDigits signed.2)
    else some (none, cs)
  | [] => some (none, cs)

/-- The fraction part, if there is one; nothing if it has no digits. -/
def scanFraction (cs : List Char) : Option (Option (List Nat) × List Char) :=
  match cs with
  | '.' :: rest =>
    match digits rest with
    | [] => none
    | ds => some (some ds, afterDigits rest)
  | cs => some (none, cs)

def scanMinus : List Char → Bool × List Char
  | '-' :: rest => (true, rest)
  | rest => (false, rest)

/-- The parts of the number whose first digit is at the front.  The whole part
is not empty and a leading zero stands alone. -/
def scanUnsigned (negative : Bool) (cs : List Char) : Option (NumberParts × List Char) :=
  let whole := digits cs
  if whole = [] ∨ (whole.head? = some 0 ∧ 1 < whole.length) then none
  else do
    let (fraction, cs) ← scanFraction (afterDigits cs)
    let (exponent, cs) ← scanExponent cs
    return (⟨negative, whole, fraction, exponent⟩, cs)

/-- The parts of the number at the front. -/
def scanNumber (cs : List Char) : Option (NumberParts × List Char) :=
  scanUnsigned (scanMinus cs).1 (scanMinus cs).2

/-! ## Tokens -/

/-- Whether a character only separates tokens. -/
def isBlank (c : Char) : Bool := c = ' ' || c = '\t' || c = '\n' || c = '\r'

/-- The token at the front of a text that starts with no blank. -/
def scanToken : List Char → Option (Token × List Char)
  | '[' :: rest => some (.beginArray, rest)
  | ']' :: rest => some (.endArray, rest)
  | '{' :: rest => some (.beginObject, rest)
  | '}' :: rest => some (.endObject, rest)
  | ':' :: rest => some (.colon, rest)
  | ',' :: rest => some (.comma, rest)
  | 'n' :: 'u' :: 'l' :: 'l' :: rest => some (.null, rest)
  | 't' :: 'r' :: 'u' :: 'e' :: rest => some (.bool true, rest)
  | 'f' :: 'a' :: 'l' :: 's' :: 'e' :: rest => some (.bool false, rest)
  | '"' :: rest => do
    let (units, rest) ← scanUnits rest
    return (.string ((joinUnits? units).map String.ofList), rest)
  | cs => do
    let (parts, rest) ← scanNumber cs
    return (.number parts.value?, rest)

/-! ## Lengths -/

/-- A string that ends takes its closing quote at least. -/
theorem length_scanUnits : ∀ {cs : List Char} {units : List Nat} {rest : List Char},
    scanUnits cs = some (units, rest) → rest.length < cs.length := by
  intro cs
  fun_induction scanUnits cs with
  | case1 => simp
  | case2 rest => intro units rest' h; simp at h; simp [h.2]
  | case3 a b c d rest ih =>
    intro units rest' h
    simp only [Option.bind_eq_bind, Option.bind_eq_some_iff, Option.pure_def,
      Option.some.injEq, Prod.exists] at h
    obtain ⟨_, _, us, r, hr, he⟩ := h
    have := ih hr
    simp only [Prod.mk.injEq] at he
    simp only [List.length_cons]
    rw [← he.2]; omega
  | case4 c rest _ ih =>
    intro units rest' h
    simp only [Option.bind_eq_bind, Option.bind_eq_some_iff, Option.pure_def,
      Option.some.injEq, Prod.exists] at h
    obtain ⟨_, _, us, r, hr, he⟩ := h
    have := ih hr
    simp only [Prod.mk.injEq] at he
    simp only [List.length_cons]
    rw [← he.2]; omega
  | case5 => simp
  | case6 c rest _ _ _ _ ih =>
    intro units rest' h
    simp only [Option.bind_eq_bind, Option.bind_eq_some_iff, Option.pure_def,
      Option.some.injEq, Prod.exists] at h
    obtain ⟨us, r, hr, he⟩ := h
    have := ih hr
    simp only [Prod.mk.injEq] at he
    simp only [List.length_cons]
    rw [← he.2]; omega

theorem length_afterDigits (cs : List Char) : (afterDigits cs).length ≤ cs.length :=
  (List.dropWhile_suffix _).length_le

theorem length_scanSign (cs : List Char) : (scanSign cs).2.length ≤ cs.length := by
  unfold scanSign
  split <;> simp

theorem length_scanExponent {cs : List Char} {e : Option Int} {rest : List Char}
    (h : scanExponent cs = some (e, rest)) : rest.length ≤ cs.length := by
  unfold scanExponent at h
  split at h
  · next c rest' =>
    split at h
    · dsimp only at h
      split at h
      · simp at h
      · simp only [Option.some.injEq, Prod.mk.injEq] at h
        have h1 := length_afterDigits (scanSign rest').2
        have h2 := length_scanSign rest'
        rw [← h.2]
        simp only [List.length_cons]; omega
    · simp only [Option.some.injEq, Prod.mk.injEq] at h
      exact Nat.le_of_eq (congrArg List.length h.2.symm)
  · simp only [Option.some.injEq, Prod.mk.injEq] at h
    exact Nat.le_of_eq (congrArg List.length h.2.symm)

theorem length_scanFraction {cs : List Char} {f : Option (List Nat)} {rest : List Char}
    (h : scanFraction cs = some (f, rest)) : rest.length ≤ cs.length := by
  unfold scanFraction at h
  split at h
  · split at h
    · simp at h
    · next rest' _ _ =>
      simp only [Option.some.injEq, Prod.mk.injEq] at h
      rw [← h.2]
      have := length_afterDigits rest'
      simp only [List.length_cons]; omega
  · simp only [Option.some.injEq, Prod.mk.injEq] at h
    exact Nat.le_of_eq (congrArg List.length h.2.symm)

theorem length_afterDigits_of_digits {cs : List Char} (h : digits cs ≠ []) :
    (afterDigits cs).length < cs.length := by
  cases cs with
  | nil => simp [digits] at h
  | cons c cs =>
    by_cases hc : c.isDigit
    · have := length_afterDigits cs
      simp only [afterDigits, List.dropWhile_cons, hc, if_true, List.length_cons] at this ⊢
      omega
    · simp [digits, hc] at h

theorem length_scanMinus (cs : List Char) : (scanMinus cs).2.length ≤ cs.length := by
  unfold scanMinus
  split <;> simp

/-- A number takes a digit at least. -/
theorem length_scanUnsigned {negative : Bool} {cs : List Char} {p : NumberParts}
    {rest : List Char} (h : scanUnsigned negative cs = some (p, rest)) :
    rest.length < cs.length := by
  unfold scanUnsigned at h
  dsimp only at h
  split at h
  · simp at h
  · next hw =>
    simp only [Option.bind_eq_bind, Option.bind_eq_some_iff, Option.pure_def,
      Option.some.injEq, Prod.exists, Prod.mk.injEq] at h
    obtain ⟨f, r₁, hf, e, r₂, he, _, rfl⟩ := h
    have h1 := length_scanFraction hf
    have h2 := length_scanExponent he
    have h3 := length_afterDigits_of_digits fun hn => hw (.inl hn)
    omega

/-- So a number shortens the text, which is what the tokens are read along. -/
theorem length_scanNumber {cs : List Char} {p : NumberParts} {rest : List Char}
    (h : scanNumber cs = some (p, rest)) : rest.length < cs.length :=
  Nat.lt_of_lt_of_le (length_scanUnsigned h) (length_scanMinus cs)

/-- A token takes at least one character. -/
theorem length_scanToken {cs : List Char} {t : Token} {rest : List Char}
    (h : scanToken cs = some (t, rest)) : rest.length < cs.length := by
  unfold scanToken at h
  split at h
  iterate 9
    · simp only [Option.some.injEq, Prod.mk.injEq] at h
      rw [← h.2]; simp only [List.length_cons]; omega
  · simp only [Option.bind_eq_bind, Option.bind_eq_some_iff, Option.pure_def,
      Option.some.injEq, Prod.exists, Prod.mk.injEq] at h
    obtain ⟨us, r, hr, _, rfl⟩ := h
    have := length_scanUnits hr
    simp only [List.length_cons]; omega
  · simp only [Option.bind_eq_bind, Option.bind_eq_some_iff, Option.pure_def,
      Option.some.injEq, Prod.exists, Prod.mk.injEq] at h
    obtain ⟨p, r, hr, _, rfl⟩ := h
    exact length_scanNumber hr

/-! ## A whole text -/

/-- The tokens of a text; nothing if some part of it is no token. -/
def tokens? : List Char → Option (List Token)
  | [] => some []
  | c :: rest =>
    if isBlank c then tokens? rest
    else
      match _h : scanToken (c :: rest) with
      | none => none
      | some (token, after) => (tokens? after).map (token :: ·)
termination_by cs => cs.length
decreasing_by
  · simp
  · exact length_scanToken _h

end SearchRelay.Json
