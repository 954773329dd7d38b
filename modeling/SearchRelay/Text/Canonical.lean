import SearchRelay.Text.Canonical.Table

/-!
# SearchRelay.Text.Canonical

Canonical decomposition and composition.

1. `decompose` replaces each character by its full canonical decomposition.
2. `nfd` also puts runs of combining marks into the order of their classes.
3. `compose` joins a starter with the characters behind it that are not
   blocked, and `nfc` is decomposition followed by composition.
-/

namespace SearchRelay.Text.Canonical

/-! ## Hangul syllables -/

def syllableBase : Nat := 0xac00

def leadBase : Nat := 0x1100

def vowelBase : Nat := 0x1161

/-- One before the first trailing consonant. -/
def trailBase : Nat := 0x11a7

def leadCount : Nat := 19

def vowelCount : Nat := 21

/-- The number of trailing consonants, counting none as one. -/
def trailCount : Nat := 28

def isSyllable (n : Nat) : Bool :=
  syllableBase ≤ n && n < syllableBase + leadCount * vowelCount * trailCount

/-- The letters of a Hangul syllable. -/
def syllableLetters (n : Nat) : List Char :=
  let i := n - syllableBase
  let lead := Char.ofNat (leadBase + i / (vowelCount * trailCount))
  let vowel := Char.ofNat (vowelBase + i % (vowelCount * trailCount) / trailCount)
  if i % trailCount = 0 then [lead, vowel]
  else [lead, vowel, Char.ofNat (trailBase + i % trailCount)]

/-- The Hangul syllable of two letters, or of a syllable and a trailing
consonant. -/
def joinLetters? (a b : Nat) : Option Nat :=
  if leadBase ≤ a ∧ a < leadBase + leadCount ∧ vowelBase ≤ b ∧ b < vowelBase + vowelCount then
    some (syllableBase + ((a - leadBase) * vowelCount + (b - vowelBase)) * trailCount)
  else if isSyllable a ∧ (a - syllableBase) % trailCount = 0 ∧
      trailBase < b ∧ b < trailBase + trailCount then
    some (a + (b - trailBase))
  else none

/-! ## Decomposition -/

/-- What a table has for a code point.  Tables are in increasing order, so the search
ends at the first row behind the code point. -/
def rowIn? {α : Type} (n : Nat) : List (Nat × α) → Option α
  | [] => none
  | (point, row) :: rest =>
    if n < point then none else if n = point then some row else rowIn? n rest

/-- How deep composites nest in each other. -/
def nesting : Nat := 3

/-- The decomposition of a code point through at most `depth` nested
composites.  The second part of a composite never decomposes further. -/
def expand : (depth : Nat) → (point : Nat) → List Char
  | 0, point => [Char.ofNat point]
  | depth + 1, point =>
    match rowIn? point composites with
    | some (a, b) => expand depth a ++ [Char.ofNat b]
    | none => match rowIn? point replacements with
      | some parts => parts.map Char.ofNat
      | none => [Char.ofNat point]

/-- The first character with a canonical mapping. -/
def firstMapped : Nat := 0xc0

/-- The full canonical decomposition of a character. -/
def decomposeChar (c : Char) : List Char :=
  if c.toNat < firstMapped then [c]
  else if isSyllable c.toNat then syllableLetters c.toNat
  else expand (nesting + 1) c.toNat

/-- The full canonical decomposition of a text, marks as they come. -/
def decompose (cs : List Char) : List Char := cs.flatMap decomposeChar

/-! ## Order of marks -/

/-- The class of a code point in a table of ranges. -/
def classIn (n : Nat) : List (Nat × Nat × Nat) → Nat
  | [] => 0
  | (first, last, k) :: rest =>
    if n < first then 0 else if n ≤ last then k else classIn n rest

def combiningClass (c : Char) : Nat := classIn c.toNat classRanges

/-- Puts a mark of class `k` before the first character of a smaller class in
a reversed run of marks. -/
def insertMark (c : Char) (k : Nat) : List Char → List Char
  | [] => [c]
  | d :: ds => if k < combiningClass d then d :: insertMark c k ds else c :: d :: ds

/-- Orders every run of marks by class, keeping the order within a class.
What is done so far stands in reverse. -/
def orderMarks (done : List Char) : List Char → List Char
  | [] => done.reverse
  | c :: cs =>
    if combiningClass c = 0 then orderMarks (c :: done) cs
    else orderMarks (insertMark c (combiningClass c) done) cs

def nfd (cs : List Char) : List Char := orderMarks [] (decompose cs)

/-! ## Composition -/

def wholeIn? (a b : Nat) : List (Nat × Nat × Nat) → Option Nat
  | [] => none
  | (whole, x, y) :: rest => if a = x ∧ b = y then some whole else wholeIn? a b rest

/-- The first character that is the second part of a composite. -/
def firstSecondPart : Nat := 0x300

def composePair? (a b : Char) : Option Char :=
  if b.toNat < firstSecondPart then none
  else ((joinLetters? a.toNat b.toNat).or (wholeIn? a.toNat b.toNat composites)).map Char.ofNat

/-- A composition under way: the last starter, and the characters behind it
that were not joined with it, in reverse. -/
structure Pending where
  starter : Char
  behind : List Char

/-- The characters of a pending composition, in reverse. -/
def Pending.reversed (p : Pending) : List Char := p.behind ++ [p.starter]

/-- Whether a character of class `k` is blocked from the starter: something
stands between them whose class is not smaller. -/
def Pending.blocks (p : Pending) (k : Nat) : Bool :=
  match p.behind with
  | [] => false
  | d :: _ => k ≤ combiningClass d

/-- Takes one character.  What is done stands in reverse. -/
def composeStep (state : List Char × Option Pending) (c : Char) : List Char × Option Pending :=
  match state with
  | (done, none) =>
    if combiningClass c = 0 then (done, some ⟨c, []⟩) else (c :: done, none)
  | (done, some p) =>
    let k := combiningClass c
    match if p.blocks k then none else composePair? p.starter c with
    | some whole => (done, some { p with starter := whole })
    | none =>
      if k = 0 then (p.reversed ++ done, some ⟨c, []⟩)
      else (done, some { p with behind := c :: p.behind })

/-- Canonical composition of a decomposed text. -/
def compose (cs : List Char) : List Char :=
  match cs.foldl composeStep ([], none) with
  | (done, none) => done.reverse
  | (done, some p) => (p.reversed ++ done).reverse

/-- Canonical composition of any text. -/
def nfc (cs : List Char) : List Char := compose (nfd cs)

end SearchRelay.Text.Canonical
