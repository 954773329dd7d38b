import SearchRelay.Text.Lowercase.Table

/-!
# SearchRelay.Text.Lowercase

Lower case without a locale, by the full mapping of Unicode 17.  One
character has a lower-case form of two characters, and the Greek capital
sigma has a final form at the end of a word.
-/

namespace SearchRelay.Text

namespace Lowercase

/-- The lower-case form of a code point in a table of runs.  The runs are in
increasing order, so the search ends at the first one behind the point. -/
def lowerIn (n : Nat) : List (Nat × Nat × Nat × Int) → Nat
  | [] => n
  | (first, last, step, distance) :: rest =>
    if n < first then n
    else if n ≤ last ∧ (n - first) % step = 0 then (n + distance).toNat
    else lowerIn n rest

/-- The lower-case form of a character that stands alone. -/
def lowerChar (c : Char) : List Char :=
  if c = '\u0130' then ['i', '\u0307'] else [Char.ofNat (lowerIn c.toNat runs)]

def sigma : Char := '\u03a3'

/-- The Greek small sigma at the end of a word. -/
def finalSigma : Char := '\u03c2'

def isCased (c : Char) : Bool := casedRanges.covers c

def isIgnorable (c : Char) : Bool := ignorableRanges.covers c

/-- Whether the first character that does not count as ignorable is cased. -/
def meetsCased (cs : List Char) : Bool :=
  match cs.dropWhile isIgnorable with
  | [] => false
  | c :: _ => isCased c

/-- Lower case of a text; `before` is the text in front of it, reversed.  A
sigma is final if a cased character stands before it and none behind it. -/
def lowerFrom (before : List Char) : List Char → List Char
  | [] => []
  | c :: cs =>
    (if c = sigma ∧ meetsCased before ∧ ¬ meetsCased cs then [finalSigma] else lowerChar c) ++
      lowerFrom (c :: before) cs

end Lowercase

def lowerChars (cs : List Char) : List Char := Lowercase.lowerFrom [] cs

def lowercase (text : String) : String := String.ofList (lowerChars text.toList)

end SearchRelay.Text
