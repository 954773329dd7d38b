import SearchRelay.Text.Lowercase

/-!
# SearchRelay.Text.Search

The first occurrence of a text in another one, whatever the case.  Characters
are compared one by one in lower case; the place found is given in
characters, and as a range of UTF-8 bytes.
-/

namespace SearchRelay.Text

def sameLower (c d : Char) : Bool := Lowercase.lowerChar c == Lowercase.lowerChar d

/-- Whether a text begins with a needle, whatever the case. -/
def startsIgnoringCase : (needle cs : List Char) → Bool
  | [], _ => true
  | _ :: _, [] => false
  | n :: ns, c :: cs => sameLower n c && startsIgnoringCase ns cs

/-- The number of characters before the first occurrence of a needle. -/
def occurrence? (needle : List Char) : List Char → Option Nat
  | [] => none
  | c :: cs =>
    if startsIgnoringCase needle (c :: cs) then some 0
    else (occurrence? needle cs).map (· + 1)

/-- A text around an occurrence. -/
structure Occurrence where
  before : List Char
  matched : List Char
  after : List Char
  deriving DecidableEq

/-- The first occurrence of a needle; an empty needle has none. -/
def findIgnoringCase? (haystack needle : String) : Option Occurrence :=
  let cs := haystack.toList
  let n := needle.toList
  if n.isEmpty then none
  else (occurrence? n cs).map fun i =>
    ⟨cs.take i, (cs.drop i).take n.length, (cs.drop i).drop n.length⟩

/-- The number of UTF-8 bytes of a text. -/
def byteSize (cs : List Char) : Nat := cs.foldr (fun c n => c.utf8Size + n) 0

/-- Where the occurrence begins and ends, in UTF-8 bytes. -/
def Occurrence.byteRange (o : Occurrence) : Nat × Nat :=
  (byteSize o.before, byteSize o.before + byteSize o.matched)

end SearchRelay.Text
