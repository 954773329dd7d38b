import SearchRelay.Text.Canonical
import SearchRelay.Text.Lowercase
import SearchRelay.Text.Mark
import SearchRelay.Text.Split

/-!
# SearchRelay.Text.Fold

Texts compared without their diacritics and without their case.

1. `foldDiacritics` decomposes, drops the combining marks and composes again.
2. `foldForMatch` is that in lower case, the form in which a word of a query
   is looked for in a candidate.
3. `wordMatch` holds if some word of the query occurs in the candidate; a
   query without words matches everything.
-/

namespace SearchRelay.Text

def foldChars (cs : List Char) : List Char :=
  Canonical.nfc ((Canonical.nfd cs).filter fun c => !isMark c)

/-- A text without its diacritics. -/
def foldDiacritics (text : String) : String := String.ofList (foldChars text.toList)

/-- A text without its diacritics and in lower case. -/
def foldForMatch (text : String) : String := lowercase (foldDiacritics text)

def occursIn (part : List Char) : List Char → Bool
  | [] => part.isEmpty
  | c :: cs => part.isPrefixOf (c :: cs) || occursIn part cs

def contains (text part : String) : Bool := occursIn part.toList text.toList

/-- The pieces of a text between single spaces. -/
def splitSpaces (cs : List Char) : List (List Char) := splitBy (· = ' ') cs

/-- The words of a text: its pieces between spaces that are not empty. -/
def words (text : String) : List String :=
  (wordsBy (· = ' ') text.toList).map String.ofList

/-- Whether some word of the query occurs in the candidate, both folded. -/
def wordMatch (query candidate : String) : Bool :=
  let folded := foldForMatch candidate
  let queryWords := words query
  queryWords.isEmpty || queryWords.any fun word => contains folded (foldForMatch word)

end SearchRelay.Text
