import SearchRelay.Text.Blank
import SearchRelay.Text.Lowercase

/-!
# SearchRelay.Stopwords

Words that a completion should not end at.  A word counts whatever its case
and the blanks around it.
-/

namespace SearchRelay

/-- A set of stopwords. -/
structure Stopwords where
  words : List String
  deriving DecidableEq

namespace Stopwords

/-- The form in which words are compared. -/
def key (word : String) : String := Text.lowercase (Text.trim word)

/-- Adds a word, unless it is there or blank. -/
def insert (stopwords : Stopwords) (word : String) : Stopwords :=
  if (key word).isEmpty ∨ key word ∈ stopwords.words then stopwords
  else ⟨key word :: stopwords.words⟩

def ofList (words : List String) : Stopwords := words.foldl insert ⟨[]⟩

def contains (stopwords : Stopwords) (word : String) : Bool := stopwords.words.contains (key word)

def size (stopwords : Stopwords) : Nat := stopwords.words.length

def isEmpty (stopwords : Stopwords) : Bool := stopwords.words.isEmpty

/-- Common English words. -/
def englishWords : List String := [
  "a", "about", "above", "after", "again", "against", "all", "am", "an", "and", "any", "are",
  "as", "at", "be", "because", "been", "before", "being", "below", "between", "both", "but", "by",
  "can", "could", "did", "do", "does", "doing", "down", "during", "each", "few", "for", "from",
  "further", "had", "has", "have", "having", "he", "her", "here", "hers", "herself", "him",
  "himself", "his", "how", "i", "if", "in", "into", "is", "it", "its", "itself", "just", "me",
  "more", "most", "my", "myself", "no", "nor", "not", "now", "of", "off", "on", "once", "only",
  "or", "other", "our", "ours", "ourselves", "out", "over", "own", "same", "she", "should", "so",
  "some", "such", "than", "that", "the", "their", "theirs", "them", "themselves", "then", "there",
  "these", "they", "this", "those", "through", "to", "too", "under", "until", "up", "very", "was",
  "we", "were", "what", "when", "where", "which", "while", "who", "whom", "why", "will", "with",
  "would", "you", "your", "yours", "yourself", "yourselves"]

def english : Stopwords := ofList englishWords

end Stopwords

end SearchRelay
