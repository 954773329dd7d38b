import SearchRelay.Html.PlainText
import SearchRelay.Query
import SearchRelay.Stopwords
import SearchRelay.Suggestion
import SearchRelay.Text.Fold
import SearchRelay.Text.Search

/-!
# SearchRelay.Suggestion.Completion

Completions: suggestions that extend what the user has typed by a few words
of a suggestion at hand.

1. The words behind the match are tried first, the longest run first; then
   the words before it, the shortest run first.
2. A run is passed over if it is blank, or if the word at its outer end is a
   stopword.
3. The words added are marked in the label; label and value are in lower case.
4. A label that is there already is not added again.
-/

namespace SearchRelay.Suggestion

/-! ## Phrases -/

/-- The markup in front of the words added. -/
def markOpen : String := "<mark class=\"highlight\">"

/-- The markup behind the words added. -/
def markClose : String := "</mark>"

/-- A completed query. -/
structure Phrase where
  label : String
  value : String
  deriving DecidableEq

def joinWords (run : List (List Char)) : String :=
  String.ofList (List.intercalate [' '] run)

/-- The first runs of words, the longest first, up to `most` words. -/
def runsBehind (most : Nat) (words : List (List Char)) : List (List (List Char)) :=
  ((List.range (min most words.length)).map fun i => words.take (i + 1)).reverse

/-- The last runs of words, the shortest first, up to `most` words. -/
def runsBefore (most : Nat) (words : List (List Char)) : List (List (List Char)) :=
  (List.range (min most words.length)).map fun i => words.drop (words.length - (i + 1))

/-- Whether a run is fit to be added, given the word at its outer end. -/
def isFit (stopwords : Option Stopwords) (run : List (List Char)) (outer : Option (List Char)) :
    Bool :=
  !Text.allBlank (joinWords run) &&
    !(stopwords.any fun s => s.contains (String.ofList (outer.getD [])))

def phraseBehind (query : String) (run : List (List Char)) : Phrase :=
  ⟨query ++ markOpen ++ joinWords run ++ markClose, query ++ joinWords run⟩

def phraseBefore (query : String) (run : List (List Char)) : Phrase :=
  ⟨markOpen ++ joinWords run ++ markClose ++ query, joinWords run ++ query⟩

/-- The completion of a query by the text around a match.  The text behind a
match usually begins with a space and so with an empty word, which does not
count. -/
def phrase? (query : String) (most : Nat) (stopwords : Option Stopwords)
    (around : Text.Occurrence) : Option Phrase :=
  let behind := (runsBehind (most + 1) (Text.splitSpaces around.after)).find? fun run =>
    isFit stopwords run run.getLast?
  let before := (runsBefore (most + 1) (Text.splitSpaces around.before)).find? fun run =>
    isFit stopwords run run.head?
  (behind.map (phraseBehind query)).or (before.map (phraseBefore query))

/-! ## Completions -/

/-- The stopwords that count for a query. -/
def stopwordsFor (options : SuggestionOptions) (common : Stopwords) : Option Stopwords :=
  if options.applyStopwords then some (options.stopwords.elim common Stopwords.ofList) else none

/-- The completion that a suggestion gives. -/
def completion? (query : String) (most : Nat) (stopwords : Option Stopwords) (s : Suggestion) :
    Option Suggestion := do
  let around ← Text.findIgnoringCase? (Html.plainText s.label) query
  let phrase ← phrase? query most stopwords around
  return { s with label := Text.lowercase phrase.label, value := Text.lowercase phrase.value }

/-- Keeps the suggestions whose label is not among those seen, each label
once. -/
def freshFrom (seen : List String) : List Suggestion → List Suggestion
  | [] => []
  | s :: rest =>
    if seen.contains s.label then freshFrom seen rest else s :: freshFrom (s.label :: seen) rest

/-- The completions that a list of suggestions gives. -/
def completions (options : SuggestionOptions) (common : Stopwords) (suggestions : List Suggestion) :
    List Suggestion :=
  let query := Text.trim options.value
  if query.isEmpty ∨ options.maxPredictedWords = 0 then []
  else freshFrom (suggestions.map Suggestion.label) <|
    suggestions.filterMap <|
      completion? query options.maxPredictedWords (stopwordsFor options common)

end SearchRelay.Suggestion
