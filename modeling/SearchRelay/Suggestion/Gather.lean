import SearchRelay.FieldPath
import SearchRelay.Hit
import SearchRelay.Suggestion.Completion

/-!
# SearchRelay.Suggestion.Gather

Suggestions taken from hits.

1. The fields of the query are read, or those of the first hit.  Each hit and
   field gives one candidate for a label.
2. A candidate is taken if it is not blank, its label is new, and its plain
   text has a word of the query.
3. If that gives fewer suggestions than there are hits, and synonyms count,
   the candidates are gone through again without the last condition.
4. `Suggestion.suggest` also adds completions and keeps one suggestion per
   document, where the options say so.
-/

namespace SearchRelay.Suggestion

/-! ## Candidates -/

/-- The fields that suggestions are taken from. -/
def fieldsToRead (options : SuggestionOptions) (hits : List Hit) : List String :=
  if options.dataFields.isEmpty then (hits.head?.map fun h => FieldPath.leaves h.source).getD []
  else options.dataFields

def topText (source : Json.Fields) (field : Option String) : Option String :=
  field.bind fun f => (source.find? f).bind Json.string?

/-- The suggestion of a hit under a label. -/
def ofHit (options : SuggestionOptions) (hit : Hit) (label : String) : Suggestion where
  value := Html.plainText label
  label
  url := topText hit.source options.urlField
  category := topText hit.source options.categoryField
  id := hit.id
  index := hit.index
  score := hit.score
  source := hit.source

/-! ## Passes -/

/-- Takes a candidate unless it is blank, repeats a label, or fails the gate.
What is taken stands newest first. -/
def accept (options : SuggestionOptions) (gated : Bool) (hit : Hit) (taken : List Suggestion)
    (label : String) : List Suggestion :=
  if Text.allBlank label || taken.any (·.label = label) then taken
  else
    let s := ofHit options hit label
    if gated && !Text.wordMatch options.value s.value then taken else s :: taken

/-- Takes the candidates of a hit. -/
def acceptHit (options : SuggestionOptions) (fields : List String) (gated : Bool)
    (taken : List Suggestion) (hit : Hit) : List Suggestion :=
  let source := hit.highlighted
  fields.foldl (fun taken field =>
    match FieldPath.candidate? source field options.value with
    | some label => accept options gated hit taken label
    | none => taken) taken

/-- Takes the candidates of all hits. -/
def pass (options : SuggestionOptions) (fields : List String) (gated : Bool) (hits : List Hit)
    (taken : List Suggestion) : List Suggestion :=
  hits.foldl (acceptHit options fields gated) taken

/-- The suggestions that hits give, without completions. -/
def gather (options : SuggestionOptions) (hits : List Hit) : List Suggestion :=
  let fields := fieldsToRead options hits
  let first := pass options fields true hits []
  let all :=
    if first.length < hits.length ∧ options.synonyms then pass options fields false hits first
    else first
  all.reverse

/-- The suggestions that hits give. -/
def suggest (options : SuggestionOptions) (common : Stopwords) (hits : List Hit) :
    List Suggestion :=
  let gathered := gather options hits
  let all :=
    if options.predictive then gathered ++ completions options common gathered else gathered
  if options.distinct then distinct all else all

end SearchRelay.Suggestion
