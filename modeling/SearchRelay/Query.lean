import SearchRelay.Error
import SearchRelay.Json.Basic
import SearchRelay.Text.Blank

/-!
# SearchRelay.Query

A sub-query of a search: a name, a kind, the body for the backend, and the
options of a suggestion query.

`suggestionOptions` resolves those options.  A query without a value has none;
a value that is not a text, a blank data field and a blank stopword are
faults, in this order.
-/

namespace SearchRelay

/-- The kind of a query.  Only suggestion queries are treated in a way of
their own. -/
inductive Query.Kind where
  | search
  | suggestion
  | term
  | range
  | geo
  deriving DecidableEq

/-- The name of a kind. -/
def Query.Kind.name : Query.Kind → String
  | .search => "search"
  | .suggestion => "suggestion"
  | .term => "term"
  | .range => "range"
  | .geo => "geo"

/-- A field to take suggestions from: by name, or with a weight. -/
inductive Query.FieldSpec where
  | plain (field : String)
  | weighted (field : String) (weight : Option Binary64)
  deriving DecidableEq

def Query.FieldSpec.field : Query.FieldSpec → String
  | .plain field => field
  | .weighted field _ => field

/-- The fields to take suggestions from: one, or a list. -/
inductive Query.DataField where
  | single (field : String)
  | many (specs : List Query.FieldSpec)
  deriving DecidableEq

def Query.DataField.names : Query.DataField → List String
  | .single field => [field]
  | .many specs => specs.map Query.FieldSpec.field

/-- A sub-query of a search. -/
structure Query where
  id : String := ""
  kind : Query.Kind := .search
  index : Option String := none
  value : Option Json := none
  dataField : Option Query.DataField := none
  showDistinctSuggestions : Option Bool := none
  enablePredictiveSuggestions : Option Bool := none
  maxPredictedWords : Option Nat := none
  enableSynonyms : Option Bool := none
  applyStopwords : Option Bool := none
  stopwords : Option (List String) := none
  urlField : Option String := none
  categoryField : Option String := none
  body : Option Json := none
  deriving DecidableEq

/-! ## Faults -/

/-- Why a list of queries is no valid request. -/
inductive RequestFault where
  | noQueries
  | blankId
  | reservedId (id : String)
  | duplicateId (id : String)
  | valueNotText (id : String)
  | blankDataField (id : String)
  | blankStopword (id : String)
  | bodyNotObject (id : String)
  | noBody (id : String)
  deriving DecidableEq

/-- The wording of a fault. -/
def RequestFault.reason : RequestFault → String
  | .noQueries => "request must contain at least one query"
  | .blankId => "query id must not be blank"
  | .reservedId id => "query id `" ++ id ++ "` is reserved"
  | .duplicateId id => "duplicate query id `" ++ id ++ "`"
  | .valueNotText id => "suggestion query `" ++ id ++ "` must have a string value"
  | .blankDataField id => "suggestion query `" ++ id ++ "` has a blank data field"
  | .blankStopword id => "suggestion query `" ++ id ++ "` has a blank stopword"
  | .bodyNotObject id => "query `" ++ id ++ "` body must be a JSON object"
  | .noBody id => "query `" ++ id ++ "` has no body"

/-- A fault of the request as the client is told of it. -/
def RequestFault.error (fault : RequestFault) : Error := .validation fault.reason

/-! ## Options of a suggestion query -/

/-- How many words a completion may add, unless the query says otherwise. -/
def defaultPredictedWords : Nat := 2

/-- The options of a suggestion query. -/
structure SuggestionOptions where
  /-- The fields to read; if there are none, those of the first hit. -/
  dataFields : List String := []
  /-- What the user has typed. -/
  value : String := ""
  /-- Whether only the first suggestion of each document is kept. -/
  distinct : Bool := false
  /-- Whether completions are added. -/
  predictive : Bool := false
  /-- How many words a completion may add. -/
  maxPredictedWords : Nat := defaultPredictedWords
  /-- Whether hits without a word of the query count when the others do not
  suffice. -/
  synonyms : Bool := true
  /-- Whether a completion may not end at a stopword. -/
  applyStopwords : Bool := false
  /-- The stopwords of this query, instead of the common ones. -/
  stopwords : Option (List String) := none
  /-- The field that holds the address of a document. -/
  urlField : Option String := none
  /-- The field that holds the category of a document. -/
  categoryField : Option String := none
  deriving DecidableEq

namespace Query

def fieldNames (q : Query) : List String := q.dataField.elim [] DataField.names

/-- The options of a suggestion query; none if the query has no value. -/
def suggestionOptions (q : Query) : Except RequestFault (Option SuggestionOptions) :=
  match q.value with
  | none | some .null => .ok none
  | some (.string value) =>
    if q.fieldNames.any Text.allBlank then .error (.blankDataField q.id)
    else if (q.stopwords.getD []).any Text.allBlank then .error (.blankStopword q.id)
    else .ok (some {
      dataFields := q.fieldNames
      value
      distinct := q.showDistinctSuggestions.getD false
      predictive := q.enablePredictiveSuggestions.getD false
      maxPredictedWords := q.maxPredictedWords.getD defaultPredictedWords
      synonyms := q.enableSynonyms.getD true
      applyStopwords := q.applyStopwords.getD false
      stopwords := q.stopwords
      urlField := q.urlField
      categoryField := q.categoryField })
  | some _ => .error (.valueNotText q.id)

end Query

end SearchRelay
