import SearchRelay.Json.Decode

/-!
# SearchRelay.Suggestion

A suggestion: a plain text, a label that may carry markup, and what is known
of the document it comes from.

`Suggestion.distinct` keeps the first suggestion of each document and drops
those of no document.
-/

namespace SearchRelay

/-- Where a suggestion comes from. -/
inductive Suggestion.Origin where
  | index
  | popular
  | recent
  | promoted
  deriving DecidableEq

/-- The name of an origin. -/
def Suggestion.Origin.name : Suggestion.Origin → String
  | .index => "index"
  | .popular => "popular"
  | .recent => "recent"
  | .promoted => "promoted"

/-- A suggestion. -/
structure Suggestion where
  value : String := ""
  label : String := ""
  url : Option String := none
  origin : Suggestion.Origin := .index
  category : Option String := none
  count : Option Nat := none
  id : Option String := none
  index : Option String := none
  score : Option Binary64 := none
  source : Json.Fields := []
  deriving DecidableEq

namespace Suggestion

open Json

/-! ## JSON -/

def Origin.decode : Decoder Origin :=
  Decoder.variant ([.index, .popular, .recent, .promoted].map fun o : Origin => (o.name, o))

/-- The fields of a suggestion. -/
def form : Record Suggestion where
  name := "Suggestion"
  fields := [
    .of "value" .required Decoder.text fun s v => { s with value := v },
    .of "label" .required Decoder.text fun s v => { s with label := v },
    .of "url" .named (Decoder.nullable Decoder.text) fun s v => { s with url := v },
    .of "_suggestion_type" .required Origin.decode fun s v => { s with origin := v },
    .of "_category" .named (Decoder.nullable Decoder.text) fun s v => { s with category := v },
    .of "_count" .named (Decoder.nullable (Decoder.natBelow UInt64.size "u64"))
      fun s v => { s with count := v },
    .of "_id" .named (Decoder.nullable Decoder.text) fun s v => { s with id := v },
    .of "_index" .named (Decoder.nullable Decoder.text) fun s v => { s with index := v },
    .of "_score" .named (Decoder.nullable Decoder.double) fun s v => { s with score := v },
    .of "_source" .required Decoder.fields fun s v => { s with source := v }]
  blank := {}

def decode : Decoder Suggestion := form.decode

/-- A suggestion as JSON. -/
def toJson (s : Suggestion) : Json := .object [
  ("_category", ofText? s.category),
  ("_count", s.count.elim .null Json.ofNat),
  ("_id", ofText? s.id),
  ("_index", ofText? s.index),
  ("_score", ofDouble? s.score),
  ("_source", .object s.source),
  ("_suggestion_type", .string s.origin.name),
  ("label", .string s.label),
  ("url", ofText? s.url),
  ("value", .string s.value)]

/-! ## Documents -/

/-- Keeps the first suggestion of each document that is not among those
seen. -/
def distinctFrom (seen : List String) : List Suggestion → List Suggestion
  | [] => []
  | s :: rest =>
    match s.id with
    | none => distinctFrom seen rest
    | some id =>
      if seen.contains id then distinctFrom seen rest
      else s :: distinctFrom (id :: seen) rest

/-- Keeps the first suggestion of each document. -/
def distinct (suggestions : List Suggestion) : List Suggestion := distinctFrom [] suggestions

end Suggestion

end SearchRelay
