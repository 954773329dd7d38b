import SearchRelay.Json.Decode

/-!
# SearchRelay.Hit

A hit of the backend: a document, and the snippets in which the backend marked
the words of the query.

`Hit.highlighted` is the document with the first snippet of every marked field
in place of the field; a snippet of a nested field stands under its dotted
path at the top.
-/

namespace SearchRelay

/-- A hit of the backend. -/
structure Hit where
  index : Option String := none
  id : Option String := none
  score : Option Binary64 := none
  source : Json.Fields := []
  highlight : Json.Fields := []
  deriving DecidableEq

namespace Hit

open Json

/-- Reads the id of a document; a number counts as its text. -/
def idText : Decoder (Option String) := fun r d => do
  match ← Decoder.any r d with
  | .null => return none
  | .string s => return some s
  | .number n => return some (String.ofList n.text)
  | other => throw (.unfitId other)

/-- Reads an object; null counts as an empty one. -/
def fieldsOrNull : Decoder Fields := fun r d => do
  return (← Decoder.nullable Decoder.fields r d).getD []

/-- The fields of a hit. -/
def form : Record Hit where
  name := "RawHit"
  fields := [
    .of "_index" .free (Decoder.nullable Decoder.text) fun h v => { h with index := v },
    .of "_id" .free idText fun h v => { h with id := v },
    .of "_score" .free (Decoder.nullable Decoder.double) fun h v => { h with score := v },
    .of "_source" .free fieldsOrNull fun h v => { h with source := v },
    .of "highlight" .free fieldsOrNull fun h v => { h with highlight := v }]
  blank := {}

def decode : Decoder Hit := form.decode

/-- A hit as JSON. -/
def toJson (h : Hit) : Json := .object [
  ("_id", ofText? h.id),
  ("_index", ofText? h.index),
  ("_score", ofDouble? h.score),
  ("_source", .object h.source),
  ("highlight", .object h.highlight)]

/-- The first snippet of a marked field. -/
def snippet? : Json → Option Json
  | .array (first :: _) => some first
  | _ => none

/-- Puts the first snippet of a marked field over the field. -/
def overlay (source : Fields) (field : String × Json) : Fields :=
  match snippet? field.2 with
  | some first => source.insert field.1 first
  | none => source

/-- The document of a hit with its snippets in place. -/
def highlighted (h : Hit) : Fields := h.highlight.foldl overlay h.source

end Hit

end SearchRelay
