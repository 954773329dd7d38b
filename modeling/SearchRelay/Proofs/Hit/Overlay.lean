import SearchRelay.Hit
import SearchRelay.Proofs.FieldPath
import SearchRelay.Proofs.Json.Fields

/-!
# SearchRelay.Proofs.Hit.Overlay

Candidates from a document with the snippets of its hit in place.

1. `find?_highlighted` — the document answers for a key with the first snippet under this
   key, and with the field itself if there is none.
2. `follow?_of_written` — a text under the whole of a path is where the path leads.
   `follow?_congr` — otherwise a path depends on two keys at the top, the whole of it and
   its first segment.

`candidate?_highlighted` says what that makes of a candidate.  The snippets are taken to be
sorted by their fields, as those of every hit that is read are (`ordered_of_decode`).
-/

namespace SearchRelay

open Json

/-! ## documents with snippets -/

namespace Hit

/-- A snippet replaces the field it is of, and no other. -/
theorem find?_overlay (source : Fields) (name : String) (snippets : Json) (key : String) :
    (overlay source (name, snippets)).find? key =
      if key = name then (snippet? snippets).or (source.find? key) else source.find? key := by
  cases hfirst : snippet? snippets with
  | none => simp [overlay, hfirst]
  | some first => simp [overlay, hfirst, Fields.find?_insert]

/-- Snippets of fields that are all different do not get in each other's way. -/
theorem find?_foldl_overlay {highlight : Fields} (h : highlight.Sorted) (source : Fields)
    (key : String) :
    (highlight.foldl overlay source).find? key =
      ((highlight.find? key).bind snippet?).or (source.find? key) := by
  induction highlight generalizing source with
  | nil => rfl
  | cons field rest ih =>
      obtain ⟨name, snippets⟩ := field
      obtain ⟨hbelow, hrest⟩ := (Fields.sorted_cons _ _).mp h
      rw [List.foldl_cons, ih hrest, find?_overlay, Fields.find?_cons]
      split
      · next hkey =>
        subst hkey
        rw [Fields.find?_eq_none_of_lt hbelow, Option.bind_none, Option.none_or, Option.bind_some]
      · rfl

/-- What a document with its snippets in place answers. -/
theorem find?_highlighted {h : Hit} (hsorted : h.highlight.Sorted) (key : String) :
    h.highlighted.find? key =
      ((h.highlight.find? key).bind snippet?).or (h.source.find? key) :=
  find?_foldl_overlay hsorted h.source key

/-- The first snippet of a list that has one. -/
theorem snippet?_eq_some_iff {snippets first : Json} :
    snippet? snippets = some first ↔ ∃ rest, snippets = .array (first :: rest) := by
  cases snippets with
  | array items => cases items <;> simp [snippet?, eq_comm]
  | null | bool _ | number _ | string _ | object _ => simp [snippet?]

/-- A field that has no snippets is left as it is. -/
theorem find?_highlighted_of_unmarked {h : Hit} (hsorted : h.highlight.Sorted) {key : String}
    (hnone : ∀ first rest, h.highlight.find? key ≠ some (.array (first :: rest))) :
    h.highlighted.find? key = h.source.find? key := by
  rw [find?_highlighted hsorted]
  cases hsnippets : h.highlight.find? key with
  | none => rfl
  | some snippets =>
      cases hfirst : snippet? snippets with
      | none => rw [Option.bind_some, hfirst, Option.none_or]
      | some first =>
          obtain ⟨rest, rfl⟩ := snippet?_eq_some_iff.mp hfirst
          exact absurd hsnippets (hnone first rest)

end Hit

/-! ## paths -/

namespace FieldPath

variable {query : String} {source other : Fields}

/-- A text under the whole of a path is where the path leads. -/
theorem follow?_of_written {path : FieldPath} {text : String} (hpath : path ≠ [])
    (h : source.find? path.written = some (.string text)) (htext : text ≠ "") :
    follow? query path source = some text := by
  cases path with
  | nil => exact absurd rfl hpath
  | cons key rest =>
      cases rest with
      | nil =>
          rw [written_singleton] at h
          rw [follow?, h]
          rfl
      | cons next rest =>
          have hwhole : whole? query (key :: next :: rest) source = some text :=
            whole?_eq_some_iff.mpr ⟨.string text, h, rfl, htext⟩
          rw [follow?, hwhole, Option.some_or]

/-- A path depends on what stands under the whole of it and under its first segment. -/
theorem follow?_congr {path : FieldPath}
    (hwhole : source.find? path.written = other.find? path.written)
    (hfirst : ∀ key ∈ path.head?, source.find? key = other.find? key) :
    follow? query path source = follow? query path other := by
  cases path with
  | nil => rfl
  | cons key rest =>
      have hkey := hfirst key rfl
      cases rest with
      | nil => rw [follow?, follow?, hkey]
      | cons next rest => rw [follow?, follow?, whole?, whole?, hwhole, hkey]

end FieldPath

/-! ## candidates -/

open FieldPath in
/-- **Snippets and candidates**: the first snippet of a field, if it is a text that is not
empty, is the candidate that the field gives, whatever the document holds; and where
neither the field nor its first segment has a snippet, the candidate is the one of the
document alone. -/
theorem Hit.candidate?_highlighted {h : Hit} (hsorted : h.highlight.Sorted)
    (field query : String) :
    (∀ text rest, h.highlight.find? field = some (.array (.string text :: rest)) → text ≠ "" →
      candidate? h.highlighted field query = some text) ∧
    ((∀ key first rest, h.highlight.find? key = some (.array (first :: rest)) →
        key ≠ field ∧ (ofString field).head? ≠ some key) →
      candidate? h.highlighted field query = candidate? h.source field query) := by
  constructor
  · intro text rest hsnippets htext
    refine follow?_of_written (ofString_ne_nil field) ?_ htext
    rw [written_ofString, find?_highlighted hsorted, hsnippets]
    rfl
  · intro hnone
    refine follow?_congr ?_ fun key hkey => ?_
    · rw [written_ofString]
      exact find?_highlighted_of_unmarked hsorted fun first rest hsnippets =>
        (hnone field first rest hsnippets).1 rfl
    · exact find?_highlighted_of_unmarked hsorted fun first rest hsnippets =>
        (hnone key first rest hsnippets).2 hkey

/-- A hit with a snippet of a nested field, and no snippets of another one. -/
def Hit.markedHit : Hit where
  id := some "1"
  source := [("title", .array [.string "Notes", .string "Countess"]),
    ("user", .object [("name", .string "Ada Lovelace")])]
  highlight := [("title", .array []), ("user.name", .array [.string "Ada <em>Lovelace</em>"])]

/-- A snippet of a field with a dotted name is found, and an empty list changes nothing.
-/
theorem Hit.candidate?_highlighted_userName :
    markedHit.highlight.Sorted ∧
      FieldPath.candidate? markedHit.highlighted "user.name" "love" =
        some "Ada <em>Lovelace</em>" ∧
      FieldPath.candidate? markedHit.highlighted "title" "count" =
        FieldPath.candidate? markedHit.source "title" "count" ∧
      FieldPath.candidate? markedHit.source "title" "count" = some "Countess" := by
  have hsorted : markedHit.highlight.Sorted := by
    rw [Fields.Sorted]
    decide +kernel
  obtain ⟨hmarked, -⟩ := candidate?_highlighted hsorted "user.name" "love"
  obtain ⟨-, hplain⟩ := candidate?_highlighted hsorted "title" "count"
  refine ⟨hsorted, hmarked _ [] rfl (by decide), hplain fun key first rest hkey => ?_,
    by decide +kernel⟩
  have hmem := Fields.mem_of_find? hkey
  simp only [markedHit, List.mem_cons, List.not_mem_nil, or_false, Prod.mk.injEq] at hmem
  rcases hmem with ⟨-, hnil⟩ | ⟨rfl, -⟩
  · cases hnil
  · decide +kernel

end SearchRelay
