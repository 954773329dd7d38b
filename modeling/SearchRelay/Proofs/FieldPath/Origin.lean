import SearchRelay.Proofs.FieldPath
import SearchRelay.Proofs.Text.Search

/-!
# SearchRelay.Proofs.FieldPath.Origin

Where a candidate comes from.

1. `Supplies query value text` — a value gives a text for a query: it is that text, or
   an array in which it is the first text that suits the query, or the first text of
   all if none suits it.  Whatever else an array holds is passed over, and nothing
   but texts and arrays gives a text.
2. `supplies_of_terminal?` — the text at the end of a path is one that the value there
   gives.

`exists_supplies_of_candidate?` follows the written path of a candidate to such a value.
-/

namespace SearchRelay.FieldPath

open Text

/-! ## the text of a value -/

/-- A text contains a query, whatever the case. -/
def Suits (query text : String) : Prop :=
  (lowercase query).toList <:+: (lowercase text).toList

/-- A value gives a text for a query. -/
inductive Supplies (query : String) : Json → String → Prop where
  /-- A text gives itself. -/
  | text (text : String) : Supplies query (.string text) text
  /-- An array gives the first of its texts that suits the query. -/
  | suiting {before after : List Json} {text : String}
      (hbefore : ∀ t, .string t ∈ before → ¬ Suits query t) (hsuits : Suits query text) :
      Supplies query (.array (before ++ .string text :: after)) text
  /-- An array in which none suits the query gives its first text. -/
  | first {before after : List Json} {text : String} (hbefore : ∀ t, .string t ∉ before)
      (hnone : ∀ t, .string t ∈ before ++ .string text :: after → ¬ Suits query t) :
      Supplies query (.array (before ++ .string text :: after)) text

theorem string?_eq_some_iff {v : Json} {text : String} :
    v.string? = some text ↔ v = .string text := by
  cases v <;> simp [Json.string?]

theorem mem_filterMap_string?_iff {items : List Json} {text : String} :
    text ∈ items.filterMap Json.string? ↔ .string text ∈ items := by
  simp [List.mem_filterMap, string?_eq_some_iff]

/-- A text among the texts of an array is one of its items, behind those of the texts
before it. -/
theorem exists_of_filterMap_string? {items : List Json} {front rest : List String}
    {text : String} (h : items.filterMap Json.string? = front ++ text :: rest) :
    ∃ before after, items = before ++ .string text :: after ∧
      before.filterMap Json.string? = front := by
  obtain ⟨before, behind, rfl, hfront, hbehind⟩ := List.filterMap_eq_append_iff.mp h
  obtain ⟨skipped, v, after, rfl, hskipped, hv, -⟩ := List.filterMap_eq_cons_iff.mp hbehind
  obtain rfl := string?_eq_some_iff.mp hv
  refine ⟨before ++ skipped, after, (List.append_assoc _ _ _).symm, ?_⟩
  rw [List.filterMap_append, hfront, List.filterMap_eq_nil_iff.mpr hskipped, List.append_nil]

variable {query text : String}

/-- The text that an array is narrowed to. -/
theorem supplies_of_narrow? {items : List Json} (h : narrow? query items = some text) :
    Supplies query (.array items) text := by
  rw [narrow?, Option.or_eq_some_iff] at h
  rcases h with hfound | ⟨hnone, hhead⟩
  · obtain ⟨hsuits, front, rest, htexts, hfront⟩ := List.find?_eq_some_iff_append.mp hfound
    obtain ⟨before, after, rfl, rfl⟩ := exists_of_filterMap_string? htexts
    refine .suiting (fun t ht hsuits => ?_) (contains_iff.mp hsuits)
    have hnot := hfront t (mem_filterMap_string?_iff.mpr ht)
    rw [contains_iff.mpr hsuits] at hnot
    contradiction
  · obtain ⟨rest, htexts⟩ := List.head?_eq_some_iff.mp hhead
    rw [← List.nil_append (text :: rest)] at htexts
    obtain ⟨before, after, rfl, hbefore⟩ := exists_of_filterMap_string? htexts
    refine .first (fun t ht => ?_) fun t ht hsuits => ?_
    · have hmem := mem_filterMap_string?_iff.mpr ht
      rw [hbefore] at hmem
      contradiction
    · exact List.find?_eq_none.mp hnone t (mem_filterMap_string?_iff.mpr ht)
        (contains_iff.mpr hsuits)

/-- A text is given by a value that supplies it. -/
theorem supplies_of_terminal? {value : Json} (h : terminal? query value = some text) :
    Supplies query value text := by
  cases value with
  | string t =>
      cases h
      exact .text text
  | array items => exact supplies_of_narrow? h
  | null | bool _ | number _ | object _ => contradiction

/-! ## the way to a value -/

/-- **Where a candidate comes from**: there are keys, the field when they are joined by
dots, that lead from the document through objects, and through an object of an array
where there is one, to a value that gives the candidate. -/
theorem exists_supplies_of_candidate? {source : Json.Fields} {field : String}
    (h : candidate? source field query = some text) :
    ∃ front name target value, written (front ++ [name]) = field ∧
      Reaches source front target ∧ target.find? name = some value ∧
        Supplies query value text := by
  obtain ⟨front, last, target, value, hpath, hlast, hreaches, hvalue, htext, -⟩ :=
    exists_reaches_of_follow? h
  refine ⟨front, written last, target, value, ?_, hreaches, hvalue, supplies_of_terminal? htext⟩
  rw [written_append_written front hlast, ← hpath, written_ofString]

/-- A user in an array, with texts under a key with a dot. -/
def taggedUser : Json.Fields :=
  [("user", .array [.string "tags", .object [("id", .bool true)],
    .object [("tags.all", .array [.null, .string "red", .string "Light Blue", .string "blue"])]])]

/-- One of two tags in an array is the candidate. -/
theorem exists_supplies_of_candidate?_lightBlue :
    candidate? taggedUser "user.tags.all" "BLUE" = some "Light Blue" ∧
      ∃ front name target value, written (front ++ [name]) = "user.tags.all" ∧
        Reaches taggedUser front target ∧ target.find? name = some value ∧
          Supplies "BLUE" value "Light Blue" := by
  have hfound : candidate? taggedUser "user.tags.all" "BLUE" = some "Light Blue" := by
    decide +kernel
  exact ⟨hfound, exists_supplies_of_candidate? hfound⟩

end SearchRelay.FieldPath
