import SearchRelay.Proofs.Suggestion.Gather

/-!
# SearchRelay.Proofs.Suggestion.Distinct

No label and no document stands twice among the suggestions of a query.

1. The candidates that are taken have labels of their own, whether they passed
   the gate or not (`nodup_labels_gather`).
2. Completions are kept only under labels that are new (`nodup_labels_freshFrom`,
   `notMem_labels_freshFrom`), so they may stand behind the others
   (`nodup_labels_completions`).
3. `distinct` keeps the first suggestion of each document and nothing else
   (`onePerDocument_distinct`).  Its recursion carries the documents seen, so the
   lemmas are about a rest of the list and any such documents.

`nodup_labels_suggest` puts these together.
-/

namespace SearchRelay.Suggestion

/-! ## labels -/

/-- No label occurs twice among the first candidates of the labels. -/
theorem nodup_labels_firstPerLabel (cs : List (Hit × String)) :
    ((firstPerLabel cs).map Prod.snd).Nodup := by
  induction cs with
  | nil => simp [firstPerLabel]
  | cons c cs ih =>
      rw [firstPerLabel, List.map_cons, List.nodup_cons]
      have hsub : ((firstPerLabel cs).filter (·.2 ≠ c.2)).Sublist (firstPerLabel cs) :=
        List.filter_sublist
      refine ⟨?_, ih.sublist (hsub.map Prod.snd)⟩
      -- whatever has the label of the first candidate is filtered out
      simp

/-- The two passes together take a label once. -/
theorem nodup_labels_gather (options : SuggestionOptions) (hits : List Hit) :
    ((gather options hits).map Suggestion.label).Nodup := by
  have hlabels : ∀ cs : List (Hit × String),
      ((cs.map fun c => ofHit options c.1 c.2).map Suggestion.label) = cs.map Prod.snd := by
    intro cs
    simp [ofHit]
  rw [gather_eq_reference, hlabels, reference]
  split
  · exact nodup_labels_firstPerLabel _
  · exact nodup_labels_firstPerLabel _

/-- No label that was seen is kept. -/
theorem notMem_labels_freshFrom {seen : List String} {suggestions : List Suggestion}
    {label : String} (h : label ∈ (freshFrom seen suggestions).map Suggestion.label) :
    label ∉ seen := by
  induction suggestions generalizing seen with
  | nil => simp [freshFrom] at h
  | cons s rest ih =>
      rw [freshFrom] at h
      split at h
      · exact ih h
      · next hnew =>
        rw [List.map_cons, List.mem_cons] at h
        cases h with
        | inl heq => simpa [heq] using hnew
        | inr hrest =>
            have hnot := ih hrest
            simp only [List.mem_cons, not_or] at hnot
            exact hnot.2

/-- A label that is kept counts as seen from then on. -/
theorem nodup_labels_freshFrom (seen : List String) (suggestions : List Suggestion) :
    ((freshFrom seen suggestions).map Suggestion.label).Nodup := by
  induction suggestions generalizing seen with
  | nil => simp [freshFrom]
  | cons s rest ih =>
      rw [freshFrom]
      split
      · exact ih seen
      · rw [List.map_cons, List.nodup_cons]
        refine ⟨fun hmem => ?_, ih _⟩
        exact notMem_labels_freshFrom hmem List.mem_cons_self

/-- Completions have labels of their own, none of which is there already. -/
theorem nodup_labels_completions {suggestions : List Suggestion}
    (h : (suggestions.map Suggestion.label).Nodup) (options : SuggestionOptions)
    (common : Stopwords) :
    ((suggestions ++ completions options common suggestions).map Suggestion.label).Nodup := by
  rw [completions]
  split
  · simpa using h
  · rw [List.map_append, List.nodup_append]
    refine ⟨h, nodup_labels_freshFrom _ _, fun label hold fresh hnew heq => ?_⟩
    rw [← heq] at hnew
    exact notMem_labels_freshFrom hnew hold

/-! ## documents -/

/- The suggestions are gone through from the front with the ids seen so far, so each id
is kept where it comes first. -/

/-- `kept` are those of `all` that are the first of their document. -/
structure OnePerDocument (all kept : List Suggestion) : Prop where
  /-- Each one belongs to a document. -/
  known : ∀ s ∈ kept, s.id.isSome
  /-- No document stands twice. -/
  nodup : (kept.map Suggestion.id).Nodup
  /-- Nothing is moved. -/
  sublist : kept.Sublist all
  /-- The first suggestion of a document stays the first. -/
  first : ∀ id, kept.find? (·.id = some id) = all.find? (·.id = some id)

/-- A suggestion without an id is left out. -/
theorem isSome_of_mem_distinctFrom {seen : List String} {all : List Suggestion} {s : Suggestion}
    (h : s ∈ distinctFrom seen all) : s.id.isSome := by
  fun_induction distinctFrom seen all with
  | case1 => simp at h
  | case2 seen first rest hnone ih => exact ih h
  | case3 seen first rest id hid hseen ih => exact ih h
  | case4 seen first rest id hid hseen ih =>
      cases List.mem_cons.mp h with
      | inl heq => simp [heq, hid]
      | inr hrest => exact ih hrest

theorem sublist_distinctFrom (seen : List String) (all : List Suggestion) :
    (distinctFrom seen all).Sublist all := by
  fun_induction distinctFrom seen all with
  | case1 => exact List.Sublist.refl []
  | case2 seen first rest hnone ih => exact List.Sublist.cons first ih
  | case3 seen first rest id hid hseen ih => exact List.Sublist.cons first ih
  | case4 seen first rest id hid hseen ih => exact List.Sublist.cons_cons first ih

/-- A document that was not seen is kept by its first suggestion, and one that
was seen not at all. -/
theorem find?_distinctFrom (seen : List String) (all : List Suggestion) (id : String) :
    (distinctFrom seen all).find? (·.id = some id) =
      if id ∈ seen then none else all.find? (·.id = some id) := by
  fun_induction distinctFrom seen all with
  | case1 => simp
  | case2 seen first rest hnone ih => simp [ih, hnone]
  | case3 seen first rest other hid hseen ih =>
      have hseen : other ∈ seen := by simpa using hseen
      by_cases heq : other = id
      · subst heq
        simp [ih, hseen]
      · simp [ih, hid, heq]
  | case4 seen first rest other hid hseen ih =>
      have hseen : other ∉ seen := by simpa using hseen
      by_cases heq : other = id
      · subst heq
        simp [hid, hseen]
      · have hne : id ≠ other := Ne.symm heq
        simp [ih, hid, heq, hne]

/-- No id occurs twice among the suggestions left. -/
theorem nodup_ids_distinctFrom (seen : List String) (all : List Suggestion) :
    ((distinctFrom seen all).map Suggestion.id).Nodup := by
  fun_induction distinctFrom seen all with
  | case1 => simp
  | case2 seen first rest hnone ih => exact ih
  | case3 seen first rest id hid hseen ih => exact ih
  | case4 seen first rest id hid hseen ih =>
      rw [List.map_cons, List.nodup_cons]
      refine ⟨fun hmem => ?_, ih⟩
      -- the document counts as seen in the rest, where nothing of it is found
      obtain ⟨s, hs, hsid⟩ := List.mem_map.mp hmem
      have hnone := find?_distinctFrom (id :: seen) rest id
      rw [if_pos List.mem_cons_self, List.find?_eq_none] at hnone
      exact hnone s hs (by simp [hsid, hid])

/-- One suggestion is left for each document, the first one. -/
theorem onePerDocument_distinct (all : List Suggestion) : OnePerDocument all (distinct all) where
  known _ hs := isSome_of_mem_distinctFrom hs
  nodup := nodup_ids_distinctFrom [] all
  sublist := sublist_distinctFrom [] all
  first id := by simp [distinct, find?_distinctFrom]

/-! ## the suggestions of a query -/

/-- The suggestions of a query before one per document is kept. -/
theorem nodup_labels_all {options : SuggestionOptions} (hall : options.distinct = false)
    (common : Stopwords) (hits : List Hit) :
    ((suggest options common hits).map Suggestion.label).Nodup := by
  rw [suggest, hall, if_neg Bool.false_ne_true]
  split
  · exact nodup_labels_completions (nodup_labels_gather options hits) options common
  · exact nodup_labels_gather options hits

/-- One per document is kept of the suggestions that there are without it. -/
theorem suggest_eq_distinct {options : SuggestionOptions} (hdistinct : options.distinct = true)
    (common : Stopwords) (hits : List Hit) :
    suggest options common hits =
      distinct (suggest { options with distinct := false } common hits) := by
  rw [suggest, if_pos hdistinct]
  rfl

/-- **No label stands twice** among the suggestions of a query, completions
included; and where one suggestion per document is asked for, the first one of
each document is kept and no other. -/
theorem nodup_labels_suggest (options : SuggestionOptions) (common : Stopwords)
    (hits : List Hit) :
    ((suggest options common hits).map Suggestion.label).Nodup ∧
      (options.distinct = true →
        OnePerDocument (suggest { options with distinct := false } common hits)
          (suggest options common hits)) := by
  cases hdistinct : options.distinct with
  | false => exact ⟨nodup_labels_all hdistinct common hits, fun h => nomatch h⟩
  | true =>
      rw [suggest_eq_distinct hdistinct]
      have hone := onePerDocument_distinct (suggest { options with distinct := false } common hits)
      exact ⟨(nodup_labels_all rfl common hits).sublist (hone.sublist.map Suggestion.label),
        fun _ => hone⟩

/-- Documents about telephones with two texts each; one of them has no id. -/
def phoneCaseHits : List Hit := [
  { id := some "1", source := [("sku", .string "iphone a1"), ("title", .string "iphone case")] },
  { source := [("sku", .string "iphone b2"), ("title", .string "iphone cable")] },
  { id := some "2",
    source := [("sku", .string "iphone a1"), ("title", .string "iphone case red")] }]

/-- A query for them that asks for completions and for one suggestion per
document. -/
def phoneCaseOptions : SuggestionOptions :=
  { value := "iphone", dataFields := ["title", "sku"], predictive := true, distinct := true }

/-- Three hits, of which two share a label and one has no id. -/
theorem nodup_labels_suggest_phoneCase :
    phoneCaseOptions.distinct = true ∧
      OnePerDocument
        (suggest { phoneCaseOptions with distinct := false } Stopwords.english phoneCaseHits)
        (suggest phoneCaseOptions Stopwords.english phoneCaseHits) ∧
      (suggest { phoneCaseOptions with distinct := false } Stopwords.english phoneCaseHits).map
          (fun s => (s.label, s.id)) =
        [("iphone case", some "1"), ("iphone a1", some "1"), ("iphone cable", none),
          ("iphone b2", none), ("iphone case red", some "2"),
          ("iphone<mark class=\"highlight\"> case</mark>", some "1"),
          ("iphone<mark class=\"highlight\"> a1</mark>", some "1"),
          ("iphone<mark class=\"highlight\"> cable</mark>", none),
          ("iphone<mark class=\"highlight\"> b2</mark>", none),
          ("iphone<mark class=\"highlight\"> case red</mark>", some "2")] ∧
      (suggest phoneCaseOptions Stopwords.english phoneCaseHits).map (fun s => (s.label, s.id)) =
        [("iphone case", some "1"), ("iphone case red", some "2")] := by
  refine ⟨rfl, ?_, by decide +kernel, by decide +kernel⟩
  exact (nodup_labels_suggest phoneCaseOptions Stopwords.english phoneCaseHits).2 rfl

end SearchRelay.Suggestion
