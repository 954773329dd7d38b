import SearchRelay.Proofs.Suggestion.Completion
import SearchRelay.Suggestion.Gather

/-!
# SearchRelay.Proofs.Suggestion.Predictive

What completions do to the suggestions of a query.

1. A completion is a suggestion at hand under another text
   (`exists_retexted`), so it belongs to the same document.
2. A suggestion of a document that is there already, or of none, is not kept
   where one per document is asked for (`distinct_append`).

`suggest_predictive` — completions are only appended, and they do not show at
all where one suggestion per document is kept.
-/

namespace SearchRelay.Suggestion

/-! ## what a completion keeps -/

/-- A suggestion is another one under a text of its own: the two agree in all
but label and value. -/
def Retexted (s p : Suggestion) : Prop := p = { s with label := p.label, value := p.value }

theorem Retexted.id_eq {s p : Suggestion} (h : Retexted s p) : p.id = s.id := by
  rw [h]

/-- A completion has a text of its own and the rest of a suggestion. -/
theorem retexted_of_completion? {query : String} {most : Nat} {stopwords : Option Stopwords}
    {s p : Suggestion} (h : completion? query most stopwords s = some p) : Retexted s p := by
  obtain ⟨around, _, h⟩ := Option.bind_eq_some_iff.mp h
  obtain ⟨phrase, _, h⟩ := Option.bind_eq_some_iff.mp h
  cases h
  rfl

/-- Every completion is a suggestion at hand under another text. -/
theorem exists_retexted {options : SuggestionOptions} {common : Stopwords}
    {suggestions : List Suggestion} {p : Suggestion}
    (h : p ∈ completions options common suggestions) : ∃ s ∈ suggestions, Retexted s p := by
  obtain ⟨_, s, hs, hp⟩ := exists_of_mem_completions h
  exact ⟨s, hs, retexted_of_completion? hp⟩

/-! ## one suggestion per document -/

/-- A suggestion adds no document to those of a list: it belongs to one of
them, or to none. -/
def AddsNoDocument (known : List (Option String)) (p : Suggestion) : Prop :=
  ∀ id, p.id = some id → some id ∈ known

theorem AddsNoDocument.mono {known wider : List (Option String)} {p : Suggestion}
    (h : AddsNoDocument known p) (hwider : ∀ id, some id ∈ known → some id ∈ wider) :
    AddsNoDocument wider p := fun id hid => hwider id (h id hid)

/-- Nothing is kept of a list that adds no document to those seen. -/
theorem distinctFrom_eq_nil {seen : List String} {more : List Suggestion}
    (h : ∀ p ∈ more, AddsNoDocument (seen.map some) p) : distinctFrom seen more = [] := by
  induction more with
  | nil => rfl
  | cons p more ih =>
      obtain ⟨hp, hmore⟩ := List.forall_mem_cons.mp h
      rw [distinctFrom]
      cases hid : p.id with
      | none => exact ih hmore
      | some id =>
          have hseen : id ∈ seen := by
            obtain ⟨other, hmem, hother⟩ := List.mem_map.mp (hp id hid)
            exact Option.some.inj hother ▸ hmem
          dsimp only
          rw [if_pos (List.contains_iff_mem.mpr hseen)]
          exact ih hmore

/-- Suggestions that add no document are dropped from the end of a list.  The
documents of the list count as seen when its end is reached. -/
theorem distinctFrom_append {seen : List String} {all more : List Suggestion}
    (h : ∀ p ∈ more, AddsNoDocument (seen.map some ++ all.map Suggestion.id) p) :
    distinctFrom seen (all ++ more) = distinctFrom seen all := by
  induction all generalizing seen with
  | nil => exact distinctFrom_eq_nil (by simpa using h)
  | cons s all ih =>
      rw [List.cons_append, distinctFrom, distinctFrom]
      cases hid : s.id with
      | none => exact ih fun p hp => (h p hp).mono (by simp [hid])
      | some id =>
          dsimp only
          split
          · next hseen =>
            have hmem : id ∈ seen := List.contains_iff_mem.mp hseen
            refine ih fun p hp => (h p hp).mono fun other hother => ?_
            by_cases heq : other = id
            · exact List.mem_append_left _ (heq ▸ List.mem_map_of_mem hmem)
            · simpa [hid, heq] using hother
          · rw [ih fun p hp => (h p hp).mono (by simp [hid, or_left_comm])]

/-- Suggestions that add no document are left out behind the others. -/
theorem distinct_append {all more : List Suggestion}
    (h : ∀ p ∈ more, AddsNoDocument (all.map Suggestion.id) p) :
    distinct (all ++ more) = distinct all := distinctFrom_append h

/-! ## the suggestions of a query -/

/-- **Completions are only appended**: with completions, the suggestions of a
query are those without them, and behind these each completion is one of them
under another text; where one suggestion per document is asked for, completions
change nothing. -/
theorem suggest_predictive (options : SuggestionOptions) (common : Stopwords) (hits : List Hit) :
    (options.distinct = false →
      ∃ added : List Suggestion,
        suggest { options with predictive := true } common hits =
          suggest { options with predictive := false } common hits ++ added ∧
        ∀ p ∈ added, ∃ s ∈ suggest { options with predictive := false } common hits,
          Retexted s p) ∧
      (options.distinct = true →
        suggest { options with predictive := true } common hits =
          suggest { options with predictive := false } common hits) := by
  have hgather : ∀ predictive : Bool,
      gather { options with predictive := predictive } hits = gather options hits := fun _ => rfl
  constructor
  · intro hall
    have hoff : suggest { options with predictive := false } common hits = gather options hits := by
      rw [suggest, hgather, if_neg Bool.false_ne_true, hall, if_neg Bool.false_ne_true]
    have hon : suggest { options with predictive := true } common hits =
        gather options hits ++
          completions { options with predictive := true } common (gather options hits) := by
      rw [suggest, hgather, if_pos rfl, hall, if_neg Bool.false_ne_true]
    rw [hoff]
    exact ⟨_, hon, fun p hp => exists_retexted hp⟩
  · intro hdistinct
    rw [suggest, suggest, hgather, hgather, if_pos rfl, if_neg Bool.false_ne_true, if_pos hdistinct,
      if_pos hdistinct]
    refine distinct_append fun p hp id hid => ?_
    obtain ⟨s, hs, hretexted⟩ := exists_retexted hp
    exact List.mem_map.mpr ⟨s, hs, hretexted.id_eq.symm.trans hid⟩

/-- Documents about telephones, the second of which has no id. -/
def phoneRangeHits : List Hit := [
  { id := some "1", source := [("title", .string "iphone 12 pro")] },
  { source := [("title", .string "iphone case")] }]

/-- A query for them. -/
def phoneRangeOptions : SuggestionOptions := { value := "iphone", dataFields := ["title"] }

/-- Completions stand behind the suggestions of the same run without them. -/
theorem suggest_predictive_phoneRange :
    (∃ added : List Suggestion,
      suggest { phoneRangeOptions with predictive := true } Stopwords.english phoneRangeHits =
        suggest phoneRangeOptions Stopwords.english phoneRangeHits ++ added ∧
      ∀ p ∈ added, ∃ s ∈ suggest phoneRangeOptions Stopwords.english phoneRangeHits,
        Retexted s p) ∧
    suggest { phoneRangeOptions with distinct := true, predictive := true }
        Stopwords.english phoneRangeHits =
      suggest { phoneRangeOptions with distinct := true } Stopwords.english phoneRangeHits ∧
    (suggest { phoneRangeOptions with predictive := true } Stopwords.english phoneRangeHits).map
        (fun s => (s.value, s.id)) =
      [("iphone 12 pro", some "1"), ("iphone case", none), ("iphone 12 pro", some "1"),
        ("iphone case", none)] := by
  refine ⟨?_, ?_, by decide +kernel⟩
  · exact (suggest_predictive phoneRangeOptions Stopwords.english phoneRangeHits).1 rfl
  · exact (suggest_predictive { phoneRangeOptions with distinct := true } Stopwords.english
      phoneRangeHits).2 rfl

end SearchRelay.Suggestion
