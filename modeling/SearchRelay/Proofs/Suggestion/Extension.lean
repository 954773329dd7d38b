import SearchRelay.Proofs.Suggestion.Completion
import SearchRelay.Proofs.Suggestion.Distinct
import SearchRelay.Proofs.Suggestion.Phrase
import SearchRelay.Proofs.Text.Search

/-!
# SearchRelay.Proofs.Suggestion.Extension

What a completion is made of: the query, and a part of the text around its first
match in the suggestion that is completed.

1. `exists_extends_of_completion?` — the run that is chosen stands next to the
   match and ends at a space (`Extends`).
2. `exists_sources_of_sublist` — completions come from suggestions one by one, in
   their order.

`forall₂_extends_completions` — the completions of a list of suggestions belong
to some of these in turn, and their labels are new.
-/

namespace SearchRelay.Suggestion

open Text

/-! ## one completion -/

/-- `p` is `s` with the query in place of its texts, and next to the query, in
lower case, a text that stands there in the plain text of `s`. -/
structure Extends (query : String) (most : Nat) (s p : Suggestion) (around : Occurrence)
    (side : Side) (added : String) : Prop where
  isMatch : FirstMatch (Html.plainText s.label) query around
  adjoins : side.Adjoins around added.toList
  shown : allBlank added = false
  short : added.toList.count ' ' ≤ most
  /-- Nothing but label and value is changed. -/
  text : p = { s with
    label := lowercase (side.phrase query added).label
    value := lowercase (side.phrase query added).value }

/-- A completion adds the run that is chosen on a side of the first match. -/
theorem exists_extends_of_completion? {query : String} (hquery : query.toList ≠ []) {most : Nat}
    {stopwords : Option Stopwords} {s p : Suggestion}
    (h : completion? query most stopwords s = some p) :
    ∃ around side run, Chosen stopwords side (side.within most around) run ∧
      Extends query most s p around side (side.textOf run) := by
  obtain ⟨around, hfind, h⟩ := Option.bind_eq_some_iff.mp h
  obtain ⟨phrase, hphrase, h⟩ := Option.bind_eq_some_iff.mp h
  obtain ⟨side, run, hchosen, rfl⟩ := chosen_of_phrase? hphrase
  have hne : run ≠ [] := hchosen.fit.shown.ne_nil
  have hspace : ∀ piece ∈ run, ∀ c ∈ piece, decide (c = ' ') = false := fun piece hpiece =>
    Side.noSpace_of_mem_within (hchosen.isPrefix.subset hpiece)
  refine ⟨around, side, run, hchosen, (findIgnoringCase?_eq_some_iff hquery).mp hfind,
    Side.adjoins_textOf hne hchosen.isPrefix, (side.allBlank_textOf run).mpr hchosen.fit.shown, ?_,
    (Option.some.inj h).symm⟩
  have hcount := side.count_textOf hne hspace
  have hlength := hchosen.isPrefix.length_le.trans (side.length_within_le most around)
  omega

/-! ## all completions -/

/-- What is kept of the results of a partial function comes from some of its
arguments in turn. -/
theorem exists_sources_of_sublist {α β : Type} {f : α → Option β} {kept : List β} {l : List α}
    (h : kept.Sublist (l.filterMap f)) :
    ∃ sources, sources.Sublist l ∧ List.Forall₂ (fun a b => f a = some b) sources kept := by
  induction l generalizing kept with
  | nil =>
      rw [List.filterMap_nil, List.sublist_nil] at h
      exact ⟨[], List.Sublist.refl [], h ▸ .nil⟩
  | cons a l ih =>
      cases hf : f a with
      | none =>
          rw [List.filterMap_cons_none hf] at h
          obtain ⟨sources, hsub, hall⟩ := ih h
          exact ⟨sources, hsub.cons a, hall⟩
      | some b =>
          rw [List.filterMap_cons_some hf] at h
          cases h with
          | cons _ h =>
              obtain ⟨sources, hsub, hall⟩ := ih h
              exact ⟨sources, hsub.cons a, hall⟩
          | cons_cons _ h =>
              obtain ⟨sources, hsub, hall⟩ := ih h
              exact ⟨a :: sources, hsub.cons_cons a, .cons hf hall⟩

/-- **Completions are sound**: they belong to some of the suggestions in turn,
and each one differs from its suggestion in label and value only, which join the
query and a text next to its first match; no label stands twice or is there
already; and a match begins and ends between characters, so that the text
around it can be cut off there. -/
theorem forall₂_extends_completions (options : SuggestionOptions) (common : Stopwords)
    (suggestions : List Suggestion) :
    (∃ sources : List Suggestion, sources.Sublist suggestions ∧
      List.Forall₂ (fun s p => ∃ around side added,
          Extends (trim options.value) options.maxPredictedWords s p around side added)
        sources (completions options common suggestions)) ∧
      ((completions options common suggestions).map Suggestion.label).Nodup ∧
      (∀ p ∈ completions options common suggestions,
        p.label ∉ suggestions.map Suggestion.label) ∧
      ∀ s ∈ suggestions, ∀ around,
        findIgnoringCase? (Html.plainText s.label) (trim options.value) = some around →
          OnBoundaries (Html.plainText s.label) around := by
  have hcut : ∀ s ∈ suggestions, ∀ around,
      findIgnoringCase? (Html.plainText s.label) (trim options.value) = some around →
        OnBoundaries (Html.plainText s.label) around := by
    intro s _ around hfind
    have hquery : (trim options.value).toList ≠ [] := by
      intro hnil
      rw [findIgnoringCase?, if_pos (by simp [hnil])] at hfind
      contradiction
    exact ((findIgnoringCase?_eq_some_iff hquery).mp hfind).onBoundaries
  rcases completions_eq options common suggestions with hnil | ⟨hquery, heq⟩
  · rw [hnil]
    exact ⟨⟨[], List.nil_sublist _, .nil⟩, List.nodup_nil, by simp, hcut⟩
  · rw [heq]
    obtain ⟨sources, hsub, hall⟩ := exists_sources_of_sublist (freshFrom_sublist _ _)
    refine ⟨⟨sources, hsub, hall.imp fun s p hp => ?_⟩, nodup_labels_freshFrom _ _,
      fun p hp => notMem_labels_freshFrom (List.mem_map_of_mem hp), hcut⟩
    obtain ⟨around, side, run, _, hextends⟩ := exists_extends_of_completion? hquery hp
    exact ⟨around, side, _, hextends⟩

end SearchRelay.Suggestion
