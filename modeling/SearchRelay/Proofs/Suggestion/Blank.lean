import Mathlib.Data.List.Nodup
import SearchRelay.Proofs.Suggestion.Distinct
import SearchRelay.Proofs.Suggestion.Predictive
import SearchRelay.Proofs.Text.Blank

/-!
# SearchRelay.Proofs.Suggestion.Blank

Suggestions with a blank text.

A candidate is looked at before its markup is read, so one that shows nothing is
no blank candidate.

1. Neither the text nor the label of a completion is blank
   (`not_blank_of_mem_completions`).
2. A candidate that shows nothing gets into the reference with the others of its
   label: through the gate, or because the candidates are gone through again
   (`exists_mem_reference_iff`).
3. Where one suggestion per document is asked for, it stays if it stands for its
   document (`exists_mem_distinct_gather_iff`).

`exists_blank_value_iff` puts these together.
-/

namespace SearchRelay.Suggestion

variable {options : SuggestionOptions} {common : Stopwords} {hits : List Hit}

/-! ## which candidates give a blank text -/

/- A candidate is tested as it stands, but its value is its plain text, which is blank
if there is nothing but markup. -/

/-- Nothing but blanks is left of the label of a candidate as plain text. -/
def ShowsNothing (c : Hit × String) : Prop := Text.allBlank (Html.plainText c.2) = true

/-- The candidates are gone through a second time, without the gate. -/
def Regathers (options : SuggestionOptions) (hits : List Hit) : Prop :=
  options.synonyms = true ∧
    (firstPerLabel (gated options.value (candidates options hits))).length < hits.length

/-- A candidate stands for its document: it is the first one of it. -/
def Leads (cs : List (Hit × String)) (c : Hit × String) : Prop :=
  ∃ id, c.1.id = some id ∧ cs.find? (fun d => d.1.id = some id) = some c

/-! ## completions -/

theorem allBlank_append (first second : String) :
    Text.allBlank (first ++ second) = (Text.allBlank first && Text.allBlank second) := by
  simp [Text.allBlank]

/-- A query that has completions is not blank. -/
theorem not_allBlank_trim {text : String} (h : (Text.trim text).toList ≠ []) :
    Text.allBlank (Text.trim text) = false := by
  refine Bool.eq_false_iff.mpr fun hblank => h ?_
  have hnil := (Text.toList_trim_eq_nil_iff (Text.trim text)).mpr hblank
  rwa [Text.trim_trim] at hnil

/-- A completion is blank neither in its label nor in its value. -/
theorem not_blank_of_mem_completions {suggestions : List Suggestion} {p : Suggestion}
    (h : p ∈ completions options common suggestions) :
    Text.allBlank p.label = false ∧ Text.allBlank p.value = false := by
  have hquery := not_allBlank_trim (exists_of_mem_completions h).1
  have hlower : ∀ text, Text.allBlank text = false → Text.allBlank (Text.lowercase text) = false :=
    fun text htext => Bool.eq_false_iff.mpr fun hblank =>
      Bool.eq_false_iff.mp htext (Text.Lowercase.allBlank_of_lowercase hblank)
  have hopen : Text.allBlank markOpen = false := by decide
  obtain ⟨first, second, hcompletes⟩ := exists_completes h
  -- the query is a part of the value, and the mark of the label
  cases hcompletes with
  | behind words hlabel hvalue =>
      rw [hlabel, hvalue]
      exact ⟨by simp [allBlank_append, hopen], hlower _ (by simp [allBlank_append, hquery])⟩
  | before words hlabel hvalue =>
      rw [hlabel, hvalue]
      exact ⟨by simp [allBlank_append, hopen], hlower _ (by simp [allBlank_append, hquery])⟩

/-! ## candidates of the reference -/

/-- One candidate per label is enough for what depends on the label only. -/
theorem exists_mem_firstPerLabel_iff {P : String → Prop} {cs : List (Hit × String)} :
    (∃ c ∈ firstPerLabel cs, P c.2) ↔ ∃ c ∈ cs, P c.2 := by
  induction cs with
  | nil => rfl
  | cons c cs ih =>
      rw [firstPerLabel, List.exists_mem_cons_iff, List.exists_mem_cons_iff, ← ih]
      simp only [List.mem_filter, decide_eq_true_eq]
      constructor
      · rintro (hc | ⟨d, ⟨hd, -⟩, hP⟩)
        · exact .inl hc
        · exact .inr ⟨d, hd, hP⟩
      · rintro (hc | ⟨d, hd, hP⟩)
        · exact .inl hc
        · by_cases hlabel : d.2 = c.2
          · exact .inl (hlabel ▸ hP)
          · exact .inr ⟨d, ⟨hd, hlabel⟩, hP⟩

/-- The labels of the reference are those of the candidates that pass the gate,
and all others if the candidates are gone through again. -/
theorem exists_mem_reference_iff {P : String → Prop} :
    (∃ c ∈ reference options hits, P c.2) ↔
      ∃ c ∈ candidates options hits, P c.2 ∧
        (Text.wordMatch options.value (Html.plainText c.2) = true ∨ Regathers options hits) := by
  have hgated : ∀ c, c ∈ gated options.value (candidates options hits) ↔
      c ∈ candidates options hits ∧
        Text.wordMatch options.value (Html.plainText c.2) = true := fun c => List.mem_filter
  rw [reference]
  split
  · next honly =>
    have hnot : ¬ Regathers options hits := by
      rintro ⟨hsynonyms, hfew⟩
      rcases honly with hoff | hmany
      · simp [hoff] at hsynonyms
      · exact absurd hfew (Nat.not_lt.mpr hmany)
    rw [exists_mem_firstPerLabel_iff]
    simp only [hgated, hnot, or_false]
    exact exists_congr fun c => and_assoc.trans (and_congr_right fun _ => and_comm)
  · next hboth =>
    have hagain : Regathers options hits := by
      rw [not_or, Bool.not_eq_false, Nat.not_le] at hboth
      exact hboth
    rw [exists_mem_firstPerLabel_iff]
    simp only [List.mem_append, hgated, hagain, or_true, and_true]
    exact exists_congr fun c => and_congr_left fun _ =>
      ⟨fun h => h.elim And.left fun hc => hc, Or.inr⟩

/-! ## one suggestion per document -/

/-- What is left is the first suggestion of a document. -/
theorem mem_distinct_iff {all : List Suggestion} {s : Suggestion} :
    s ∈ distinct all ↔ ∃ id, s.id = some id ∧ all.find? (fun t => t.id = some id) = some s := by
  have hone := onePerDocument_distinct all
  constructor
  · intro hs
    obtain ⟨id, hid⟩ := Option.isSome_iff_exists.mp (hone.known s hs)
    refine ⟨id, hid, ?_⟩
    have hfound : ((distinct all).find? fun t => t.id = some id).isSome :=
      List.find?_isSome.mpr ⟨s, hs, by simpa using hid⟩
    obtain ⟨t, ht⟩ := Option.isSome_iff_exists.mp hfound
    have htid : t.id = some id := by simpa using List.find?_some ht
    -- no document stands twice, so what is found is the suggestion itself
    have hsame := List.inj_on_of_nodup_map hone.nodup (List.mem_of_find?_eq_some ht) hs
      (htid.trans hid.symm)
    rw [← hone.first id, ht, hsame]
  · rintro ⟨id, -, hfind⟩
    rw [← hone.first id] at hfind
    exact List.mem_of_find?_eq_some hfind

/-- A property of some suggestion left is one of a candidate that stands for its document.
-/
theorem exists_mem_distinct_gather_iff {P : Suggestion → Prop} :
    (∃ s ∈ distinct (gather options hits), P s) ↔
      ∃ c ∈ reference options hits, P (ofHit options c.1 c.2) ∧
        Leads (reference options hits) c := by
  have hfind : ∀ id : String, (gather options hits).find? (fun s => s.id = some id) =
      ((reference options hits).find? fun c => c.1.id = some id).map
        fun c => ofHit options c.1 c.2 := by
    intro id
    rw [gather_eq_reference, List.find?_map]
    rfl
  constructor
  · rintro ⟨s, hs, hP⟩
    obtain ⟨id, -, hs⟩ := mem_distinct_iff.mp hs
    rw [hfind] at hs
    obtain ⟨c, hc, rfl⟩ := Option.map_eq_some_iff.mp hs
    exact ⟨c, List.mem_of_find?_eq_some hc, hP, id, by simpa using List.find?_some hc, hc⟩
  · rintro ⟨c, -, hP, id, hid, hc⟩
    refine ⟨ofHit options c.1 c.2, mem_distinct_iff.mpr ⟨id, hid, ?_⟩, hP⟩
    rw [hfind, hc]
    rfl

/-! ## the suggestions of a query -/

/-- No candidate is blank as it stands. -/
theorem not_blank_of_mem_reference {c : Hit × String} (h : c ∈ reference options hits) :
    Text.allBlank c.2 = false := by
  obtain ⟨d, hd, hlabel, -⟩ := exists_mem_reference_iff.mp ⟨c, h, rfl⟩
  exact hlabel ▸ not_blank_of_mem_candidates hd

/-- The suggestions of a query are gathered or completions, and where one per
document is asked for they are the first gathered ones. -/
theorem mem_suggest_iff {s : Suggestion} :
    s ∈ suggest options common hits ↔
      (options.distinct = false ∧ (s ∈ gather options hits ∨
        options.predictive = true ∧ s ∈ completions options common (gather options hits))) ∨
      (options.distinct = true ∧ s ∈ distinct (gather options hits)) := by
  cases hdistinct : options.distinct with
  | false =>
      rw [suggest, hdistinct]
      cases hpredictive : options.predictive <;> simp
  | true =>
      have hsame : suggest options common hits = distinct (gather options hits) := by
        rw [suggest, hdistinct, if_pos rfl]
        split
        · refine distinct_append fun p hp id hid => ?_
          obtain ⟨s, hs, hretexted⟩ := exists_retexted hp
          exact List.mem_map.mpr ⟨s, hs, hretexted.id_eq.symm.trans hid⟩
        · rfl
      simp [hsame]

/-- No label is blank. -/
theorem not_blank_label_of_mem_suggest {s : Suggestion} (h : s ∈ suggest options common hits) :
    Text.allBlank s.label = false := by
  have hgathered : ∀ s ∈ gather options hits, Text.allBlank s.label = false := by
    intro s hs
    rw [gather_eq_reference] at hs
    obtain ⟨c, hc, rfl⟩ := List.mem_map.mp hs
    exact not_blank_of_mem_reference hc
  rcases mem_suggest_iff.mp h with ⟨-, hs | ⟨-, hs⟩⟩ | ⟨-, hs⟩
  · exact hgathered s hs
  · exact (not_blank_of_mem_completions hs).1
  · exact hgathered s ((sublist_distinctFrom [] _).subset hs)

/-- **When a suggestion has a blank text**: no suggestion has a blank label, but
there is one with a blank text exactly if a candidate of the reference shows
nothing, and, where one suggestion per document is asked for, stands for its
document.  There is such a candidate of the reference exactly if any candidate
shows nothing and either passes the gate with that, or the candidates are gone
through again.  So there is none if every candidate shows something. -/
theorem exists_blank_value_iff (options : SuggestionOptions) (common : Stopwords)
    (hits : List Hit) :
    (∀ s ∈ suggest options common hits, Text.allBlank s.label = false) ∧
      ((∃ s ∈ suggest options common hits, Text.allBlank s.value = true) ↔
        ∃ c ∈ reference options hits, ShowsNothing c ∧
          (options.distinct = true → Leads (reference options hits) c)) ∧
      ((∃ c ∈ reference options hits, ShowsNothing c) ↔
        ∃ c ∈ candidates options hits, ShowsNothing c ∧
          (Text.wordMatch options.value (Html.plainText c.2) = true ∨
            Regathers options hits)) := by
  refine ⟨fun s => not_blank_label_of_mem_suggest, ?_,
    exists_mem_reference_iff (P := fun label => Text.allBlank (Html.plainText label) = true)⟩
  cases hdistinct : options.distinct with
  | false =>
      simp only [mem_suggest_iff, hdistinct, true_and, Bool.false_eq_true, false_and, or_false,
        false_implies, and_true]
      constructor
      · rintro ⟨s, hs | ⟨-, hs⟩, hblank⟩
        · rw [gather_eq_reference] at hs
          obtain ⟨c, hc, rfl⟩ := List.mem_map.mp hs
          exact ⟨c, hc, hblank⟩
        · rw [(not_blank_of_mem_completions hs).2] at hblank
          contradiction
      · rintro ⟨c, hc, hblank⟩
        refine ⟨ofHit options c.1 c.2, .inl ?_, hblank⟩
        rw [gather_eq_reference]
        exact List.mem_map_of_mem hc
  | true =>
      simp only [mem_suggest_iff, hdistinct, true_and, Bool.true_eq_false, false_and, false_or,
        true_implies]
      exact exists_mem_distinct_gather_iff

/-- A document whose title is an empty element. -/
def emptyTitleHits : List Hit := [{ id := some "1", source := [("title", .string "<b></b>")] }]

/-- An empty query takes such a title for a suggestion without a text, and so does
any other query if synonyms count. -/
theorem suggest_blank_value :
    (suggest { value := "", dataFields := ["title"] } Stopwords.english emptyTitleHits).map
        (fun s => (s.label, s.value)) = [("<b></b>", "")] ∧
      (suggest { value := "iphone", dataFields := ["title"] } Stopwords.english
        emptyTitleHits).map (fun s => (s.label, s.value)) = [("<b></b>", "")] ∧
      ¬ ∀ (options : SuggestionOptions) (common : Stopwords) (hits : List Hit),
        ∀ s ∈ suggest options common hits,
          Text.allBlank s.label = false ∧ Text.allBlank s.value = false := by
  have hempty : (suggest { value := "", dataFields := ["title"] } Stopwords.english
      emptyTitleHits).map (fun s => (s.label, s.value)) = [("<b></b>", "")] := by decide +kernel
  refine ⟨hempty, by decide +kernel, fun hall => ?_⟩
  obtain ⟨s, hs, hpair⟩ := List.mem_map.mp (hempty ▸ List.mem_singleton_self ("<b></b>", ""))
  have hvalue := (hall _ _ _ s hs).2
  rw [(Prod.mk.inj hpair).2] at hvalue
  contradiction

end SearchRelay.Suggestion
