import SearchRelay.Proofs.Suggestion.Extension

/-!
# SearchRelay.Proofs.Suggestion.Boundary

Completions that end at a stopword.

A run is passed over if the piece at its outer end is a stopword.  That piece is
empty where two spaces stand side by side or the text ends with a space, and an
empty piece is no stopword; so a run may end at such a gap whatever word stands
in front of it (`Slips`).

1. `shown_of_stops` — a stopword is not blank.
2. `Chosen.outer_stops_iff` — the outer word of the run that is chosen is a
   stopword in exactly this case, on either side of the match.

`outerWord?_stops_iff` says this of the completions of a query.
-/

namespace SearchRelay.Suggestion

open Text

/-! ## stopwords -/

theorem ne_empty_of_mem_insert {stopwords : Stopwords} {word key : String}
    (h : ∀ k ∈ stopwords.words, k ≠ "") (hkey : key ∈ (stopwords.insert word).words) :
    key ≠ "" := by
  rw [Stopwords.insert] at hkey
  split at hkey
  · exact h key hkey
  · next hword =>
    rw [not_or, String.isEmpty_iff] at hword
    rcases List.mem_cons.mp hkey with rfl | hkey
    · exact hword.1
    · exact h key hkey

/-- No set of stopwords holds the empty text. -/
theorem ne_empty_of_mem_ofList {words : List String} {key : String}
    (h : key ∈ (Stopwords.ofList words).words) : key ≠ "" := by
  suffices haux : ∀ stopwords : Stopwords, (∀ k ∈ stopwords.words, k ≠ "") →
      ∀ k ∈ (words.foldl Stopwords.insert stopwords).words, k ≠ "" from
    haux ⟨[]⟩ (fun _ hk => absurd hk List.not_mem_nil) key h
  clear h
  induction words with
  | nil => exact fun stopwords hstopwords => hstopwords
  | cons word words ih =>
      intro stopwords hstopwords
      rw [List.foldl_cons]
      exact ih _ fun k hk => ne_empty_of_mem_insert hstopwords hk

/-- The stopwords that count are the common ones or those of the query. -/
theorem eq_or_exists_ofList {options : SuggestionOptions} {common stopwords : Stopwords}
    (h : stopwordsFor options common = some stopwords) :
    stopwords = common ∨ ∃ words, stopwords = Stopwords.ofList words := by
  rw [stopwordsFor] at h
  split at h
  · rw [Option.some.injEq] at h
    cases hown : options.stopwords with
    | none => exact .inl (by rw [← h, hown, Option.elim_none])
    | some words => exact .inr ⟨words, by rw [← h, hown, Option.elim_some]⟩
  · cases h

/-- A stopword is not blank. -/
theorem shown_of_mem_ofList {words : List String} {piece : List Char}
    (h : (Stopwords.ofList words).contains (String.ofList piece) = true) : Shown [piece] := by
  have hkey : Stopwords.key (String.ofList piece) ≠ "" :=
    ne_empty_of_mem_ofList (List.contains_iff_mem.mp h)
  refine Classical.byContradiction fun hblank => hkey ?_
  have hall : allBlank (String.ofList piece) = true := by
    rw [allBlank, String.toList_ofList, List.all_eq_true]
    intro c hc
    exact Decidable.byContradiction fun hshown =>
      hblank ⟨piece, List.mem_singleton_self piece, c, hc, by simpa using hshown⟩
  have htrim : trim (String.ofList piece) = "" :=
    String.toList_inj.mp ((toList_trim_eq_nil_iff _).mpr hall)
  rw [Stopwords.key, htrim]
  rfl

/-- A stopword is not blank. -/
theorem shown_of_stops {options : SuggestionOptions} {common : List String} {piece : List Char}
    (h : Stops (stopwordsFor options (Stopwords.ofList common)) piece) : Shown [piece] := by
  cases hstopwords : stopwordsFor options (Stopwords.ofList common) with
  | none => simp [Stops, hstopwords] at h
  | some stopwords =>
      rw [hstopwords] at h
      rcases eq_or_exists_ofList hstopwords with rfl | ⟨words, rfl⟩
      · exact shown_of_mem_ofList h
      · exact shown_of_mem_ofList h

/-! ## the run that is chosen -/

/- A run whose outer piece is a stopword is passed over, but not one with an empty piece
outside of the stopword. Behind the match the longest run that is fit is chosen and
before it the shortest, so the two sides are taken on their own. -/

/-- The last element that passes a test. -/
theorem getLast?_filter_eq_some_iff {α : Type} {p : α → Bool} {l : List α} {a : α} :
    (l.filter p).getLast? = some a ↔
      p a = true ∧ ∃ front back, l = front ++ a :: back ∧ ∀ b ∈ back, p b = false := by
  rw [List.getLast?_filter, List.find?_eq_some_iff_append]
  refine and_congr_right fun _ => ?_
  constructor
  · rintro ⟨back, front, hl, hback⟩
    exact ⟨front.reverse, back.reverse, by simpa using congrArg List.reverse hl,
      fun b hb => by simpa using hback b (List.mem_reverse.mp hb)⟩
  · rintro ⟨front, back, rfl, hback⟩
    exact ⟨back.reverse, front.reverse, by simp,
      fun b hb => by simpa using hback b (List.mem_reverse.mp hb)⟩

/-- Where a completion ends at a stopword, given the pieces within reach, the
nearest one first.

Behind the match, where the longest run is tried first, a gap follows the
stopword, and from there on there are stopwords only.  Before the match, where
the shortest run is tried first, there are stopwords only up to a gap. -/
def Slips (stopwords : Option Stopwords) (within : List (List Char)) : Side → Prop
  | .behind => ∃ front word gap passed, within = front ++ word :: (gap ++ passed) ∧
      Stops stopwords word ∧ gap ≠ [] ∧ (∀ piece ∈ gap, piece = []) ∧
      ∀ piece ∈ passed, Stops stopwords piece
  | .before => ∃ blanks passed rest, within = blanks ++ (passed ++ [] :: rest) ∧
      ¬ Shown blanks ∧ passed ≠ [] ∧ ∀ piece ∈ passed, Stops stopwords piece

/-- The first piece of a run that is not blank. -/
theorem Shown.exists_first {run : List (List Char)} (h : Shown run) :
    ∃ blanks first rest, run = blanks ++ first :: rest ∧ ¬ Shown blanks ∧ Shown [first] := by
  induction run with
  | nil => exact absurd rfl h.ne_nil
  | cons piece run ih =>
      by_cases hpiece : Shown [piece]
      · exact ⟨[], piece, run, rfl, fun hnil => hnil.ne_nil rfl, hpiece⟩
      · have hrest : Shown run := (shown_append.mp (h : Shown ([piece] ++ run))).resolve_left hpiece
        obtain ⟨blanks, first, rest, rfl, hblanks, hfirst⟩ := ih hrest
        refine ⟨piece :: blanks, first, rest, rfl, fun hshown => ?_, hfirst⟩
        exact (shown_append.mp (hshown : Shown ([piece] ++ blanks))).elim hpiece hblanks

variable {stopwords : Option Stopwords} {within run : List (List Char)}

/-- A run may not end at a stopword. -/
theorem not_fit_of_stops {more : List (List Char)} (hne : more ≠ [])
    (hmore : ∀ piece ∈ more, Stops stopwords piece) : ¬ Fit stopwords (run ++ more) := by
  obtain ⟨front, last, rfl⟩ := (List.eq_nil_or_concat' more).resolve_left hne
  intro h
  have houter := h.outer
  rw [← List.append_assoc, List.getLast?_concat] at houter
  exact houter (hmore last (by simp))

/-- A prefix of two parts ends in the first one or goes beyond it. -/
theorem prefix_append_cases {α : Type} {l front back : List α} (h : l <+: front ++ back) :
    l <+: front ∨ ∃ more, more ≠ [] ∧ more <+: back ∧ l = front ++ more := by
  have hfront : front <+: front ++ back := List.prefix_append front back
  rcases Nat.le_total l.length front.length with hle | hle
  · exact .inl (List.prefix_of_prefix_length_le h hfront hle)
  · obtain ⟨more, rfl⟩ := List.prefix_of_prefix_length_le hfront h hle
    cases more with
    | nil => exact .inl (by simp)
    | cons a more =>
        exact .inr ⟨a :: more, List.cons_ne_nil _ _, (List.prefix_append_right_inj front).mp h, rfl⟩

/-- Behind the match a run is the longest that is fit if there are stopwords only
beyond it. -/
theorem chosen_behind_iff {passed : List (List Char)} :
    Chosen stopwords .behind (run ++ passed) run ↔
      Fit stopwords run ∧ ∀ piece ∈ passed, Stops stopwords piece := by
  constructor
  · intro h
    refine ⟨h.fit, fun piece hpiece => Decidable.byContradiction fun hpass => ?_⟩
    obtain ⟨near, far, rfl⟩ := List.append_of_mem hpiece
    have hfit : Fit stopwords (run ++ near ++ [piece]) := by
      refine ⟨h.fit.shown.mono fun _ hmem => by simp [hmem], ?_⟩
      rw [List.getLast?_concat]
      exact hpass
    have hlength := (h.first _ hfit ⟨far, by simp⟩).length_le
    simp only [List.length_append, List.length_singleton] at hlength
    omega
  · rintro ⟨hfit, hpassed⟩
    refine ⟨hfit, List.prefix_append run passed, fun other hother hwithin => ?_⟩
    rcases prefix_append_cases hwithin with hinit | ⟨more, hne, hmore, rfl⟩
    · exact hinit
    · exact absurd hother
        (not_fit_of_stops hne fun piece hpiece => hpassed piece (hmore.subset hpiece))

/-- Before the match a run is the shortest that is fit if there are stopwords
only from its first piece that is not blank up to its end. -/
theorem chosen_before_iff {blanks passed rest : List (List Char)} {first outer : List Char}
    (hblanks : ¬ Shown blanks) (hfirst : Shown [first]) :
    Chosen stopwords .before (blanks ++ (first :: passed) ++ [outer] ++ rest)
        (blanks ++ (first :: passed) ++ [outer]) ↔
      Fit stopwords (blanks ++ (first :: passed) ++ [outer]) ∧
        ∀ piece ∈ first :: passed, Stops stopwords piece := by
  constructor
  · intro h
    refine ⟨h.fit, fun piece hpiece => Decidable.byContradiction fun hpass => ?_⟩
    obtain ⟨near, far, hnear⟩ := List.append_of_mem hpiece
    have hfit : Fit stopwords (blanks ++ near ++ [piece]) := by
      refine ⟨hfirst.mono fun other hother => ?_, ?_⟩
      · rw [List.mem_singleton.mp hother]
        cases near with
        | nil => simp [(List.cons.inj hnear).1]
        | cons other near => simp [(List.cons.inj hnear).1]
      · rw [List.getLast?_concat]
        exact hpass
    have hlength := (h.first _ hfit ⟨far ++ [outer] ++ rest, by simp [hnear]⟩).length_le
    simp only [hnear, List.length_append, List.length_cons, List.length_nil] at hlength
    omega
  · rintro ⟨hfit, hpassed⟩
    refine ⟨hfit, List.prefix_append _ rest, fun other hother hwithin => ?_⟩
    rw [List.append_assoc, List.append_assoc] at hwithin
    rcases prefix_append_cases hwithin with hinit | ⟨more, _, hmore, rfl⟩
    · exact absurd (hother.shown.mono fun _ hmem => hinit.subset hmem) hblanks
    · rcases prefix_append_cases hmore with hinit | ⟨beyond, hne, hbeyond, rfl⟩
      · have hstops : ∀ piece ∈ more, Stops stopwords piece := fun piece hpiece =>
          hpassed piece (hinit.subset hpiece)
        cases more with
        | nil =>
            rw [List.append_nil] at hother
            exact absurd hother.shown hblanks
        | cons piece more => exact absurd hother (not_fit_of_stops (List.cons_ne_nil _ _) hstops)
      · -- beyond the stopwords the first piece is the outer one
        obtain ⟨piece, beyond, rfl⟩ := List.exists_cons_of_ne_nil hne
        rw [List.singleton_append, List.cons_prefix_cons] at hbeyond
        rw [hbeyond.1]
        exact ⟨beyond, by simp⟩

section

variable (hstops : ∀ piece, Stops stopwords piece → Shown [piece])

include hstops

/-- A stopword is not empty. -/
theorem ne_nil_of_stops {piece : List Char} (h : Stops stopwords piece) : piece ≠ [] := by
  rintro rfl
  obtain ⟨piece, hpiece, c, hc, _⟩ := hstops [] h
  rw [List.mem_singleton.mp hpiece] at hc
  contradiction

/-- A run with a stopword in it is not blank. -/
theorem shown_of_mem_of_stops {piece : List Char} (h : Stops stopwords piece)
    (hmem : piece ∈ run) : Shown run :=
  (hstops piece h).mono fun _ hpiece => (List.mem_singleton.mp hpiece) ▸ hmem

/-- A run with a stopword in it may end at a gap. -/
theorem fit_of_gap {word : List Char} (hword : Stops stopwords word) (hmem : word ∈ run) :
    Fit stopwords (run ++ [[]]) := by
  refine ⟨(shown_of_mem_of_stops hstops hword hmem).mono fun _ h => List.mem_append_left _ h, ?_⟩
  rw [List.getLast?_concat]
  exact fun h => ne_nil_of_stops hstops h rfl

/-- The last word of the longest run that is fit. -/
theorem Chosen.outer_stops_iff_behind (h : Chosen stopwords .behind within run) :
    (∃ word, (run.filter fun piece => !piece.isEmpty).getLast? = some word ∧
      Stops stopwords word) ↔ Slips stopwords within .behind := by
  constructor
  · rintro ⟨word, hlast, hword⟩
    obtain ⟨_, front, gap, rfl, hgap⟩ := getLast?_filter_eq_some_iff.mp hlast
    obtain ⟨passed, rfl⟩ := h.isPrefix
    obtain ⟨hfit, hpassed⟩ := chosen_behind_iff.mp h
    refine ⟨front, word, gap, passed, by simp, hword, ?_, fun piece hpiece => ?_, hpassed⟩
    · -- the word is not at the end of the run
      rintro rfl
      exact not_fit_of_stops (List.cons_ne_nil word []) (by simpa using hword) hfit
    · simpa using hgap piece hpiece
  · rintro ⟨front, word, gap, passed, rfl, hword, hgap, hempty, hpassed⟩
    obtain ⟨gap, last, rfl⟩ := (List.eq_nil_or_concat' gap).resolve_left hgap
    obtain rfl : last = [] := hempty last (by simp)
    have hfit : Fit stopwords (front ++ word :: gap ++ [[]]) :=
      fit_of_gap hstops hword (by simp)
    have hwithin : front ++ word :: (gap ++ [[]] ++ passed) =
        front ++ word :: gap ++ [[]] ++ passed := by simp
    rw [hwithin] at h
    rw [h.unique (chosen_behind_iff.mpr ⟨hfit, hpassed⟩)]
    refine ⟨word, getLast?_filter_eq_some_iff.mpr ⟨?_, front, gap ++ [[]], by simp, ?_⟩, hword⟩
    · simpa using ne_nil_of_stops hstops hword
    · exact fun piece hpiece => by simpa using hempty piece hpiece

/-- The first word of the shortest run that is fit. -/
theorem Chosen.outer_stops_iff_before (h : Chosen stopwords .before within run) :
    (∃ word, (run.filter fun piece => !piece.isEmpty).getLast? = some word ∧
      Stops stopwords word) ↔ Slips stopwords within .before := by
  constructor
  · rintro ⟨word, hlast, hword⟩
    obtain ⟨_, front, gap, rfl, hgap⟩ := getLast?_filter_eq_some_iff.mp hlast
    obtain ⟨rest, rfl⟩ := h.isPrefix
    obtain ⟨gap, outer, rfl⟩ : ∃ gap' outer, gap = gap' ++ [outer] := by
      refine (List.eq_nil_or_concat' gap).resolve_left ?_
      rintro rfl
      exact not_fit_of_stops (List.cons_ne_nil word []) (by simpa using hword) h.fit
    obtain rfl : outer = [] := by simpa using hgap outer (by simp)
    have hshown : Shown (front ++ word :: gap) := shown_of_mem_of_stops hstops hword (by simp)
    obtain ⟨blanks, first, passed, hsplit, hblanks, hfirst⟩ := hshown.exists_first
    have hrun : front ++ word :: (gap ++ [[]]) = blanks ++ (first :: passed) ++ [[]] := by
      rw [← hsplit]
      simp
    rw [hrun] at h
    refine ⟨blanks, first :: passed, rest, by rw [hrun]; simp, hblanks, List.cons_ne_nil _ _, ?_⟩
    exact ((chosen_before_iff hblanks hfirst).mp h).2
  · rintro ⟨blanks, passed, rest, rfl, hblanks, hne, hpassed⟩
    obtain ⟨first, more, hfirst⟩ := List.exists_cons_of_ne_nil hne
    obtain ⟨front, word, hlast⟩ := (List.eq_nil_or_concat' passed).resolve_left hne
    have hword : Stops stopwords word := hpassed word (by simp [hlast])
    have hfit : Fit stopwords (blanks ++ passed ++ [[]]) :=
      fit_of_gap hstops hword (by simp [hlast])
    have hwithin : blanks ++ (passed ++ [] :: rest) = blanks ++ passed ++ [[]] ++ rest := by simp
    have hchosen : Chosen stopwords .before (blanks ++ passed ++ [[]] ++ rest)
        (blanks ++ passed ++ [[]]) := by
      subst hfirst
      exact (chosen_before_iff hblanks (hstops first (hpassed first (by simp)))).mpr
        ⟨hfit, hpassed⟩
    rw [hwithin] at h
    rw [h.unique hchosen]
    refine ⟨word, getLast?_filter_eq_some_iff.mpr
      ⟨?_, blanks ++ front, [[]], by simp [hlast], by simp⟩, hword⟩
    simpa using ne_nil_of_stops hstops hword

/-- The outer word of the run that is chosen on a side. -/
theorem Chosen.outer_stops_iff {side : Side} (h : Chosen stopwords side within run)
    (hspace : ∀ piece ∈ run, ∀ c ∈ piece, decide (c = ' ') = false) :
    (∃ word ∈ side.outerWord? (side.textOf run), Stops stopwords word.toList) ↔
      Slips stopwords within side := by
  rw [side.outerWord?_textOf h.fit.shown.ne_nil hspace]
  have hmap : (∃ word ∈ ((run.filter fun piece => !piece.isEmpty).getLast?).map String.ofList,
      Stops stopwords word.toList) ↔
      ∃ word, (run.filter fun piece => !piece.isEmpty).getLast? = some word ∧
        Stops stopwords word := by
    simp [String.toList_ofList]
  rw [hmap]
  cases side with
  | behind => exact h.outer_stops_iff_behind hstops
  | before => exact h.outer_stops_iff_before hstops

end

/-! ## the completions of a query -/

/-- **When a completion ends at a stopword**: of a completion that joins the query
and a text next to its first match, the word of this text that is farthest from
the query is a stopword if and only if the pieces within reach hold a gap in front
of which there is a stopword, and behind the match nothing but stopwords beyond
the gap, before it nothing but stopwords up to the gap. -/
theorem outerWord?_stops_iff {options : SuggestionOptions} {common : List String}
    {suggestions : List Suggestion} {p : Suggestion}
    (h : p ∈ completions options (Stopwords.ofList common) suggestions) :
    ∃ s ∈ suggestions, ∃ around side added,
      Extends (trim options.value) options.maxPredictedWords s p around side added ∧
        ((∃ word ∈ side.outerWord? added,
            Stops (stopwordsFor options (Stopwords.ofList common)) word.toList) ↔
          Slips (stopwordsFor options (Stopwords.ofList common))
            (side.within options.maxPredictedWords around) side) := by
  obtain ⟨hquery, s, hs, hp⟩ := exists_of_mem_completions h
  obtain ⟨around, side, run, hchosen, hextends⟩ := exists_extends_of_completion? hquery hp
  refine ⟨s, hs, around, side, _, hextends, hchosen.outer_stops_iff ?_ fun piece hpiece => ?_⟩
  · exact fun piece hpiece => shown_of_stops hpiece
  · exact Side.noSpace_of_mem_within (hchosen.isPrefix.subset hpiece)

/-- A query whose completions should not end at `me` or `the`. -/
def stoppedOptions (query : String) : SuggestionOptions where
  value := query
  predictive := true
  applyStopwords := true
  stopwords := some ["me", "the"]

/-- The completions of such a query by one suggestion. -/
def stoppedCompletions (query label : String) : List Suggestion :=
  completions (stoppedOptions query) (Stopwords.ofList []) [{ value := label, label }]

/-- A completion of `select`. -/
def selectBlue : Suggestion where
  label := "select<mark class=\"highlight\"> blue</mark>"
  value := "select blue"

/-- A completion that stops before a stopword. -/
theorem outerWord?_stops_iff_select :
    selectBlue ∈ stoppedCompletions "select" "select blue the" ∧
      ∃ s ∈ [({ value := "select blue the", label := "select blue the" } : Suggestion)],
        ∃ around side added,
          Extends (trim (stoppedOptions "select").value) 2 s selectBlue around side added ∧
            ((∃ word ∈ side.outerWord? added,
                Stops (stopwordsFor (stoppedOptions "select") (Stopwords.ofList [])) word.toList) ↔
              Slips (stopwordsFor (stoppedOptions "select") (Stopwords.ofList []))
                (side.within 2 around) side) := by
  have hmem : selectBlue ∈ stoppedCompletions "select" "select blue the" := by decide +kernel
  exact ⟨hmem, outerWord?_stops_iff hmem⟩

/-- A completion ends at a stopword if two spaces follow it, and begins with one
if two spaces stand in front of it. -/
theorem completion_ends_at_stopword :
    (stoppedCompletions "select" "select me  now").map (fun p => (p.label, p.value)) =
        [("select<mark class=\"highlight\"> me </mark>", "select me ")] ∧
      (stoppedCompletions "phones" "x  the phones").map (fun p => (p.label, p.value)) =
        [("<mark class=\"highlight\"> the </mark>phones", " the phones")] ∧
      Side.behind.outerWord? " me " = some "me" ∧ Side.before.outerWord? " the " = some "the" ∧
      ∀ word ∈ ["me", "the"],
        Stops (stopwordsFor (stoppedOptions "select") (Stopwords.ofList [])) word.toList := by
  decide +kernel

end SearchRelay.Suggestion
