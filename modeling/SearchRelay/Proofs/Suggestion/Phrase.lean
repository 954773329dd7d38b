import Mathlib.Data.List.PeriodicityLemma
import SearchRelay.Proofs.Text.Blank
import SearchRelay.Proofs.Text.Split
import SearchRelay.Suggestion.Completion

/-!
# SearchRelay.Proofs.Suggestion.Phrase

Which words a phrase adds to a query.

On both sides of a match the pieces are taken with the one next to the match
first; then a run is a prefix of the pieces within reach (`Side.within`), on
either side.

1. `mem_runsBehind`, `mem_runsBefore` — the runs that are tried are these
   prefixes; behind the match the longest is tried first
   (`pairwise_runsBehind`), before it the shortest (`pairwise_runsBefore`).
2. `chosen_of_phrase?` — so the run that is added is the longest or the shortest
   prefix that is fit (`Chosen`).
3. `phrase?_of_shown` — without stopwords all pieces within reach behind the match
   are added, unless they are blank.
4. `Side.adjoins_textOf`, `Side.outerWord?_textOf` — a run as a text stands next
   to the match, and its outer word is the last piece that is not empty.
5. `Side.phrase_behind_ne_before` — a phrase shows on which side it was made.
-/

namespace SearchRelay.Suggestion

open Text

/-! ## sides of a match -/

/-- Where the words that are added stand. -/
inductive Side where
  | behind
  | before

namespace Side

/-- The pieces of text within reach on a side of a match, the nearest one
first. -/
def within (most : Nat) (around : Occurrence) : Side → List (List Char)
  | behind => (splitSpaces around.after).take (most + 1)
  | before => (splitSpaces around.before).reverse.take (most + 1)

/-- A run of pieces, the nearest one first, as a text. -/
def textOf : Side → List (List Char) → String
  | behind, run => joinWords run
  | before, run => joinWords run.reverse

/-- The phrase with a text added to the query. -/
def phrase (query added : String) : Side → Phrase
  | behind => ⟨query ++ markOpen ++ added ++ markClose, query ++ added⟩
  | before => ⟨markOpen ++ added ++ markClose ++ query, added ++ query⟩

/-- A text stands next to the match and ends at a space, or where the whole text
ends. -/
def Adjoins (around : Occurrence) (added : List Char) : Side → Prop
  | behind => ∃ rest, around.after = added ++ rest ∧ (rest = [] ∨ rest.head? = some ' ')
  | before => ∃ rest, around.before = rest ++ added ∧ (rest = [] ∨ rest.getLast? = some ' ')

/-- The word of a text that is farthest from the match. -/
def outerWord? (added : String) : Side → Option String
  | behind => (words added).getLast?
  | before => (words added).head?

end Side

/-! ## runs -/

/- The runs that are tried are listed by the search in its own order, longest first
behind the match and shortest first before it. Turned around before the match, they are
the prefixes of one list on either side. -/

variable {stopwords : Option Stopwords} {most : Nat} {around : Occurrence}

/-- A piece is a stopword. -/
def Stops (stopwords : Option Stopwords) (piece : List Char) : Prop :=
  (stopwords.any fun s => s.contains (String.ofList piece)) = true

instance (stopwords : Option Stopwords) : DecidablePred (Stops stopwords) := fun _ =>
  inferInstanceAs (Decidable (_ = true))

/-- Some piece of a run is not blank. -/
def Shown (run : List (List Char)) : Prop := ∃ piece ∈ run, ∃ c ∈ piece, isBlank c = false

/-- A run is fit to be added: it is not blank, and the piece at its outer end is
no stopword. -/
structure Fit (stopwords : Option Stopwords) (run : List (List Char)) : Prop where
  shown : Shown run
  outer : ¬ Stops stopwords (run.getLast?.getD [])

theorem Shown.mono {run longer : List (List Char)} (h : Shown run)
    (hsub : ∀ piece ∈ run, piece ∈ longer) : Shown longer := by
  obtain ⟨piece, hpiece, hc⟩ := h
  exact ⟨piece, hsub piece hpiece, hc⟩

theorem Shown.ne_nil {run : List (List Char)} (h : Shown run) : run ≠ [] := by
  rintro rfl
  obtain ⟨_, hpiece, _⟩ := h
  contradiction

/-- Two runs together are not blank if and only if one of them is not. -/
theorem shown_append {run more : List (List Char)} :
    Shown (run ++ more) ↔ Shown run ∨ Shown more := by
  simp [Shown, or_and_right, exists_or]

theorem shown_reverse {run : List (List Char)} : Shown run.reverse ↔ Shown run := by
  simp [Shown]

/-- Joining pieces adds spaces only. -/
theorem mem_joinWords_iff {run : List (List Char)} {c : Char} (hc : c ≠ ' ') :
    c ∈ (joinWords run).toList ↔ ∃ piece ∈ run, c ∈ piece := by
  induction run with
  | nil => simp [joinWords]
  | cons piece run ih =>
      rw [joinWords, String.toList_ofList] at ih
      rw [joinWords, String.toList_ofList]
      cases run with
      | nil => simp
      | cons next run =>
          rw [List.intercalate_cons_of_ne_nil (List.cons_ne_nil _ _), List.mem_append,
            List.mem_append, List.mem_singleton, ih]
          simp [hc]

/-- The spaces between the pieces are blank, so a run is blank if its pieces are. -/
theorem allBlank_joinWords (run : List (List Char)) :
    allBlank (joinWords run) = false ↔ Shown run := by
  rw [allBlank, List.all_eq_false]
  constructor
  · rintro ⟨c, hc, hshown⟩
    have hspace : c ≠ ' ' := by
      rintro rfl
      exact hshown (by decide)
    obtain ⟨piece, hpiece, hmem⟩ := (mem_joinWords_iff hspace).mp hc
    exact ⟨piece, hpiece, c, hmem, by simpa using hshown⟩
  · rintro ⟨piece, hpiece, c, hmem, hshown⟩
    have hspace : c ≠ ' ' := by
      rintro rfl
      exact absurd hshown (by decide)
    exact ⟨c, (mem_joinWords_iff hspace).mpr ⟨piece, hpiece, hmem⟩, by simp [hshown]⟩

/-- Behind the query, the last piece is the outer one. -/
theorem isFit_getLast? (run : List (List Char)) :
    isFit stopwords run run.getLast? = true ↔ Fit stopwords run := by
  rw [isFit, Bool.and_eq_true, Bool.not_eq_true', allBlank_joinWords, Bool.not_eq_true',
    ← Bool.not_eq_true]
  exact ⟨fun h => ⟨h.1, h.2⟩, fun h => ⟨h.shown, h.outer⟩⟩

/-- Before the query, the first piece is the outer one. -/
theorem isFit_head? (run : List (List Char)) :
    isFit stopwords run run.head? = true ↔ Fit stopwords run.reverse := by
  rw [isFit, Bool.and_eq_true, Bool.not_eq_true', allBlank_joinWords, Bool.not_eq_true',
    ← Bool.not_eq_true, ← shown_reverse, ← List.getLast?_reverse]
  exact ⟨fun h => ⟨h.1, h.2⟩, fun h => ⟨h.shown, h.outer⟩⟩

/-- The runs that are tried behind a match. -/
theorem mem_runsBehind {most : Nat} {pieces run : List (List Char)} :
    run ∈ runsBehind most pieces ↔ run ≠ [] ∧ run <+: pieces.take most := by
  simp only [runsBehind, List.mem_reverse, List.mem_map, List.mem_range]
  constructor
  · rintro ⟨i, hi, rfl⟩
    refine ⟨?_, List.take_prefix_take_left (by omega)⟩
    rw [← List.length_pos_iff, List.length_take]
    omega
  · rintro ⟨hne, hinit⟩
    have hlength := hinit.length_le
    have hpos := List.length_pos_iff.mpr hne
    rw [List.length_take] at hlength
    refine ⟨run.length - 1, by omega, ?_⟩
    rw [Nat.sub_add_cancel hpos]
    exact (List.prefix_iff_eq_take.mp (hinit.trans (List.take_prefix most pieces))).symm

/-- A run before a match is one behind it, read backwards. -/
theorem runsBefore_eq (most : Nat) (pieces : List (List Char)) :
    runsBefore most pieces = ((runsBehind most pieces.reverse).map List.reverse).reverse := by
  rw [runsBefore, runsBehind, List.map_reverse, List.reverse_reverse, List.map_map,
    List.length_reverse]
  refine List.map_congr_left fun i _ => ?_
  rw [Function.comp_apply, List.reverse_take, List.reverse_reverse, List.length_reverse]

/-- The runs before the query are the suffixes of the pieces, up to so many. -/
theorem mem_runsBefore {most : Nat} {pieces run : List (List Char)} :
    run ∈ runsBefore most pieces ↔
      run.reverse ≠ [] ∧ run.reverse <+: pieces.reverse.take most := by
  rw [runsBefore_eq, List.mem_reverse, List.mem_map]
  constructor
  · rintro ⟨run, hrun, rfl⟩
    rw [List.reverse_reverse]
    exact mem_runsBehind.mp hrun
  · exact fun h => ⟨run.reverse, mem_runsBehind.mpr h, List.reverse_reverse run⟩

/-- Behind the query, longer runs are tried first. -/
theorem pairwise_runsBehind (most : Nat) (pieces : List (List Char)) :
    (runsBehind most pieces).Pairwise fun longer shorter => shorter <+: longer := by
  rw [runsBehind, List.pairwise_reverse, List.pairwise_map]
  exact List.pairwise_lt_range.imp fun hlt => List.take_prefix_take_left (by omega)

/-- Before the query, shorter runs are tried first. -/
theorem pairwise_runsBefore (most : Nat) (pieces : List (List Char)) :
    (runsBefore most pieces).Pairwise
      fun shorter longer => shorter.reverse <+: longer.reverse := by
  rw [runsBefore_eq, List.pairwise_reverse, List.pairwise_map]
  refine (pairwise_runsBehind most pieces.reverse).imp fun hinit => ?_
  rwa [List.reverse_reverse, List.reverse_reverse]

/-! ## the run that is added -/

/- Two fit prefixes of one list are prefixes of one another, so the order in which they
are tried is decided by length, and one is first. -/

/-- One run is tried before another one. -/
def Side.Precedes (run other : List (List Char)) : Side → Prop
  | behind => other <+: run
  | before => run <+: other

/-- The run that is added on a side: of the fit prefixes of the pieces within
reach the one that is tried first. -/
structure Chosen (stopwords : Option Stopwords) (side : Side) (within run : List (List Char)) :
    Prop where
  fit : Fit stopwords run
  isPrefix : run <+: within
  first : ∀ other, Fit stopwords other → other <+: within → side.Precedes run other

/-- At most one run is chosen. -/
theorem Chosen.unique {side : Side} {within run other : List (List Char)}
    (h : Chosen stopwords side within run) (hother : Chosen stopwords side within other) :
    run = other := by
  have hrun := h.first other hother.fit hother.isPrefix
  have hback := hother.first run h.fit h.isPrefix
  cases side with
  | behind => exact hback.eq_of_length_le hrun.length_le
  | before => exact hrun.eq_of_length_le hback.length_le

/-- What is found first comes before all that could be found. -/
theorem precedes_of_find? {α : Type} {R : α → α → Prop} (hrefl : ∀ a, R a a) {p : α → Bool}
    {l : List α} (hl : l.Pairwise R) {a : α} (h : l.find? p = some a) :
    ∀ b ∈ l, p b = true → R a b := by
  intro b hb hp
  obtain ⟨_, passed, rest, rfl, hpassed⟩ := List.find?_eq_some_iff_append.mp h
  rcases List.mem_append.mp hb with hb | hb
  · exact absurd hp (by simpa using hpassed b hb)
  · rcases List.mem_cons.mp hb with rfl | hb
    · exact hrefl b
    · exact (List.pairwise_cons.mp (List.pairwise_append.mp hl).2.1).1 b hb

/-- The run that is found behind a match. -/
theorem chosen_behind {pieces run : List (List Char)}
    (h : (runsBehind (most + 1) pieces).find? (fun run => isFit stopwords run run.getLast?) =
      some run) :
    Chosen stopwords .behind (pieces.take (most + 1)) run := by
  have hfit := List.find?_some h
  refine ⟨(isFit_getLast? run).mp hfit,
    (mem_runsBehind.mp (List.mem_of_find?_eq_some h)).2, fun other hother hinit => ?_⟩
  exact precedes_of_find? (R := fun longer shorter => shorter <+: longer) List.prefix_refl
    (pairwise_runsBehind _ _) h other (mem_runsBehind.mpr ⟨hother.shown.ne_nil, hinit⟩)
    ((isFit_getLast? other).mpr hother)

/-- The run that is found before a match. -/
theorem chosen_before {pieces run : List (List Char)}
    (h : (runsBefore (most + 1) pieces).find? (fun run => isFit stopwords run run.head?) =
      some run) :
    Chosen stopwords .before (pieces.reverse.take (most + 1)) run.reverse := by
  have hfit := List.find?_some h
  refine ⟨(isFit_head? run).mp hfit, (mem_runsBefore.mp (List.mem_of_find?_eq_some h)).2,
    fun other hother hinit => ?_⟩
  have hmem : other.reverse ∈ runsBefore (most + 1) pieces := by
    rw [mem_runsBefore, List.reverse_reverse]
    exact ⟨hother.shown.ne_nil, hinit⟩
  have hotherFit : isFit stopwords other.reverse other.reverse.head? = true := by
    rw [isFit_head?, List.reverse_reverse]
    exact hother
  have hfirst := precedes_of_find? (fun run => List.prefix_refl run.reverse)
    (pairwise_runsBefore _ _) h other.reverse hmem hotherFit
  rwa [List.reverse_reverse] at hfirst

/-- A phrase adds the run that is chosen on one side. -/
theorem chosen_of_phrase? {query : String} {phrase : Phrase}
    (h : phrase? query most stopwords around = some phrase) :
    ∃ side run, Chosen stopwords side (side.within most around) run ∧
      phrase = side.phrase query (side.textOf run) := by
  rcases Option.or_eq_some_iff.mp h with hbehind | ⟨_, hbefore⟩
  · obtain ⟨run, hrun, rfl⟩ := Option.map_eq_some_iff.mp hbehind
    exact ⟨.behind, run, chosen_behind hrun, rfl⟩
  · obtain ⟨run, hrun, rfl⟩ := Option.map_eq_some_iff.mp hbefore
    refine ⟨.before, run.reverse, chosen_before hrun, ?_⟩
    rw [Side.textOf, List.reverse_reverse]
    rfl

/-! ## without stopwords -/

/-- Without stopwords, a run is fit if it is not blank. -/
theorem fit_none {run : List (List Char)} : Fit none run ↔ Shown run :=
  ⟨fun h => h.shown, fun h => ⟨h, by simp [Stops]⟩⟩

/-- Without stopwords the run behind a match is all that is within reach. -/
theorem Chosen.eq_within {within run : List (List Char)} (h : Chosen none .behind within run) :
    run = within := by
  have hfit : Fit none within :=
    fit_none.mpr (h.fit.shown.mono fun _ hmem => h.isPrefix.subset hmem)
  exact h.isPrefix.eq_of_length_le (h.first within hfit (List.prefix_refl within)).length_le

/-- All pieces within reach behind the match are added, unless they are blank. -/
theorem phrase?_of_shown (query : String) (h : Shown (Side.behind.within most around)) :
    phrase? query most none around =
      some (Side.behind.phrase query (Side.behind.textOf (Side.behind.within most around))) := by
  have hall : Side.behind.within most around ∈ runsBehind (most + 1) (splitSpaces around.after) :=
    mem_runsBehind.mpr ⟨h.ne_nil, List.prefix_refl _⟩
  have hfit : Fit none (Side.behind.within most around) := fit_none.mpr h
  have hsome : ((runsBehind (most + 1) (splitSpaces around.after)).find?
      fun run => isFit none run run.getLast?).isSome := by
    rw [List.find?_isSome]
    exact ⟨_, hall, (isFit_getLast? _).mpr hfit⟩
  obtain ⟨run, hrun⟩ := Option.isSome_iff_exists.mp hsome
  obtain rfl : run = Side.behind.within most around := (chosen_behind hrun).eq_within
  rw [phrase?, hrun]
  rfl

/-! ## runs as texts -/

theorem notMem_space_of_mem_splitSpaces {cs piece : List Char} (h : piece ∈ splitSpaces cs) :
    ∀ c ∈ piece, decide (c = ' ') = false := splitBy_forall _ cs piece h

/-- The pieces on a side within reach are pieces between spaces. -/
theorem Side.noSpace_of_mem_within {side : Side} {piece : List Char}
    (h : piece ∈ side.within most around) : ∀ c ∈ piece, decide (c = ' ') = false := by
  cases side with
  | behind => exact notMem_space_of_mem_splitSpaces (List.mem_of_mem_take h)
  | before =>
      exact notMem_space_of_mem_splitSpaces (List.mem_reverse.mp (List.mem_of_mem_take h))

/-- The words of a run are its pieces that are not empty. -/
theorem wordsBy_joinWords {run : List (List Char)} (hne : run ≠ [])
    (h : ∀ piece ∈ run, ∀ c ∈ piece, decide (c = ' ') = false) :
    wordsBy (· = ' ') (joinWords run).toList = run.filter fun piece => !piece.isEmpty := by
  rw [joinWords, String.toList_ofList, wordsBy, splitBy_intercalate hne h]

/-- The outer word of a text is that of its pieces. -/
theorem Side.outerWord?_textOf (side : Side) {run : List (List Char)} (hne : run ≠ [])
    (h : ∀ piece ∈ run, ∀ c ∈ piece, decide (c = ' ') = false) :
    side.outerWord? (side.textOf run) =
      ((run.filter fun piece => !piece.isEmpty).getLast?).map String.ofList := by
  cases side with
  | behind => rw [outerWord?, textOf, words, wordsBy_joinWords hne h, List.getLast?_map]
  | before =>
      rw [outerWord?, textOf, words, wordsBy_joinWords (by simpa using hne) (by simpa using h),
        List.filter_reverse, List.head?_map, List.head?_reverse]

/-- A run stands next to the match. -/
theorem Side.adjoins_textOf {side : Side} {run : List (List Char)} (hne : run ≠ [])
    (h : run <+: side.within most around) : side.Adjoins around (side.textOf run).toList := by
  cases side with
  | behind =>
      obtain ⟨more, hmore⟩ := h.trans (List.take_prefix _ (splitSpaces around.after))
      have htext := intercalate_splitBy ' ' around.after
      rw [← splitSpaces, ← hmore] at htext
      cases more with
      | nil => exact ⟨[], by simpa [textOf, joinWords] using htext.symm, .inl rfl⟩
      | cons piece more =>
          rw [intercalate_append hne (List.cons_ne_nil _ _)] at htext
          exact ⟨_, by simpa [textOf, joinWords] using htext.symm, .inr rfl⟩
  | before =>
      obtain ⟨more, hmore⟩ := h.trans (List.take_prefix _ (splitSpaces around.before).reverse)
      have htext := intercalate_splitBy ' ' around.before
      have hpieces := congrArg List.reverse hmore
      rw [List.reverse_reverse, List.reverse_append] at hpieces
      rw [← splitSpaces, ← hpieces] at htext
      cases hmore : more.reverse with
      | nil =>
          rw [hmore] at htext
          exact ⟨[], by simpa [textOf, joinWords] using htext.symm, .inl rfl⟩
      | cons piece pieces =>
          rw [hmore, intercalate_append (List.cons_ne_nil _ _) (by simpa using hne),
            ← List.append_assoc] at htext
          rw [textOf, joinWords, String.toList_ofList]
          exact ⟨_, htext.symm, .inr (by simp)⟩

/-- Pieces are joined by one space less than there are pieces. -/
theorem count_joinWords {run : List (List Char)} (hne : run ≠ [])
    (h : ∀ piece ∈ run, ∀ c ∈ piece, decide (c = ' ') = false) :
    (joinWords run).toList.count ' ' + 1 = run.length := by
  have hlength := length_splitBy (· = ' ') (List.intercalate [' '] run)
  rw [splitBy_intercalate hne h] at hlength
  rw [hlength, joinWords, String.toList_ofList, List.count]
  congr 2

namespace Side

/-- The text of a run is blank if and only if all its pieces are. -/
theorem allBlank_textOf (side : Side) (run : List (List Char)) :
    allBlank (side.textOf run) = false ↔ Shown run := by
  cases side with
  | behind => exact allBlank_joinWords run
  | before => rw [textOf, allBlank_joinWords, shown_reverse]

/-- A run has one space less than pieces. -/
theorem count_textOf (side : Side) {run : List (List Char)} (hne : run ≠ [])
    (h : ∀ piece ∈ run, ∀ c ∈ piece, decide (c = ' ') = false) :
    (side.textOf run).toList.count ' ' + 1 = run.length := by
  cases side with
  | behind => exact count_joinWords hne h
  | before =>
      rw [textOf, count_joinWords (by simpa using hne) (by simpa using h), List.length_reverse]

/-- One piece more than the words is within reach, for the space next to the query. -/
theorem length_within_le (most : Nat) (around : Occurrence) (side : Side) :
    (side.within most around).length ≤ most + 1 := by
  cases side with
  | behind => exact List.length_take_le _ _
  | before => exact List.length_take_le _ _

end Side

/-! ## the side of a phrase -/

/- If a phrase behind the query were one before it, both the value and the label could
be moved past the query. The query would then repeat itself at the length of the opening
mark, and be made of its characters; but it would also end like the closing mark, which
has a slash. -/

/-- A list that can be moved past another one, both without and with a frame
around the other one, repeats itself at the length of the opening of the frame. -/
theorem hasPeriod_of_framed {α : Type} {opening closing added other l : List α}
    (hother : other ≠ []) (hvalue : l ++ added = other ++ l)
    (hlabel : l ++ (opening ++ (added ++ closing)) = opening ++ (other ++ (closing ++ l))) :
    l.HasPeriod opening.length := by
  have hpos : 0 < other.length := List.length_pos_iff.mpr hother
  have hnear : ∀ i < l.length, i < other.length → l[i]? = other[i]? := by
    intro i hlt hi
    rw [← List.getElem?_append_left hlt, hvalue, List.getElem?_append_left hi]
  have hfar : ∀ i < l.length, other.length ≤ i → l[i]? = l[i - other.length]? := by
    intro i hlt hi
    rw [← List.getElem?_append_left hlt, hvalue, List.getElem?_append_right hi]
  rw [List.hasPeriod_iff_getElem?]
  intro i
  -- below the length of the other list both places hold a part of it, and
  -- beyond this length one can go back by it
  induction i using Nat.strongRecOn with
  | _ i ih =>
      intro hi
      by_cases hlt : i < other.length
      · have hshifted : l[i + opening.length]? = other[i]? := by
          rw [← List.getElem?_append_left (by omega), hlabel,
            List.getElem?_append_right (Nat.le_add_left _ _), Nat.add_sub_cancel,
            List.getElem?_append_left hlt]
        rw [hnear i (by omega) hlt, hshifted]
      · rw [hfar i (by omega) (by omega), hfar (i + opening.length) (by omega) (by omega),
          ih (i - other.length) (by omega) (by omega), Nat.sub_add_comm (by omega)]

/-- So it is made of the opening. -/
theorem mem_opening_of_framed {α : Type} {opening closing added other l : List α}
    (hopening : opening ≠ []) (hother : other ≠ []) (hvalue : l ++ added = other ++ l)
    (hlabel : l ++ (opening ++ (added ++ closing)) = opening ++ (other ++ (closing ++ l))) :
    ∀ c ∈ l, c ∈ opening := by
  intro c hc
  obtain ⟨i, hi, rfl⟩ := List.getElem_of_mem hc
  have hmod : i % opening.length < opening.length :=
    Nat.mod_lt i (List.length_pos_iff.mpr hopening)
  have hle : i % opening.length ≤ i := Nat.mod_le i opening.length
  have hget := (hasPeriod_of_framed hother hvalue hlabel).getElem?_mod opening.length i l hi
  rw [← List.getElem?_append_left (by omega), hlabel, List.getElem?_append_left hmod] at hget
  exact List.mem_of_getElem? (hget.trans (List.getElem?_eq_getElem hi))

/-- No part of the closing mark stands at both of its ends. -/
theorem not_take_suffix_markClose : ∀ n < markClose.toList.length, n ≠ 0 →
    ¬ markClose.toList.take n <:+ markClose.toList := by
  decide

/-- A phrase shows on which side of the query its words were added. -/
theorem Side.phrase_behind_ne_before {query added other : String} (hquery : query ≠ "")
    (hother : other ≠ "") : behind.phrase query added ≠ before.phrase query other := by
  intro heq
  have hvalue := congrArg (fun phrase => phrase.value.toList) heq
  have hlabel := congrArg (fun phrase => phrase.label.toList) heq
  simp only [phrase, String.toList_append, List.append_assoc] at hvalue hlabel
  have hne : query.toList ≠ [] := fun hnil => hquery (String.toList_inj.mp hnil)
  have hmem := mem_opening_of_framed (by decide)
    (fun hnil => hother (String.toList_inj.mp hnil)) hvalue hlabel
  -- the label ends in the closing mark and in the query
  have hclose : markClose.toList <:+ (markOpen.toList ++ (other.toList ++ markClose.toList)) ++
      query.toList := by
    rw [List.append_assoc, List.append_assoc, ← hlabel, ← List.append_assoc, ← List.append_assoc]
    exact List.suffix_append _ _
  have hend := List.suffix_append (markOpen.toList ++ (other.toList ++ markClose.toList))
    query.toList
  rcases Nat.lt_or_ge query.toList.length markClose.toList.length with hlt | hge
  · obtain ⟨front, hfront⟩ := List.suffix_of_suffix_length_le hend hclose hlt.le
    have hlength := congrArg List.length hfront
    rw [List.length_append] at hlength
    have hpos := List.length_pos_iff.mpr hne
    have hborder : front <:+ markOpen.toList ++ (other.toList ++ markClose.toList) := by
      refine List.suffix_append_self_iff.mp (?_ : front ++ query.toList <:+ _ ++ query.toList)
      rw [hfront]
      exact hclose
    have hfrontClose : front <:+ markClose.toList :=
      List.suffix_of_suffix_length_le hborder (List.suffix_append_of_suffix
        (List.suffix_append other.toList markClose.toList)) (by omega)
    have htake : markClose.toList.take front.length = front := by
      rw [← hfront, List.take_left]
    rw [← htake] at hfrontClose
    exact not_take_suffix_markClose front.length (by omega) (by omega) hfrontClose
  · have hslash : '/' ∈ query.toList :=
      (List.suffix_of_suffix_length_le hclose hend hge).subset (by decide)
    exact absurd (hmem '/' hslash) (by decide)

end SearchRelay.Suggestion
