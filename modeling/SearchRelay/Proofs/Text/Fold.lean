import SearchRelay.Proofs.Text.Canonical
import SearchRelay.Proofs.Text.Search
import SearchRelay.Proofs.Text.Split

/-!
# SearchRelay.Proofs.Text.Fold

Texts without their diacritics, and the words of a query that match a candidate.

1. `foldChars_eq` — folding takes the parts of a text that are no marks (`bare`) and
   joins them; `bare_foldChars` — these parts are kept, so `foldChars_foldChars`.
2. `foldChars_append_space`, `splitSpaces_foldChars` — the pieces of a folded text are
   the folded pieces of the text.
3. `mem_words_foldDiacritics` — its words are the folded words, but for those of which
   nothing is left.
4. `wordMatch_eq_true_iff` — a word of which nothing is left matches every candidate.

`wordMatch_foldDiacritics_iff` says when diacritics in a query matter, which they do
because of such words alone; in a candidate they never do.
-/

namespace SearchRelay.Text

open Canonical

/-! ## folded texts -/

/-- The parts of a text that are no marks. -/
def bare (cs : List Char) : List Char := (decompose cs).filter fun c => !isMark c

theorem markless_bare (cs : List Char) : Markless (bare cs) := fun c hc => by
  simpa using (List.mem_filter.mp hc).2

theorem bare_append (cs ds : List Char) : bare (cs ++ ds) = bare cs ++ bare ds := by
  rw [bare, decompose_append, List.filter_append]
  rfl

/-- What is bare does not decompose further. -/
theorem decompose_bare (cs : List Char) : decompose (bare cs) = bare cs := by
  have hatom : ∀ d ∈ bare cs, decomposeChar d = [d] := by
    intro d hd
    obtain ⟨c, _, hpart⟩ := List.mem_flatMap.mp (List.mem_filter.mp hd).1
    exact (decomposeChar_of_mem hpart).1
  rw [decompose, List.flatMap_congr hatom, List.flatMap_singleton']

/-- Folding composes again what is left without the marks. -/
theorem foldChars_eq (cs : List Char) : foldChars cs = join (bare cs) := by
  have hfilter : (nfd cs).filter (fun c => !isMark c) = bare cs := by
    rw [nfd, filter_orderMarks]
    rfl
  have hnfd : nfd (bare cs) = bare cs := by
    rw [nfd, decompose_bare, orderMarks_of_markless (markless_bare cs)]
    rfl
  rw [foldChars, hfilter, nfc, hnfd, compose_eq_join (markless_bare cs)]

/-- A folded text has the parts that the text has, marks apart. -/
theorem bare_foldChars (cs : List Char) : bare (foldChars cs) = bare cs := by
  have hparts : decompose (foldChars cs) = bare cs := by
    rw [foldChars_eq, decompose_join, decompose_bare]
  rw [bare, hparts, List.filter_eq_self.mpr]
  exact fun c hc => by simpa using markless_bare cs c hc

/-- Nothing is left to fold. -/
theorem foldChars_foldChars (cs : List Char) : foldChars (foldChars cs) = foldChars cs := by
  rw [foldChars_eq, bare_foldChars, ← foldChars_eq]

/-! ## spaces -/

/- A space is decomposed into itself, is no mark, and is composed with nothing, so
folding goes on piece by piece between spaces. -/

/-- What stands before a space and behind it is folded by itself. -/
theorem foldChars_append_space (cs ds : List Char) :
    foldChars (cs ++ ' ' :: ds) = foldChars cs ++ ' ' :: foldChars ds := by
  have hspace : bare (' ' :: ds) = ' ' :: bare ds := by
    rw [bare, decompose_cons]
    rfl
  rw [foldChars_eq, bare_append, hspace, join_append_space, ← foldChars_eq, ← foldChars_eq]

/-- Folding makes no spaces. -/
theorem space_notMem_foldChars {cs : List Char} (h : ' ' ∉ cs) : ' ' ∉ foldChars cs := by
  intro hmem
  have hpart : ' ' ∈ bare (foldChars cs) := by
    refine List.mem_filter.mpr ⟨List.mem_flatMap.mpr ⟨' ', hmem, ?_⟩, ?_⟩
    · decide
    · decide
  rw [bare_foldChars] at hpart
  obtain ⟨c, hc, hspace⟩ := List.mem_flatMap.mp (List.mem_filter.mp hpart).1
  exact h ((decomposeChar_of_mem hspace).2 rfl ▸ hc)

/-- Texts between spaces are folded one by one. -/
theorem foldChars_intercalate (pieces : List (List Char)) :
    foldChars (List.intercalate [' '] pieces) = List.intercalate [' '] (pieces.map foldChars) := by
  induction pieces with
  | nil => decide
  | cons piece pieces ih =>
      cases pieces with
      | nil => simp
      | cons next pieces =>
          have hne : (next :: pieces).map foldChars ≠ [] := by simp
          have hmap : (piece :: next :: pieces).map foldChars =
              foldChars piece :: (next :: pieces).map foldChars := rfl
          rw [List.intercalate_cons_of_ne_nil (List.cons_ne_nil _ _), List.append_assoc,
            List.singleton_append, foldChars_append_space, ih, hmap,
            List.intercalate_cons_of_ne_nil hne, List.append_assoc, List.singleton_append]

/-- The pieces of a folded text are the folded pieces. -/
theorem splitSpaces_foldChars (cs : List Char) :
    splitSpaces (foldChars cs) = (splitSpaces cs).map foldChars := by
  have hnospace : ∀ piece ∈ (splitSpaces cs).map foldChars, ∀ c ∈ piece,
      decide (c = ' ') = false := by
    intro folded hfolded c hc
    obtain ⟨piece, hpiece, rfl⟩ := List.mem_map.mp hfolded
    refine decide_eq_false fun hspace => space_notMem_foldChars (fun hmem => ?_) (hspace ▸ hc)
    simpa using splitBy_forall _ cs piece hpiece ' ' hmem
  have hne : (splitSpaces cs).map foldChars ≠ [] :=
    fun hnil => splitBy_ne_nil _ cs (List.map_eq_nil_iff.mp hnil)
  have hjoined : List.intercalate [' '] (splitSpaces cs) = cs := intercalate_splitBy ' ' cs
  calc splitSpaces (foldChars cs)
      = splitSpaces (foldChars (List.intercalate [' '] (splitSpaces cs))) := by rw [hjoined]
    _ = splitSpaces (List.intercalate [' '] ((splitSpaces cs).map foldChars)) := by
        rw [foldChars_intercalate]
    _ = (splitSpaces cs).map foldChars := splitBy_intercalate hne hnospace

/-! ## words -/

/-- Folding is idempotent. -/
theorem foldDiacritics_foldDiacritics (text : String) :
    foldDiacritics (foldDiacritics text) = foldDiacritics text := by
  rw [foldDiacritics, foldDiacritics, String.toList_ofList, foldChars_foldChars]

/-- Folding diacritics first makes no difference to folding for a match. -/
theorem foldForMatch_foldDiacritics (text : String) :
    foldForMatch (foldDiacritics text) = foldForMatch text := by
  rw [foldForMatch, foldDiacritics_foldDiacritics, foldForMatch]

/-- The words are the pieces between spaces that are not empty. -/
theorem mem_words_iff {text word : String} :
    word ∈ words text ↔ word ≠ "" ∧ word.toList ∈ splitSpaces text.toList := by
  rw [words, wordsBy, List.mem_map]
  constructor
  · rintro ⟨piece, hpiece, rfl⟩
    obtain ⟨hmem, hne⟩ := List.mem_filter.mp hpiece
    rw [String.toList_ofList]
    exact ⟨by simpa using hne, hmem⟩
  · rintro ⟨hne, hmem⟩
    refine ⟨word.toList, List.mem_filter.mpr ⟨hmem, ?_⟩, String.ofList_toList⟩
    simpa using hne

/-- The words of a folded text are the folded words of which something is left. -/
theorem mem_words_foldDiacritics {text folded : String} :
    folded ∈ words (foldDiacritics text) ↔
      folded ≠ "" ∧ ∃ word ∈ words text, foldDiacritics word = folded := by
  rw [mem_words_iff, foldDiacritics, String.toList_ofList, splitSpaces_foldChars, List.mem_map]
  refine and_congr_right fun hne => ?_
  constructor
  · rintro ⟨piece, hpiece, hfolded⟩
    have hword : foldDiacritics (String.ofList piece) = folded := by
      rw [foldDiacritics, String.toList_ofList, hfolded, String.ofList_toList]
    refine ⟨String.ofList piece, mem_words_iff.mpr ⟨?_, ?_⟩, hword⟩
    · intro hempty
      rw [hempty] at hword
      exact hne (hword.symm.trans (by decide))
    · rwa [String.toList_ofList]
  · rintro ⟨word, hword, rfl⟩
    exact ⟨word.toList, (mem_words_iff.mp hword).2, by rw [foldDiacritics, String.toList_ofList]⟩

/-! ## matches -/

/- A word of marks only is empty when it is folded, and the empty text occurs
everywhere. The query is split into words before they are folded, so such a word is
still there to match. -/

/-- Some word of a query is lost with its diacritics. -/
def LosesWord (query : String) : Prop := ∃ word ∈ words query, foldDiacritics word = ""

/-- Some word of a query that is not lost occurs in a candidate, both folded. -/
def MatchesWord (query candidate : String) : Prop :=
  ∃ word ∈ words query, foldDiacritics word ≠ "" ∧
    (foldForMatch word).toList <:+: (foldForMatch candidate).toList

variable {query candidate : String}

/-- A word that is lost occurs everywhere. -/
theorem contains_foldForMatch_of_lost {word : String} (h : foldDiacritics word = "")
    (text : String) : contains text (foldForMatch word) = true := by
  have hempty : foldForMatch word = "" := by
    rw [foldForMatch, h]
    decide
  rw [contains_iff, hempty]
  exact List.nil_infix

/-- A query matches for want of words, by a word that is lost, or by another one. -/
theorem wordMatch_eq_true_iff :
    wordMatch query candidate = true ↔
      words query = [] ∨ LosesWord query ∨ MatchesWord query candidate := by
  rw [wordMatch, Bool.or_eq_true, List.isEmpty_iff, List.any_eq_true]
  refine or_congr_right ?_
  constructor
  · rintro ⟨word, hword, hfound⟩
    by_cases hlost : foldDiacritics word = ""
    · exact .inl ⟨word, hword, hlost⟩
    · exact .inr ⟨word, hword, hlost, contains_iff.mp hfound⟩
  · rintro (⟨word, hword, hlost⟩ | ⟨word, hword, -, hinfix⟩)
    · exact ⟨word, hword, contains_foldForMatch_of_lost hlost _⟩
    · exact ⟨word, hword, contains_iff.mpr hinfix⟩

/-- A folded query loses no word. -/
theorem not_losesWord_foldDiacritics (query : String) : ¬ LosesWord (foldDiacritics query) := by
  rintro ⟨folded, hfolded, hlost⟩
  obtain ⟨hne, word, -, rfl⟩ := mem_words_foldDiacritics.mp hfolded
  exact hne (by rw [← hlost, foldDiacritics_foldDiacritics])

/-- Folding the query makes no difference to the words that match. -/
theorem matchesWord_foldDiacritics :
    MatchesWord (foldDiacritics query) candidate ↔ MatchesWord query candidate := by
  constructor
  · rintro ⟨folded, hfolded, -, hinfix⟩
    obtain ⟨hne, word, hword, rfl⟩ := mem_words_foldDiacritics.mp hfolded
    rw [foldForMatch_foldDiacritics] at hinfix
    exact ⟨word, hword, hne, hinfix⟩
  · rintro ⟨word, hword, hne, hinfix⟩
    refine ⟨foldDiacritics word, mem_words_foldDiacritics.mpr ⟨hne, word, hword, rfl⟩, ?_, ?_⟩
    · rwa [foldDiacritics_foldDiacritics]
    · rwa [foldForMatch_foldDiacritics]

/-- A folded query has no word if and only if all words are lost. -/
theorem words_foldDiacritics_eq_nil_iff :
    words (foldDiacritics query) = [] ↔ ∀ word ∈ words query, foldDiacritics word = "" := by
  rw [List.eq_nil_iff_forall_not_mem]
  constructor
  · intro h word hword
    by_contra hne
    exact h _ (mem_words_foldDiacritics.mpr ⟨hne, word, hword, rfl⟩)
  · intro h folded hfolded
    obtain ⟨hne, word, hword, rfl⟩ := mem_words_foldDiacritics.mp hfolded
    exact hne (h word hword)

/-- Without its diacritics a query matches for want of words or by a word that is not
lost. -/
theorem wordMatch_foldDiacritics_eq_true_iff :
    wordMatch (foldDiacritics query) candidate = true ↔
      words (foldDiacritics query) = [] ∨ MatchesWord query candidate := by
  rw [wordMatch_eq_true_iff, matchesWord_foldDiacritics,
    or_iff_right (not_losesWord_foldDiacritics query)]

/-- The diacritics of a candidate do not matter. -/
theorem wordMatch_foldDiacritics_right (query candidate : String) :
    wordMatch query (foldDiacritics candidate) = wordMatch query candidate := by
  rw [wordMatch, wordMatch, foldForMatch_foldDiacritics]

/-- Those of a query matter only where some of its words are lost with them and others
are not. -/
theorem wordMatch_foldDiacritics_left_iff :
    wordMatch (foldDiacritics query) candidate = wordMatch query candidate ↔
      (LosesWord query → words (foldDiacritics query) = [] ∨ MatchesWord query candidate) := by
  rw [Bool.eq_iff_iff, wordMatch_foldDiacritics_eq_true_iff, wordMatch_eq_true_iff]
  constructor
  · exact fun hsame hlost => hsame.mpr (.inr (.inl hlost))
  · refine fun hlost => ⟨?_, ?_⟩
    · rintro (hnone | hmatches)
      · -- a query without words has none to lose; any other one has lost them all
        cases hwords : words query with
        | nil => exact .inl rfl
        | cons word more =>
            have hword : word ∈ words query := hwords ▸ List.mem_cons_self
            exact .inr (.inl ⟨word, hword, words_foldDiacritics_eq_nil_iff.mp hnone word hword⟩)
      · exact .inr (.inr hmatches)
    · rintro (hnone | hloses | hmatches)
      · refine .inl (words_foldDiacritics_eq_nil_iff.mpr fun word hword => ?_)
        rw [hnone] at hword
        contradiction
      · exact hlost hloses
      · exact .inr hmatches

/-- A query with words matches by one that is not lost, unless another one is. -/
theorem matchesWord_of_wordMatch_iff :
    (wordMatch query candidate = true → words query = [] ∨ MatchesWord query candidate) ↔
      (LosesWord query → MatchesWord query candidate) := by
  rw [wordMatch_eq_true_iff]
  constructor
  · intro hmatch hloses
    obtain ⟨word, hword, -⟩ := id hloses
    exact (hmatch (.inr (.inl hloses))).resolve_left (List.ne_nil_of_mem hword)
  · rintro hlost (hnone | hloses | hmatches)
    · exact .inl hnone
    · exact .inr (hlost hloses)
    · exact .inr hmatches

/-- **Diacritics in a query**: those of the candidate do not matter.  Those of the query
do if and only if one of its words is lost with them, but not every one, and none of
the others occurs in the candidate; and a query with words matches by a word that is
not lost, unless one is lost and no other one occurs. -/
theorem wordMatch_foldDiacritics_iff (query candidate : String) :
    wordMatch query (foldDiacritics candidate) = wordMatch query candidate ∧
      (wordMatch (foldDiacritics query) candidate = wordMatch query candidate ↔
        (LosesWord query → words (foldDiacritics query) = [] ∨ MatchesWord query candidate)) ∧
      ((wordMatch query candidate = true → words query = [] ∨ MatchesWord query candidate) ↔
        (LosesWord query → MatchesWord query candidate)) :=
  ⟨wordMatch_foldDiacritics_right query candidate, wordMatch_foldDiacritics_left_iff,
    matchesWord_of_wordMatch_iff⟩

/-- A lone accent among the words of a query makes it match a candidate in which none of
the others occurs. -/
theorem wordMatch_lone_accent :
    wordMatch "zz \u0301" "abc" = true ∧ wordMatch (foldDiacritics "zz \u0301") "abc" = false ∧
      words "zz \u0301" ≠ [] ∧ ¬ MatchesWord "zz \u0301" "abc" := by
  unfold MatchesWord
  decide +kernel

end SearchRelay.Text
