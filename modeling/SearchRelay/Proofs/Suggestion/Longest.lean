import SearchRelay.Proofs.Suggestion.Phrase

/-!
# SearchRelay.Proofs.Suggestion.Longest

How many words are added behind a match that ends where a word ends.

The reach is counted in pieces, with one more for the empty piece in front of the
first space.  Every further space in a row takes up a piece as well, so the reach
is a number of spaces and not of words (`spacesInFront`).

1. `filter_take_eq_iff` — the words among the first pieces are the first words if
   these have few enough spaces in front of them.
2. `phrase?_eq_phrase_behind_iff` — without stopwords the run behind a match is all
   that is within reach.

`phrase?_adds_words_iff` — so the first words are added if and only if none of
them has too many spaces in front of it, and not all of them are blank.
-/

namespace SearchRelay.Suggestion

open Text

/-! ## words and spaces -/

/- Pieces between single spaces are words or empty. Taking so many pieces takes as many
words, unless an empty piece stands among them. -/

/-- The places of the pieces that are not empty, counted from `place`. -/
def placesFrom (place : Nat) : List (List Char) → List Nat
  | [] => []
  | piece :: pieces =>
    if piece.isEmpty then placesFrom (place + 1) pieces
    else place :: placesFrom (place + 1) pieces

/-- The number of spaces in front of each word of a text. -/
def spacesInFront (text : List Char) : List Nat := placesFrom 0 (splitSpaces text)

/-- The pieces that are not empty. -/
abbrev wordsAmong (pieces : List (List Char)) : List (List Char) :=
  pieces.filter fun piece => !piece.isEmpty

theorem length_placesFrom (place : Nat) (pieces : List (List Char)) :
    (placesFrom place pieces).length = (wordsAmong pieces).length := by
  induction pieces generalizing place with
  | nil => rfl
  | cons piece pieces ih =>
      rw [placesFrom, wordsAmong, List.filter_cons]
      cases piece.isEmpty <;> simp [ih]

/-- Places are counted from the first one on. -/
theorem le_of_mem_placesFrom {place n : Nat} {pieces : List (List Char)}
    (h : n ∈ placesFrom place pieces) : place ≤ n := by
  induction pieces generalizing place with
  | nil => contradiction
  | cons piece pieces ih =>
      rw [placesFrom] at h
      split at h
      · exact Nat.le_of_succ_le (ih h)
      · rcases List.mem_cons.mp h with rfl | h
        · exact Nat.le_refl n
        · exact Nat.le_of_succ_le (ih h)

/-- The words among the first pieces are the first words, if these stand early
enough. -/
theorem filter_take_eq_iff {pieces : List (List Char)} {reach most : Nat} (place : Nat)
    (h : (wordsAmong (pieces.take reach)).length ≤ most) :
    wordsAmong (pieces.take reach) = (wordsAmong pieces).take most ↔
      ∀ n ∈ (placesFrom place pieces).take most, n < place + reach := by
  induction pieces generalizing reach most place with
  | nil => simp [wordsAmong, placesFrom]
  | cons piece pieces ih =>
      cases reach with
      | zero =>
          -- no piece stands before the place
          have hempty : (wordsAmong (piece :: pieces)).take most = [] ↔
              (placesFrom place (piece :: pieces)).take most = [] := by
            rw [← List.length_eq_zero_iff, ← List.length_eq_zero_iff, List.length_take,
              List.length_take, length_placesFrom]
          rw [List.take_zero, wordsAmong, List.filter_nil, eq_comm, hempty]
          constructor
          · intro hnil
            simp [hnil]
          · intro hlt
            refine List.eq_nil_iff_forall_not_mem.mpr fun n hn => ?_
            have hle := le_of_mem_placesFrom (List.mem_of_mem_take hn)
            exact absurd (hlt n hn) (by omega)
      | succ reach =>
          rw [List.take_succ_cons] at h ⊢
          have hplace : place + (reach + 1) = place + 1 + reach := by omega
          cases hpiece : piece.isEmpty with
          | true =>
              have hskip : ∀ more : List (List Char),
                  wordsAmong (piece :: more) = wordsAmong more := by
                intro more
                simp [wordsAmong, hpiece]
              rw [hskip] at h ⊢
              rw [hskip, placesFrom, if_pos hpiece, hplace]
              exact ih (place + 1) h
          | false =>
              have hkeep : ∀ more : List (List Char),
                  wordsAmong (piece :: more) = piece :: wordsAmong more := by
                intro more
                simp [wordsAmong, hpiece]
              rw [hkeep, List.length_cons] at h
              obtain ⟨most, rfl⟩ := Nat.exists_eq_add_of_le' (Nat.le_of_add_left_le h)
              rw [hkeep, hkeep, placesFrom, hpiece, if_neg Bool.false_ne_true, List.take_succ_cons,
                List.take_succ_cons, List.cons_inj_right, List.forall_mem_cons, hplace,
                ih (place + 1) (Nat.le_of_add_le_add_right h)]
              exact (and_iff_right (by omega)).symm

/-! ## what is added -/

/-- A run is shown if one of its words is not blank. -/
theorem shown_iff_exists_mem_words {run : List (List Char)} (hne : run ≠ [])
    (h : ∀ piece ∈ run, ∀ c ∈ piece, decide (c = ' ') = false) :
    Shown run ↔ ∃ word ∈ words (joinWords run), allBlank word = false := by
  have hword : ∀ piece : List Char, allBlank (String.ofList piece) = false ↔
      ∃ c ∈ piece, isBlank c = false := by
    intro piece
    rw [allBlank, String.toList_ofList, List.all_eq_false]
    simp
  rw [words, wordsBy_joinWords hne h]
  simp only [List.mem_map, exists_exists_and_eq_and, hword]
  simp only [List.mem_filter, and_assoc]
  refine exists_congr fun piece => and_congr_right fun _ => (and_iff_right_of_imp ?_).symm
  rintro ⟨c, hc, _⟩
  simpa using List.ne_nil_of_mem hc

section

variable {most : Nat} {around : Occurrence}

/-- Without stopwords there are words added behind a match exactly where not all
pieces within reach are blank, and then all these pieces are. -/
theorem phrase?_eq_phrase_behind_iff {query : String} (hquery : query ≠ "") {added : String} :
    phrase? query most none around = some (Side.behind.phrase query added) ↔
      Shown (Side.behind.within most around) ∧
        added = Side.behind.textOf (Side.behind.within most around) := by
  constructor
  · intro h
    obtain ⟨side, run, hchosen, hphrase⟩ := chosen_of_phrase? h
    cases side with
    | behind =>
        obtain rfl := hchosen.eq_within
        refine ⟨hchosen.fit.shown, ?_⟩
        have hvalue := congrArg (fun phrase => phrase.value.toList) hphrase
        simp only [Side.phrase, String.toList_append, List.append_cancel_left_eq] at hvalue
        exact String.toList_inj.mp hvalue
    | before =>
        refine absurd hphrase (Side.phrase_behind_ne_before hquery fun hnil => ?_)
        have hshown := (Side.before.allBlank_textOf run).mpr hchosen.fit.shown
        rw [hnil] at hshown
        exact absurd hshown (by decide)
  · rintro ⟨hshown, rfl⟩
    exact phrase?_of_shown query hshown

theorem within_behind_ne_nil : Side.behind.within most around ≠ [] := by
  rw [Side.within, ne_eq, List.take_eq_nil_iff, not_or]
  exact ⟨Nat.succ_ne_zero most, splitBy_ne_nil (· = ' ') around.after⟩

/-- Where a match ends at a space or at the end of the text, the first piece is
empty. -/
theorem splitSpaces_of_boundary {cs : List Char} (h : cs = [] ∨ cs.head? = some ' ') :
    ∃ pieces, splitSpaces cs = [] :: pieces := by
  rcases h with rfl | h
  · exact ⟨[], rfl⟩
  · obtain ⟨rest, rfl⟩ := List.head?_eq_some_iff.mp h
    exact ⟨splitSpaces rest, splitBy_cons_of_pos rfl rest⟩

/-- The words within reach are the first words if these have few enough spaces in
front of them. -/
theorem words_within_eq_iff (h : around.after = [] ∨ around.after.head? = some ' ') :
    words (Side.behind.textOf (Side.behind.within most around)) =
        (words (String.ofList around.after)).take most ↔
      ∀ n ∈ (spacesInFront around.after).take most, n ≤ most := by
  -- the first piece is empty and no word
  have hlength : (wordsAmong ((splitSpaces around.after).take (most + 1))).length ≤ most := by
    obtain ⟨pieces, hpieces⟩ := splitSpaces_of_boundary h
    rw [hpieces, List.take_succ_cons]
    exact (List.length_filter_le _ (pieces.take most)).trans (List.length_take_le _ _)
  have hinj : Function.Injective (List.map String.ofList) :=
    List.map_injective_iff.mpr fun _ _ => String.ofList_injective
  have hplace := filter_take_eq_iff 0 hlength
  simp only [Nat.zero_add, Nat.lt_succ_iff] at hplace
  rw [words, words, Side.textOf,
    wordsBy_joinWords within_behind_ne_nil fun _ => Side.noSpace_of_mem_within,
    String.toList_ofList, ← List.map_take, hinj.eq_iff]
  exact hplace

end

/-- **The longest run**: where a match ends at the end of a word and stopwords do
not count, the words added behind it are the first ones of the text there, as many
as asked for, if and only if none of these has more spaces in front of it than
words are asked for, and not all of them are blank. -/
theorem phrase?_adds_words_iff {options : SuggestionOptions}
    (happly : options.applyStopwords = false) (common : Stopwords) {s : Suggestion}
    {around : Occurrence}
    (hfind : findIgnoringCase? (Html.plainText s.label) (trim options.value) = some around)
    (hboundary : around.after = [] ∨ around.after.head? = some ' ') :
    (∃ added, phrase? (trim options.value) options.maxPredictedWords
          (stopwordsFor options common) around =
          some (Side.behind.phrase (trim options.value) added) ∧
        words added = (words (String.ofList around.after)).take options.maxPredictedWords) ↔
      (∃ word ∈ (words (String.ofList around.after)).take options.maxPredictedWords,
          allBlank word = false) ∧
        ∀ n ∈ (spacesInFront around.after).take options.maxPredictedWords,
          n ≤ options.maxPredictedWords := by
  have hnone : stopwordsFor options common = none := by
    rw [stopwordsFor, happly, if_neg Bool.false_ne_true]
  have hquery : trim options.value ≠ "" := by
    intro hempty
    rw [hempty] at hfind
    exact absurd hfind (by simp [findIgnoringCase?])
  have hspace : ∀ piece ∈ Side.behind.within options.maxPredictedWords around,
      ∀ c ∈ piece, decide (c = ' ') = false := fun _ => Side.noSpace_of_mem_within
  simp only [hnone, phrase?_eq_phrase_behind_iff hquery]
  rw [← words_within_eq_iff hboundary]
  constructor
  · rintro ⟨_, ⟨hshown, rfl⟩, hwords⟩
    refine ⟨?_, hwords⟩
    rw [← hwords]
    exact (shown_iff_exists_mem_words within_behind_ne_nil hspace).mp hshown
  · rintro ⟨hword, hwords⟩
    rw [← hwords] at hword
    exact ⟨_, ⟨(shown_iff_exists_mem_words within_behind_ne_nil hspace).mpr hword, rfl⟩, hwords⟩

/-- A query that asks for up to so many words behind `select`. -/
def selectOptions (most : Nat) : SuggestionOptions where
  value := "select"
  predictive := true
  applyStopwords := false
  maxPredictedWords := most

/-- A match of the query at the beginning of a text. -/
def behindSelect (after : String) : Occurrence where
  before := []
  matched := "select".toList
  after := after.toList

/-- Two words behind `select`. -/
theorem phrase?_adds_words_iff_select :
    (selectOptions 2).applyStopwords = false ∧
      findIgnoringCase? (Html.plainText "select me now please") (trim (selectOptions 2).value) =
        some (behindSelect " me now please") ∧
      (behindSelect " me now please").after.head? = some ' ' ∧
      ((∃ added, phrase? (trim (selectOptions 2).value) 2
            (stopwordsFor (selectOptions 2) (Stopwords.ofList [])) (behindSelect " me now please") =
            some (Side.behind.phrase (trim (selectOptions 2).value) added) ∧
          words added =
            (words (String.ofList (behindSelect " me now please").after)).take 2) ↔
        (∃ word ∈ (words (String.ofList (behindSelect " me now please").after)).take 2,
            allBlank word = false) ∧
          ∀ n ∈ (spacesInFront (behindSelect " me now please").after).take 2, n ≤ 2) := by
  have hfind : findIgnoringCase? (Html.plainText "select me now please")
      (trim (selectOptions 2).value) = some (behindSelect " me now please") := by
    decide +kernel
  have hhead : (behindSelect " me now please").after.head? = some ' ' := by decide
  exact ⟨rfl, hfind, hhead, phrase?_adds_words_iff rfl (Stopwords.ofList [])
    (s := { value := "select me now please", label := "select me now please" }) hfind (.inr hhead)⟩

/-- A second space in front of the words takes up a piece: of two words that are
asked for one is left out, and if only one is asked for, it is. -/
theorem phrase?_leaves_word_out :
    findIgnoringCase? (Html.plainText "select  me now") (trim (selectOptions 2).value) =
        some (behindSelect "  me now") ∧
      (behindSelect "  me now").after.head? = some ' ' ∧ words "  me now" = ["me", "now"] ∧
      (∀ added, phrase? "select" 2 (stopwordsFor (selectOptions 2) (Stopwords.ofList []))
          (behindSelect "  me now") = some (Side.behind.phrase "select" added) →
        words added = ["me"]) ∧
      phrase? "select" 1 (stopwordsFor (selectOptions 1) (Stopwords.ofList []))
        (behindSelect "  me now") = none := by
  refine ⟨by decide +kernel, by decide, by decide +kernel, fun added h => ?_, by decide +kernel⟩
  obtain ⟨-, rfl⟩ := (phrase?_eq_phrase_behind_iff (by decide)).mp h
  decide +kernel

end SearchRelay.Suggestion
