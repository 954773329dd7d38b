import Mathlib.Data.List.Forall2
import SearchRelay.Text.Fold
import SearchRelay.Text.Search

/-!
# SearchRelay.Proofs.Text.Search

The first occurrence of a text in another one.

1. `startsIgnoringCase_iff` — a text begins with a needle if its first characters
   are those of the needle, one by one, up to their case.
2. `findIgnoringCase?_eq_some_iff` — the occurrence that is found is the first
   one, and nothing else is.
3. `FirstMatch.onBoundaries` — it begins and ends between two characters.
4. `contains_iff` — that a text occurs at all, its case given, is decided by a scan.
-/

namespace SearchRelay.Text

/-! ## beginnings -/

/-- A text begins with a needle, whatever the case. -/
def Begins (needle cs : List Char) : Prop :=
  ∃ matched rest, cs = matched ++ rest ∧ List.Forall₂ (fun n c => sameLower n c) needle matched

/-- A text starts with another one, ignoring case, if the characters agree one by one. -/
theorem startsIgnoringCase_iff (needle cs : List Char) :
    startsIgnoringCase needle cs = true ↔ Begins needle cs := by
  induction needle generalizing cs with
  | nil => exact iff_of_true rfl ⟨[], cs, rfl, .nil⟩
  | cons n needle ih =>
      cases cs with
      | nil =>
          refine iff_of_false (by simp [startsIgnoringCase]) ?_
          rintro ⟨matched, rest, htext, hsame⟩
          cases hsame
          contradiction
      | cons c cs =>
          rw [startsIgnoringCase, Bool.and_eq_true, ih]
          constructor
          · rintro ⟨hc, matched, rest, rfl, hsame⟩
            exact ⟨c :: matched, rest, rfl, .cons hc hsame⟩
          · rintro ⟨matched, rest, htext, hsame⟩
            cases hsame with
            | cons hc hsame =>
                rw [List.cons_append] at htext
                cases htext
                exact ⟨hc, _, rest, rfl, hsame⟩

/-! ## first occurrences -/

/-- The place of the first occurrence: the text begins with the needle there
and nowhere before. -/
theorem occurrence?_eq_some_iff {needle : List Char} (hneedle : needle ≠ []) {cs : List Char}
    {i : Nat} :
    occurrence? needle cs = some i ↔
      Begins needle (cs.drop i) ∧ ∀ j < i, ¬ Begins needle (cs.drop j) := by
  induction cs generalizing i with
  | nil =>
      have hnone : ¬ Begins needle [] := by
        rw [← startsIgnoringCase_iff]
        cases needle with
        | nil => exact absurd rfl hneedle
        | cons n needle => simp [startsIgnoringCase]
      simp [occurrence?, hnone]
  | cons c cs ih =>
      rw [occurrence?]
      split
      · next hstarts =>
        have hbegins := (startsIgnoringCase_iff needle (c :: cs)).mp hstarts
        constructor
        · rintro h
          cases h
          exact ⟨hbegins, fun j hj => absurd hj (Nat.not_lt_zero j)⟩
        · rintro ⟨_, hfirst⟩
          cases i with
          | zero => rfl
          | succ i => exact absurd hbegins (hfirst 0 (Nat.succ_pos i))
      · next hstarts =>
        have hnot : ¬ Begins needle (c :: cs) :=
          fun hbegins => hstarts ((startsIgnoringCase_iff needle (c :: cs)).mpr hbegins)
        rw [Option.map_eq_some_iff]
        constructor
        · rintro ⟨i, hi, rfl⟩
          obtain ⟨hbegins, hfirst⟩ := ih.mp hi
          refine ⟨hbegins, fun j hj => ?_⟩
          cases j with
          | zero => exact hnot
          | succ j => exact hfirst j (Nat.lt_of_succ_lt_succ hj)
        · rintro ⟨hbegins, hfirst⟩
          cases i with
          | zero => exact absurd hbegins hnot
          | succ i =>
              exact ⟨i, ih.mpr ⟨hbegins, fun j hj => hfirst (j + 1) (Nat.succ_lt_succ hj)⟩, rfl⟩

/-- `o` is the first place where the needle stands, whatever the case. -/
structure FirstMatch (haystack needle : String) (o : Occurrence) : Prop where
  text : haystack.toList = o.before ++ (o.matched ++ o.after)
  same : List.Forall₂ (fun n c => sameLower n c) needle.toList o.matched
  first : ∀ i < o.before.length, ¬ Begins needle.toList (haystack.toList.drop i)

/-- A match is as long as what is searched for. -/
theorem FirstMatch.length_matched {haystack needle : String} {o : Occurrence}
    (h : FirstMatch haystack needle o) : o.matched.length = needle.toList.length :=
  h.same.length_eq.symm

/-- The first occurrence is found, and nothing else is. -/
theorem findIgnoringCase?_eq_some_iff {haystack needle : String} (hneedle : needle.toList ≠ [])
    {o : Occurrence} :
    findIgnoringCase? haystack needle = some o ↔ FirstMatch haystack needle o := by
  rw [findIgnoringCase?, if_neg (by simpa using hneedle), Option.map_eq_some_iff]
  constructor
  · rintro ⟨i, hi, rfl⟩
    obtain ⟨⟨matched, rest, hdrop, hsame⟩, hfirst⟩ := (occurrence?_eq_some_iff hneedle).mp hi
    have htake : (haystack.toList.drop i).take needle.toList.length = matched := by
      rw [hdrop, hsame.length_eq, List.take_left]
    refine ⟨?_, htake ▸ hsame, fun j hj => hfirst j ?_⟩
    · rw [List.take_append_drop, List.take_append_drop]
    · exact Nat.lt_of_lt_of_le hj (List.length_take_le _ _)
  · intro h
    have hdrop : haystack.toList.drop o.before.length = o.matched ++ o.after := by
      rw [h.text, List.drop_left]
    refine ⟨o.before.length, (occurrence?_eq_some_iff hneedle).mpr ⟨?_, h.first⟩, ?_⟩
    · exact ⟨o.matched, o.after, hdrop, h.same⟩
    · rw [hdrop, ← h.length_matched, List.take_left, List.drop_left, h.text, List.take_left]

/-! ## bytes -/

theorem byteSize_eq (cs : List Char) : byteSize cs = (String.ofList cs).utf8ByteSize := by
  induction cs with
  | nil => rfl
  | cons c cs ih =>
      rw [byteSize] at ih
      rw [byteSize, List.foldr_cons, ih, String.ofList_cons, String.utf8ByteSize_append,
        String.utf8ByteSize_singleton]

/-- The byte offsets of an occurrence cut a text between characters, where its
parts begin and end. -/
structure OnBoundaries (haystack : String) (o : Occurrence) : Prop where
  text : haystack = String.ofList o.before ++ (String.ofList o.matched ++ String.ofList o.after)
  start : o.byteRange.1 = (String.ofList o.before).utf8ByteSize
  stop : o.byteRange.2 = (String.ofList o.before ++ String.ofList o.matched).utf8ByteSize
  start_isValid : String.Pos.Raw.IsValid haystack ⟨o.byteRange.1⟩
  stop_isValid : String.Pos.Raw.IsValid haystack ⟨o.byteRange.2⟩

/-- A match begins and ends between characters. -/
theorem FirstMatch.onBoundaries {haystack needle : String} {o : Occurrence}
    (h : FirstMatch haystack needle o) : OnBoundaries haystack o := by
  have htext : haystack =
      String.ofList o.before ++ (String.ofList o.matched ++ String.ofList o.after) := by
    rw [← String.ofList_append, ← String.ofList_append, ← h.text, String.ofList_toList]
  have hstart : o.byteRange.1 = (String.ofList o.before).utf8ByteSize := byteSize_eq o.before
  have hstop : o.byteRange.2 =
      (String.ofList o.before ++ String.ofList o.matched).utf8ByteSize := by
    rw [Occurrence.byteRange, byteSize_eq, byteSize_eq, String.utf8ByteSize_append]
  refine ⟨htext, hstart, hstop, ?_, ?_⟩
  · exact String.Pos.Raw.isValid_iff_exists_append.mpr ⟨_, _, htext, by rw [hstart]; rfl⟩
  · refine String.Pos.Raw.isValid_iff_exists_append.mpr
      ⟨_, String.ofList o.after, htext.trans String.append_assoc.symm, ?_⟩
    rw [hstop]
    rfl

/-! ## parts -/

/-- What occurs is an infix. -/
theorem occursIn_iff {part cs : List Char} : occursIn part cs = true ↔ part <:+: cs := by
  induction cs with
  | nil => rw [occursIn, List.isEmpty_iff, List.infix_nil]
  | cons c cs ih =>
      rw [occursIn, Bool.or_eq_true, List.isPrefixOf_iff_prefix, ih, List.infix_cons_iff]

/-- A text contains its infixes. -/
theorem contains_iff {text part : String} :
    contains text part = true ↔ part.toList <:+: text.toList :=
  occursIn_iff

end SearchRelay.Text
