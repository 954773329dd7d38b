import Mathlib.Data.List.Induction
import SearchRelay.Text.Split

/-!
# SearchRelay.Proofs.Text.Split

The pieces of a text that is put together from pieces.

1. `splitBy_append_cons` — at a separator the pieces of both sides follow each
   other;
2. `splitBy_flatMap` — pieces with a separator in front of each are found
   again, behind an empty one;
3. `splitBy_flatMap_append` — pieces with a separator behind each are found
   again, in front of an empty one;
4. `intercalate_splitBy`, `splitBy_intercalate` — pieces are taken apart and
   joined without loss.
-/

namespace SearchRelay.Text

variable {test : Char → Bool}

theorem splitBy_cons_of_pos {c : Char} (h : test c = true) (cs : List Char) :
    splitBy test (c :: cs) = [] :: splitBy test cs := by
  rw [splitBy, if_pos h]

/-- A character that separates nothing belongs to the first piece. -/
theorem splitBy_cons_of_neg {c : Char} (h : test c = false) {cs piece : List Char}
    {pieces : List (List Char)} (hcs : splitBy test cs = piece :: pieces) :
    splitBy test (c :: cs) = (c :: piece) :: pieces := by
  rw [splitBy, if_neg (by simp [h]), hcs]

/-- Without a separator there is one piece. -/
theorem splitBy_of_forall {piece : List Char} (h : ∀ c ∈ piece, test c = false) :
    splitBy test piece = [piece] := by
  induction piece with
  | nil => rfl
  | cons c piece ih =>
      obtain ⟨hc, hpiece⟩ := List.forall_mem_cons.mp h
      exact splitBy_cons_of_neg hc (ih hpiece)

/-- A text is split at a separator and around it. -/
theorem splitBy_append_cons {sep : Char} (h : test sep = true) (front rest : List Char) :
    splitBy test (front ++ sep :: rest) = splitBy test front ++ splitBy test rest := by
  induction front with
  | nil => exact splitBy_cons_of_pos h rest
  | cons c front ih =>
      rw [List.cons_append]
      by_cases hc : test c = true
      · rw [splitBy_cons_of_pos hc, splitBy_cons_of_pos hc, ih, List.cons_append]
      · rw [Bool.not_eq_true] at hc
        cases hfront : splitBy test front with
        | nil => exact absurd hfront (splitBy_ne_nil test front)
        | cons piece pieces =>
            rw [hfront, List.cons_append] at ih
            rw [splitBy_cons_of_neg hc ih, splitBy_cons_of_neg hc hfront, List.cons_append]

/-- Pieces with a separator in front of each. -/
theorem splitBy_flatMap {sep : Char} (h : test sep = true) {pieces : List (List Char)}
    (hpieces : ∀ piece ∈ pieces, ∀ c ∈ piece, test c = false) :
    splitBy test (pieces.flatMap (sep :: ·)) = [] :: pieces := by
  induction pieces using List.reverseRecOn with
  | nil => rfl
  | append_singleton pieces piece ih =>
      have hfront : ∀ p ∈ pieces, ∀ c ∈ p, test c = false := fun p hp =>
        hpieces p (List.mem_append_left _ hp)
      rw [List.flatMap_append, List.flatMap_singleton, splitBy_append_cons h, ih hfront,
        splitBy_of_forall (hpieces piece (by simp)), List.cons_append]

/-- Pieces with a separator behind each. -/
theorem splitBy_flatMap_append {sep : Char} (h : test sep = true) {pieces : List (List Char)}
    (hpieces : ∀ piece ∈ pieces, ∀ c ∈ piece, test c = false) :
    splitBy test (pieces.flatMap (· ++ [sep])) = pieces ++ [[]] := by
  induction pieces with
  | nil => rfl
  | cons piece pieces ih =>
      obtain ⟨hpiece, hpieces⟩ := List.forall_mem_cons.mp hpieces
      rw [List.flatMap_cons, List.append_assoc, List.singleton_append, splitBy_append_cons h,
        splitBy_of_forall hpiece, ih hpieces]
      rfl

/-- A piece is a part of the text. -/
theorem sublist_of_mem_splitBy {cs piece : List Char} (h : piece ∈ splitBy test cs) :
    piece.Sublist cs := by
  induction cs generalizing piece with
  | nil =>
      rw [splitBy, List.mem_singleton] at h
      exact h ▸ List.Sublist.refl _
  | cons c cs ih =>
      cases hcs : splitBy test cs with
      | nil => exact absurd hcs (splitBy_ne_nil test cs)
      | cons first pieces =>
          by_cases hc : test c = true
          · rw [splitBy_cons_of_pos hc, List.mem_cons] at h
            rcases h with rfl | h
            · exact List.nil_sublist _
            · exact (ih h).cons c
          · rw [Bool.not_eq_true] at hc
            rw [splitBy_cons_of_neg hc hcs, List.mem_cons] at h
            rcases h with rfl | h
            · exact (ih (by simp [hcs])).cons_cons c
            · exact (ih (by simp [hcs, h])).cons c

/-! ## joined pieces -/

theorem intercalate_append {α : Type} {sep : List α} {xs ys : List (List α)} (hxs : xs ≠ [])
    (hys : ys ≠ []) :
    sep.intercalate (xs ++ ys) = sep.intercalate xs ++ (sep ++ sep.intercalate ys) := by
  induction xs with
  | nil => exact absurd rfl hxs
  | cons x xs ih =>
      have hne : xs ++ ys ≠ [] := List.append_ne_nil_of_right_ne_nil xs hys
      rw [List.cons_append, List.intercalate_cons_of_ne_nil hne]
      cases xs with
      | nil => simp
      | cons y xs =>
          rw [ih (List.cons_ne_nil _ _), List.intercalate_cons_of_ne_nil (List.cons_ne_nil _ _)]
          simp

/-- What is joined comes from the separator or from a piece. -/
theorem mem_intercalate {α : Type} {sep : List α} {xs : List (List α)} {a : α}
    (h : a ∈ List.intercalate sep xs) : a ∈ sep ∨ ∃ x ∈ xs, a ∈ x := by
  induction xs with
  | nil => contradiction
  | cons x xs ih =>
      cases xs with
      | nil => exact .inr ⟨x, by simp, by simpa [List.intercalate] using h⟩
      | cons y xs =>
          rw [List.intercalate, List.intersperse_cons_cons, List.flatten_cons, List.flatten_cons,
            List.mem_append, List.mem_append] at h
          rcases h with h | h | h
          · exact .inr ⟨x, by simp, h⟩
          · exact .inl h
          · rcases ih h with h | ⟨z, hz, h⟩
            · exact .inl h
            · exact .inr ⟨z, by simp [List.mem_cons.mp hz], h⟩

/-- Joined again, the pieces give the text. -/
theorem intercalate_splitBy (sep : Char) (cs : List Char) :
    List.intercalate [sep] (splitBy (· = sep) cs) = cs := by
  induction cs with
  | nil => rfl
  | cons c cs ih =>
      cases hcs : splitBy (· = sep) cs with
      | nil => exact absurd hcs (splitBy_ne_nil _ cs)
      | cons piece pieces =>
          rw [hcs] at ih
          by_cases hc : c = sep
          · rw [splitBy_cons_of_pos (by simpa using hc), hcs,
              List.intercalate_cons_of_ne_nil (List.cons_ne_nil _ _), ih, hc]
            rfl
          · rw [splitBy_cons_of_neg (by simpa using hc) hcs]
            cases pieces with
            | nil => simpa using ih
            | cons next pieces => simpa [List.intercalate_cons_of_ne_nil] using ih

/-- Pieces without a separator are found again in the text that joins them. -/
theorem splitBy_intercalate {sep : Char} {pieces : List (List Char)} (hne : pieces ≠ [])
    (hpieces : ∀ piece ∈ pieces, ∀ c ∈ piece, decide (c = sep) = false) :
    splitBy (· = sep) (List.intercalate [sep] pieces) = pieces := by
  induction pieces with
  | nil => exact absurd rfl hne
  | cons piece pieces ih =>
      obtain ⟨hpiece, hpieces⟩ := List.forall_mem_cons.mp hpieces
      cases pieces with
      | nil => simpa using splitBy_of_forall hpiece
      | cons next pieces =>
          rw [List.intercalate_cons_of_ne_nil (List.cons_ne_nil _ _), List.append_assoc,
            List.singleton_append, splitBy_append_cons (by simp), splitBy_of_forall hpiece,
            ih (List.cons_ne_nil _ _) hpieces, List.singleton_append]

/-- There is one piece more than separators. -/
theorem length_splitBy (test : Char → Bool) (cs : List Char) :
    (splitBy test cs).length = cs.countP test + 1 := by
  induction cs with
  | nil => rfl
  | cons c cs ih =>
      cases hcs : splitBy test cs with
      | nil => exact absurd hcs (splitBy_ne_nil test cs)
      | cons piece pieces =>
          rw [hcs] at ih
          by_cases hc : test c = true
          · rw [splitBy_cons_of_pos hc, hcs, List.length_cons, ih, List.countP_cons_of_pos hc]
          · rw [Bool.not_eq_true] at hc
            rw [splitBy_cons_of_neg hc hcs, List.countP_cons_of_neg (by simp [hc])]
            exact ih

end SearchRelay.Text
