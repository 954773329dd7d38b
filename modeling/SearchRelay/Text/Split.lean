/-!
# SearchRelay.Text.Split

The pieces of a text between characters that separate them.  There is one
piece more than there are separators, so a piece may be empty.
-/

namespace SearchRelay.Text

/-- The pieces of a text between the characters that satisfy a test. -/
def splitBy (test : Char → Bool) : List Char → List (List Char)
  | [] => [[]]
  | c :: cs =>
    if test c then [] :: splitBy test cs
    else match splitBy test cs with
      | [] => [[c]]
      | piece :: pieces => (c :: piece) :: pieces

/-- The pieces that are not empty. -/
def wordsBy (test : Char → Bool) (cs : List Char) : List (List Char) :=
  (splitBy test cs).filter fun piece => !piece.isEmpty

theorem splitBy_ne_nil (test : Char → Bool) (cs : List Char) : splitBy test cs ≠ [] := by
  cases cs with
  | nil => simp [splitBy]
  | cons c cs =>
    simp only [splitBy]
    split
    · simp
    · split <;> simp

/-- No piece holds a separator. -/
theorem splitBy_forall (test : Char → Bool) (cs : List Char) :
    ∀ piece ∈ splitBy test cs, ∀ c ∈ piece, test c = false := by
  induction cs with
  | nil => simp [splitBy]
  | cons c cs ih =>
    simp only [splitBy]
    split
    · simpa using ih
    · next hc =>
      split
      · next h => exact absurd h (splitBy_ne_nil test cs)
      · next piece pieces h =>
        rw [h] at ih
        intro p hp d hd
        rcases List.mem_cons.1 hp with rfl | hp
        · rcases List.mem_cons.1 hd with rfl | hd
          · simpa using hc
          · exact ih piece (by simp) d hd
        · exact ih p (by simp [hp]) d hd

end SearchRelay.Text
