import Mathlib.Data.List.DropRight
import SearchRelay.Text.Blank

/-!
# SearchRelay.Proofs.Text.Blank

Texts without the blanks at both ends.

1. `trim_trim` — there are no more blanks to take away;
2. `toList_trim_eq_nil_iff` — nothing is left if and only if all is blank.
-/

namespace SearchRelay.Text

/-- Blanks are dropped in front and behind. -/
theorem trimChars_eq_rdropWhile (cs : List Char) :
    trimChars cs = (cs.dropWhile isBlank).rdropWhile isBlank := rfl

/-- What is left does not begin with a blank. -/
theorem dropWhile_trimChars (cs : List Char) :
    (trimChars cs).dropWhile isBlank = trimChars cs := by
  rw [trimChars_eq_rdropWhile]
  obtain ⟨blanks, hblanks⟩ := List.rdropWhile_prefix isBlank (cs.dropWhile isBlank)
  cases hleft : (cs.dropWhile isBlank).rdropWhile isBlank with
  | nil => rfl
  | cons c rest =>
      rw [hleft, List.cons_append] at hblanks
      have hfirst : isBlank c = false := by
        have hhead := List.head?_dropWhile_not isBlank cs
        rw [← hblanks] at hhead
        simpa using hhead
      rw [List.dropWhile_cons, hfirst]
      rfl

theorem trimChars_trimChars (cs : List Char) : trimChars (trimChars cs) = trimChars cs := by
  rw [trimChars_eq_rdropWhile (trimChars cs), dropWhile_trimChars, trimChars_eq_rdropWhile cs,
    List.rdropWhile_idempotent]

theorem trim_trim (text : String) : trim (trim text) = trim text := by
  rw [trim, trim, String.toList_ofList, trimChars_trimChars]

/-- Nothing is left if and only if all is blank. -/
theorem trimChars_eq_nil_iff (cs : List Char) : trimChars cs = [] ↔ ∀ c ∈ cs, isBlank c := by
  rw [trimChars_eq_rdropWhile, List.rdropWhile_eq_nil_iff, ← List.dropWhile_eq_nil_iff,
    List.dropWhile_idempotent, List.dropWhile_eq_nil_iff]

theorem toList_trim_eq_nil_iff (text : String) :
    (trim text).toList = [] ↔ allBlank text = true := by
  rw [trim, String.toList_ofList, trimChars_eq_nil_iff, allBlank, List.all_eq_true]

end SearchRelay.Text
