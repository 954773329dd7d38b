import SearchRelay.Text.Blank
import SearchRelay.Text.Lowercase

/-!
# SearchRelay.Proofs.Text.Lowercase

Lower case of texts that are put together.

Each character has a lower-case form of its own, except that a sigma may be
final, which what stands around it decides.

1. `lowerFrom_append_of_neutral`, `lowerFrom_of_neutral` — a character that is
   neither cased nor ignorable keeps what stands before it and what stands
   behind it apart;
2. `lowerFrom_append_tag` — a tag in lower case therefore stays as it is, and
   the texts around it are put into lower case by themselves;
3. `length_lowerFrom`, `mem_lowerFrom_iff` — up to the two forms of the sigma
   the result does not depend on the surroundings;
4. `allBlank_of_lowercase` — the lower-case form of what is not blank is not
   blank either.
-/

namespace SearchRelay.Text.Lowercase

/-- A character that ends the search for a cased one, without being cased. -/
def Neutral (c : Char) : Prop := isCased c = false ∧ isIgnorable c = false

/-! ## surroundings -/

/-- The search for a cased character ends at a neutral one. -/
theorem meetsCased_append_neutral {c : Char} (hc : Neutral c) (cs rest : List Char) :
    meetsCased (cs ++ c :: rest) = meetsCased cs := by
  induction cs with
  | nil => simp [meetsCased, List.dropWhile, hc.1, hc.2]
  | cons d cs ih =>
      cases hd : isIgnorable d with
      | true =>
          rw [List.cons_append]
          simpa only [meetsCased, List.dropWhile_cons, hd, if_true] using ih
      | false => simp [meetsCased, hd]

/-- What stands before a neutral character does not matter behind it. -/
theorem lowerFrom_of_neutral {c : Char} (hc : Neutral c) (near far cs : List Char) :
    lowerFrom (near ++ c :: far) cs = lowerFrom near cs := by
  induction cs generalizing near with
  | nil => rfl
  | cons d cs ih =>
      have hmore := ih (d :: near)
      rw [List.cons_append] at hmore
      rw [lowerFrom, lowerFrom, meetsCased_append_neutral hc, hmore]

/-- What stands behind a neutral character does not matter before it. -/
theorem lowerFrom_append_of_neutral {c : Char} (hc : Neutral c) (before cs rest : List Char) :
    lowerFrom before (cs ++ c :: rest) =
      lowerFrom before cs ++ lowerFrom (cs.reverse ++ before) (c :: rest) := by
  induction cs generalizing before with
  | nil => rfl
  | cons d cs ih =>
      rw [List.cons_append, lowerFrom, lowerFrom, meetsCased_append_neutral hc, ih,
        List.reverse_cons, List.append_assoc, List.append_assoc, List.singleton_append]

/-- Without a sigma each character stands for itself. -/
theorem lowerFrom_append_of_notMem {cs : List Char} (hcs : sigma ∉ cs) (before rest : List Char) :
    lowerFrom before (cs ++ rest) =
      cs.flatMap lowerChar ++ lowerFrom (cs.reverse ++ before) rest := by
  induction cs generalizing before with
  | nil => rfl
  | cons d cs ih =>
      have hd : d ≠ sigma := fun hd => hcs (by simp [hd])
      have hmore : sigma ∉ cs := fun hmem => hcs (List.mem_cons_of_mem _ hmem)
      rw [List.cons_append, lowerFrom, if_neg fun h => hd h.1, ih hmore, List.flatMap_cons,
        List.reverse_cons, List.append_assoc, List.append_assoc, List.singleton_append]

/-- A tag in lower case stays, and what stands around it is kept apart. -/
theorem lowerFrom_append_tag {c d : Char} (hc : Neutral c) (hd : Neutral d) {tag inner : List Char}
    (htag : tag = c :: (inner ++ [d])) (hsigma : sigma ∉ tag)
    (hlower : tag.flatMap lowerChar = tag) (before cs rest : List Char) :
    lowerFrom before (cs ++ (tag ++ rest)) = lowerFrom before cs ++ (tag ++ lowerFrom [] rest) := by
  have hreverse : tag.reverse ++ (cs.reverse ++ before) =
      [] ++ d :: (inner.reverse ++ [c] ++ (cs.reverse ++ before)) := by
    simp [htag]
  have hfront : lowerFrom before (cs ++ (tag ++ rest)) =
      lowerFrom before cs ++ lowerFrom (cs.reverse ++ before) (tag ++ rest) := by
    rw [htag]
    exact lowerFrom_append_of_neutral hc before cs _
  rw [hfront, lowerFrom_append_of_notMem hsigma, hlower, hreverse, lowerFrom_of_neutral hd]

/-! ## the two forms of the sigma -/

/- Lowercasing is character by character but for the capital sigma, which depends on the
letters around it. It is one character in either form. -/

/-- The sigma is lowercased to the form inside a word. -/
theorem lowerChar_sigma : lowerChar sigma = ['\u03c3'] := by decide

/-- A text is as long as its characters are when lowercased one by one. -/
theorem length_lowerFrom (before cs : List Char) :
    (lowerFrom before cs).length = (cs.flatMap lowerChar).length := by
  induction cs generalizing before with
  | nil => rfl
  | cons d cs ih =>
      rw [lowerFrom, List.flatMap_cons, List.length_append, List.length_append, ih]
      split
      · next h => rw [h.1, lowerChar_sigma]; rfl
      · rfl

/-- Apart from the sigma, characters are lowercased one by one. -/
theorem mem_lowerFrom_iff {c : Char} (hsmall : c ≠ '\u03c3') (hfinal : c ≠ finalSigma)
    (before cs : List Char) : c ∈ lowerFrom before cs ↔ c ∈ cs.flatMap lowerChar := by
  induction cs generalizing before with
  | nil => simp [lowerFrom]
  | cons d cs ih =>
      rw [lowerFrom, List.flatMap_cons, List.mem_append, List.mem_append, ih]
      split
      · next h => rw [h.1, lowerChar_sigma]; simp [hsmall, hfinal]
      · rfl

/-! ## blanks -/

/- A character that is not blank must not become blank in lower case. The letters that
change are listed in runs with an offset each, so it is enough that no run is moved onto
a range of blanks. -/

/-- A code point has itself for its lower-case form, or one that its run gives. -/
theorem lowerIn_eq_or_exists (n : Nat) (table : List (Nat × Nat × Nat × Int)) :
    lowerIn n table = n ∨ ∃ run ∈ table, run.1 ≤ n ∧ n ≤ run.2.1 ∧
      lowerIn n table = (n + run.2.2.2).toNat := by
  induction table with
  | nil => exact .inl rfl
  | cons run table ih =>
      obtain ⟨first, last, step, distance⟩ := run
      rw [lowerIn]
      split
      · exact .inl rfl
      · next hfirst =>
        split
        · next hrun =>
          exact .inr ⟨_, List.mem_cons_self, Nat.le_of_not_lt hfirst, hrun.1, rfl⟩
        · rcases ih with hsame | ⟨run, hrun, hfound⟩
          · exact .inl hsame
          · exact .inr ⟨run, List.mem_cons_of_mem _ hrun, hfound⟩

/-- A point of ranges lies in one of them. -/
theorem exists_of_hasPoint {point : Nat} {ranges : Ranges} (h : ranges.hasPoint point = true) :
    ∃ range ∈ ranges, range.1 ≤ point ∧ point ≤ range.2 := by
  induction ranges with
  | nil => contradiction
  | cons range ranges ih =>
      obtain ⟨first, last⟩ := range
      rw [Ranges.hasPoint] at h
      split at h
      · contradiction
      · next hfirst =>
        rcases Bool.or_eq_true_iff.mp h with hlast | hrest
        · exact ⟨_, List.mem_cons_self, Nat.le_of_not_lt hfirst, of_decide_eq_true hlast⟩
        · obtain ⟨range, hrange, hpoint⟩ := ih hrest
          exact ⟨range, List.mem_cons_of_mem _ hrange, hpoint⟩

/-- The lower-case forms of a run lie before a range or behind it. -/
def Misses (run : Nat × Nat × Nat × Int) (range : Nat × Nat) : Prop :=
  (run.2.1 + run.2.2.2 : Int) < range.1 ∨ (range.2 : Int) < run.1 + run.2.2.2

instance (run : Nat × Nat × Nat × Int) (range : Nat × Nat) : Decidable (Misses run range) :=
  inferInstanceAs (Decidable (_ ∨ _))

/-- No run of letters is lowercased into a range of blanks. -/
theorem runs_miss_blanks : ∀ run ∈ runs, ∀ range ∈ blankRanges, Misses run range := by
  decide +kernel

/-- A code point outside the ranges of blanks is no blank. -/
theorem isBlank_ofNat {n : Nat} (h : blankRanges.hasPoint n = false) :
    isBlank (Char.ofNat n) = false := by
  by_cases hvalid : n.isValidChar
  · rw [Char.ofNat, dif_pos hvalid]
    exact h
  · rw [Char.ofNat, dif_neg hvalid]
    decide

/-- A character that is not blank has a lower-case form that is not blank. -/
theorem exists_not_blank_lowerChar {c : Char} (hc : isBlank c = false) :
    ∃ d ∈ lowerChar c, isBlank d = false := by
  rw [lowerChar]
  split
  · exact ⟨'i', List.mem_cons_self, by decide⟩
  · refine ⟨_, List.mem_cons_self, isBlank_ofNat ?_⟩
    rcases lowerIn_eq_or_exists c.toNat runs with hsame | ⟨run, hrun, hfirst, hlast, hform⟩
    · rw [hsame]
      exact hc
    · refine Bool.eq_false_iff.mpr fun hpoint => ?_
      obtain ⟨range, hrange, hlow, hhigh⟩ := exists_of_hasPoint hpoint
      have hmisses := runs_miss_blanks run hrun range hrange
      rw [hform] at hlow hhigh
      unfold Misses at hmisses
      have hpositive : ∀ range ∈ blankRanges, 0 < range.1 := by decide
      have := hpositive range hrange
      omega

/-- A character that is no blank leaves one behind. -/
theorem exists_not_blank_lowerFrom {c : Char} (hc : isBlank c = false) {cs : List Char}
    (hmem : c ∈ cs) (before : List Char) : ∃ d ∈ lowerFrom before cs, isBlank d = false := by
  induction cs generalizing before with
  | nil => contradiction
  | cons first cs ih =>
      rw [lowerFrom]
      rcases List.mem_cons.mp hmem with rfl | hmem
      · split
        · exact ⟨finalSigma, by simp, by decide⟩
        · obtain ⟨d, hd, hblank⟩ := exists_not_blank_lowerChar hc
          exact ⟨d, List.mem_append_left _ hd, hblank⟩
      · obtain ⟨d, hd, hblank⟩ := ih hmem (first :: before)
        exact ⟨d, List.mem_append_right _ hd, hblank⟩

/-- Only a blank text is blank in lower case. -/
theorem allBlank_of_lowercase {text : String} (h : allBlank (lowercase text) = true) :
    allBlank text = true := by
  rw [allBlank, List.all_eq_true] at h ⊢
  intro c hc
  refine eq_true_of_ne_false fun hblank => ?_
  obtain ⟨d, hd, hdblank⟩ := exists_not_blank_lowerFrom hblank hc []
  have hform : d ∈ (lowercase text).toList := by
    rwa [lowercase, String.toList_ofList]
  rw [h d hform] at hdblank
  contradiction

end SearchRelay.Text.Lowercase
