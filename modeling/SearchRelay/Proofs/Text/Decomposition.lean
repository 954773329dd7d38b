import Mathlib.Data.List.Chain
import Mathlib.Data.Nat.Bitwise
import SearchRelay.Text.Canonical
import SearchRelay.Text.Mark

/-!
# SearchRelay.Proofs.Text.Decomposition

What the tables of decompositions, classes and composites say of each other.

1. `decomposeChar_of_mem` — the parts of a character do not decompose further, and
   none of them is a space, which comes from itself only.
2. `combiningClass_of_isMark` — only marks have a combining class.
3. `decomposeChar_of_composePair?` — a composite decomposes into the parts of the two
   characters it is made of.

The tables are gone through once, with sets of code points as the bits of numbers
(`bitsOf`), since a search through a table for every entry of a table takes long.
-/

namespace SearchRelay.Text.Canonical

/-! ## sets of code points -/

/- The tables have many rows, and to look up each row in another table would take too
long. A set of code points is therefore a number, with one bit for each of them. -/

/-- A set of code points as the bits of a number. -/
def bitsOf : List Nat → Nat
  | [] => 0
  | n :: ns => 2 ^ n ||| bitsOf ns

/-- The bits that are set are the listed ones. -/
theorem testBit_bitsOf_iff {points : List Nat} {n : Nat} :
    (bitsOf points).testBit n = true ↔ n ∈ points := by
  induction points with
  | nil => simp [bitsOf]
  | cons m points ih =>
      rw [bitsOf, Nat.testBit_or, Bool.or_eq_true, ih, Nat.testBit_two_pow, decide_eq_true_eq,
        List.mem_cons, eq_comm]

theorem testBit_bitsOf_eq_false_iff {points : List Nat} {n : Nat} :
    (bitsOf points).testBit n = false ↔ n ∉ points := by
  rw [← testBit_bitsOf_iff, Bool.not_eq_true]

/-- The code points of ranges. -/
def pointsOf (ranges : Ranges) : List Nat :=
  ranges.flatMap fun range => List.range' range.1 (range.2 + 1 - range.1)

/-- The listed points are those in the ranges. -/
theorem mem_pointsOf_iff {ranges : Ranges} {n : Nat} :
    n ∈ pointsOf ranges ↔ ∃ range ∈ ranges, range.1 ≤ n ∧ n ≤ range.2 := by
  simp only [pointsOf, List.mem_flatMap, List.mem_range'_1]
  refine exists_congr fun range => and_congr_right fun _ => ?_
  omega

def markBits : Nat := bitsOf (pointsOf markRanges)

/-- The code points with a canonical mapping. -/
def mappedBits : Nat := bitsOf (composites.map (·.1) ++ replacements.map (·.1))

/-- The composites that nest at least so deep in their first parts. -/
def nestedBits : (depth : Nat) → Nat
  | 0 => bitsOf (composites.map (·.1))
  | depth + 1 =>
    bitsOf ((composites.filter fun row => (nestedBits depth).testBit row.2.1).map (·.1))

/-- The first part of a composite nests less deep than the composite. -/
theorem testBit_nestedBits_first {depth n a b : Nat} (hrow : (n, a, b) ∈ composites)
    (h : (nestedBits (depth + 1)).testBit n = false) : (nestedBits depth).testBit a = false := by
  rw [← Bool.not_eq_true]
  intro hnested
  refine testBit_bitsOf_eq_false_iff.mp h (List.mem_map.mpr ⟨(n, a, b), ?_, rfl⟩)
  exact List.mem_filter.mpr ⟨hrow, hnested⟩

/-! ## the tables -/

/- Each fact about the rows of a table is decided once, for all rows. Syllables are
decomposed by arithmetic, so the code points of the tables should be none. -/

theorem mem_of_rowIn? {α : Type} {n : Nat} {row : α} {rows : List (Nat × α)}
    (h : rowIn? n rows = some row) : (n, row) ∈ rows := by
  induction rows with
  | nil => contradiction
  | cons first rows ih =>
      obtain ⟨point, other⟩ := first
      rw [rowIn?] at h
      split at h
      · contradiction
      · split at h
        · next heq =>
          cases h
          rw [heq]
          exact List.mem_cons_self
        · exact List.mem_cons_of_mem _ (ih h)

theorem mem_of_wholeIn? {n a b : Nat} {rows : List (Nat × Nat × Nat)}
    (h : wholeIn? a b rows = some n) : (n, a, b) ∈ rows := by
  induction rows with
  | nil => contradiction
  | cons row rows ih =>
      obtain ⟨whole, x, y⟩ := row
      rw [wholeIn?] at h
      split at h
      · next heq =>
        cases h
        rw [heq.1, heq.2]
        exact List.mem_cons_self
      · exact List.mem_cons_of_mem _ (ih h)

/-- In an increasing table the search finds every row. -/
theorem rowIn?_of_mem {α : Type} {n : Nat} {row : α} {rows : List (Nat × α)}
    (hrows : (rows.map (·.1)).Pairwise (· < ·)) (h : (n, row) ∈ rows) :
    rowIn? n rows = some row := by
  induction rows with
  | nil => contradiction
  | cons first rows ih =>
      obtain ⟨point, other⟩ := first
      obtain ⟨hfirst, hrest⟩ := List.pairwise_cons.mp hrows
      rw [rowIn?]
      rcases List.mem_cons.mp h with heq | hmem
      · cases heq
        rw [if_neg (Nat.lt_irrefl n), if_pos rfl]
      · have hless : point < n := hfirst n (List.mem_map.mpr ⟨_, hmem, rfl⟩)
        rw [if_neg (by omega), if_neg (by omega), ih hrest hmem]

/-- In increasing ranges the search finds every range. -/
theorem hasPoint_of_mem {n : Nat} {ranges : Ranges}
    (hranges : (ranges.map (·.1)).Pairwise (· < ·)) {range : Nat × Nat} (hrange : range ∈ ranges)
    (hfirst : range.1 ≤ n) (hlast : n ≤ range.2) : ranges.hasPoint n = true := by
  induction ranges with
  | nil => contradiction
  | cons head ranges ih =>
      obtain ⟨first, last⟩ := head
      obtain ⟨hless, hrest⟩ := List.pairwise_cons.mp hranges
      rw [Ranges.hasPoint]
      rcases List.mem_cons.mp hrange with rfl | hmem
      · rw [if_neg (Nat.not_lt.mpr hfirst), decide_eq_true hlast, Bool.true_or]
      · have hbelow : first < range.1 := hless _ (List.mem_map_of_mem hmem)
        rw [if_neg (by omega), ih hrest hmem, Bool.or_true]

/-- A code point with a class lies in one of the ranges. -/
theorem exists_of_classIn {n : Nat} {rows : List (Nat × Nat × Nat)} (h : classIn n rows ≠ 0) :
    ∃ row ∈ rows, row.1 ≤ n ∧ n ≤ row.2.1 := by
  induction rows with
  | nil => contradiction
  | cons row rows ih =>
      obtain ⟨first, last, k⟩ := row
      rw [classIn] at h
      split at h
      · contradiction
      · next hfirst =>
        split at h
        · next hlast => exact ⟨_, List.mem_cons_self, Nat.not_lt.mp hfirst, hlast⟩
        · obtain ⟨row, hrow, hbounds⟩ := ih h
          exact ⟨row, List.mem_cons_of_mem _ hrow, hbounds⟩

/-- A code point that is neither a syllable nor the space. -/
def Ordinary (n : Nat) : Prop := isSyllable n = false ∧ n ≠ ' '.toNat

instance (n : Nat) : Decidable (Ordinary n) := inferInstanceAs (Decidable (_ ∧ _))

/-- A code point that decomposes no further. -/
def Unmapped (n : Nat) : Prop := Ordinary n ∧ mappedBits.testBit n = false

instance (n : Nat) : Decidable (Unmapped n) := inferInstanceAs (Decidable (_ ∧ _))

/-- The letters that syllables are made of. -/
def letters : List Nat :=
  List.range' leadBase leadCount ++ (List.range' vowelBase vowelCount ++
    List.range' trailBase trailCount)

/-- What is checked of all rows: tables are in increasing order, only marks have a class,
composites nest no deeper than they are expanded, and nothing is made of parts that
decompose, the first parts of composites apart. -/
theorem tables_checked :
    ((composites.map (·.1)).IsChain (· < ·) ∧ (markRanges.map (·.1)).IsChain (· < ·)) ∧
      (∀ n ∈ pointsOf (classRanges.map fun row => (row.1, row.2.1)),
        markBits.testBit n = true) ∧
      nestedBits nesting = 0 ∧
      (∀ row ∈ composites,
        (row.1.isValidChar ∧ firstMapped ≤ row.1 ∧ isSyllable row.1 = false) ∧
          Ordinary row.2.1 ∧ Unmapped row.2.2) ∧
      (∀ row ∈ replacements, firstMapped ≤ row.1 ∧ ∀ n ∈ row.2, Unmapped n) ∧
      ∀ n ∈ letters, Unmapped n := by
  decide +kernel

theorem increasing_composites : (composites.map (·.1)).Pairwise (· < ·) :=
  List.IsChain.pairwise tables_checked.1.1

theorem increasing_markRanges : (markRanges.map (·.1)).Pairwise (· < ·) :=
  List.IsChain.pairwise tables_checked.1.2

/-- Every code point with a class is a mark. -/
theorem testBit_markBits_class :
    ∀ n ∈ pointsOf (classRanges.map fun row => (row.1, row.2.1)), markBits.testBit n = true :=
  tables_checked.2.1

/-- Composites nest no deeper than that. -/
theorem nestedBits_nesting : nestedBits nesting = 0 := tables_checked.2.2.1

section

variable {row : Nat × Nat × Nat} (hrow : row ∈ composites)

include hrow

/-- A composite is a character that decomposes, and no syllable. -/
theorem mapped_whole : row.1.isValidChar ∧ firstMapped ≤ row.1 ∧ isSyllable row.1 = false :=
  (tables_checked.2.2.2.1 row hrow).1

/-- The first part of a composite is an ordinary code point. -/
theorem ordinary_first : Ordinary row.2.1 := (tables_checked.2.2.2.1 row hrow).2.1

/-- The second part of a composite decomposes no further. -/
theorem unmapped_second : Unmapped row.2.2 := (tables_checked.2.2.2.1 row hrow).2.2

end

/-- Every mapping is of a character from the first one on, to parts that decompose no
further. -/
theorem mapped_replacement :
    ∀ row ∈ replacements, firstMapped ≤ row.1 ∧ ∀ n ∈ row.2, Unmapped n :=
  tables_checked.2.2.2.2.1

/-- The letters of syllables decompose no further. -/
theorem unmapped_letter : ∀ n ∈ letters, Unmapped n := tables_checked.2.2.2.2.2

/-! ## parts that do not decompose -/

/- Expansion goes on until nothing is left to expand, at most as deep as the tables
nest. What it ends with is one of the second parts, of the replacements or of the first
parts that are not mapped themselves. -/

/-- A part of a decomposition, of which nothing is left to decompose. -/
def Atom (c : Char) : Prop := decomposeChar c = [c] ∧ c ≠ ' '

theorem toNat_ofNat_of_valid {n : Nat} (h : n.isValidChar) : (Char.ofNat n).toNat = n := by
  rw [Char.ofNat, dif_pos h]
  rfl

/-- A number is a code point or stands for the null character. -/
theorem toNat_ofNat_or (n : Nat) : (Char.ofNat n).toNat = n ∨ Char.ofNat n = '\x00' := by
  by_cases hvalid : n.isValidChar
  · exact .inl (toNat_ofNat_of_valid hvalid)
  · refine .inr ?_
    rw [Char.ofNat, dif_neg hvalid]
    rfl

/-- A code point without a mapping. -/
theorem atom_ofNat {n : Nat} (hn : Ordinary n) (hparts : rowIn? n composites = none)
    (hreplacement : rowIn? n replacements = none) : Atom (Char.ofNat n) := by
  rcases toNat_ofNat_or n with hcode | hnull
  · refine ⟨?_, fun hspace => hn.2 (by rw [← hcode, hspace])⟩
    rw [decomposeChar, hcode, hn.1]
    simp [expand, hparts, hreplacement]
  · rw [hnull]
    exact ⟨by decide, by decide⟩

theorem rowIn?_eq_none {α : Type} {n : Nat} {rows : List (Nat × α)}
    (h : n ∉ rows.map (·.1)) : rowIn? n rows = none := by
  cases hrow : rowIn? n rows with
  | none => rfl
  | some row => exact absurd (List.mem_map_of_mem (mem_of_rowIn? hrow)) h

/-- A code point that decomposes no further is an atom. -/
theorem atom_of_unmapped {n : Nat} (h : Unmapped n) : Atom (Char.ofNat n) := by
  obtain ⟨hn, hbit⟩ := h
  rw [mappedBits, testBit_bitsOf_eq_false_iff, List.mem_append, not_or] at hbit
  exact atom_ofNat hn (rowIn?_eq_none hbit.1) (rowIn?_eq_none hbit.2)

/-- A character that no table maps is its own decomposition. -/
theorem decomposeChar_of_unmapped {c : Char} (h : Unmapped c.toNat) : decomposeChar c = [c] := by
  have hatom := (atom_of_unmapped h).1
  rwa [Char.ofNat_toNat] at hatom

theorem atom_of_mem_expand_of_none {depth n : Nat} (hn : Ordinary n)
    (hparts : rowIn? n composites = none) {d : Char} (hd : d ∈ expand (depth + 1) n) :
    Atom d := by
  rw [expand, hparts] at hd
  dsimp only at hd
  cases hreplacement : rowIn? n replacements with
  | none =>
      rw [hreplacement] at hd
      obtain rfl := List.mem_singleton.mp hd
      exact atom_ofNat hn hparts hreplacement
  | some parts =>
      rw [hreplacement] at hd
      obtain ⟨m, hm, rfl⟩ := List.mem_map.mp hd
      exact atom_of_unmapped ((mapped_replacement _ (mem_of_rowIn? hreplacement)).2 m hm)

/-- Composites are expanded to the end: every round takes one nesting away. -/
theorem atom_of_mem_expand {depth n : Nat} (hn : Ordinary n)
    (hdepth : (nestedBits depth).testBit n = false) {d : Char} (hd : d ∈ expand (depth + 1) n) :
    Atom d := by
  induction depth generalizing n with
  | zero =>
      exact atom_of_mem_expand_of_none hn
        (rowIn?_eq_none (testBit_bitsOf_eq_false_iff.mp hdepth)) hd
  | succ depth ih =>
      cases hparts : rowIn? n composites with
      | none => exact atom_of_mem_expand_of_none hn hparts hd
      | some parts =>
          obtain ⟨a, b⟩ := parts
          have hrow := mem_of_rowIn? hparts
          rw [expand, hparts] at hd
          rcases List.mem_append.mp hd with hd | hd
          · exact ih (ordinary_first hrow) (testBit_nestedBits_first hrow hdepth) hd
          · obtain rfl := List.mem_singleton.mp hd
            exact atom_of_unmapped (unmapped_second hrow)

/-- The syllables are one block of code points. -/
theorem isSyllable_iff {n : Nat} : isSyllable n = true ↔
    syllableBase ≤ n ∧ n < syllableBase + leadCount * vowelCount * trailCount := by
  rw [isSyllable, Bool.and_eq_true, decide_eq_true_eq, decide_eq_true_eq]

/-- A syllable is made of letters. -/
theorem exists_mem_letters {n : Nat} (hn : isSyllable n = true) {d : Char}
    (hd : d ∈ syllableLetters n) : ∃ m ∈ letters, d = Char.ofNat m := by
  have hbound : n - syllableBase < leadCount * vowelCount * trailCount := by
    rw [isSyllable_iff] at hn
    omega
  have hlead : leadBase + (n - syllableBase) / (vowelCount * trailCount) ∈ letters := by
    refine List.mem_append_left _ (List.mem_range'_1.mpr ?_)
    simp only [leadCount, vowelCount, trailCount] at hbound ⊢
    omega
  have hvowel : vowelBase + (n - syllableBase) % (vowelCount * trailCount) / trailCount ∈
      letters := by
    refine List.mem_append_right _ (List.mem_append_left _ (List.mem_range'_1.mpr ?_))
    simp only [vowelCount, trailCount]
    omega
  have htrail : trailBase + (n - syllableBase) % trailCount ∈ letters := by
    refine List.mem_append_right _ (List.mem_append_right _ (List.mem_range'_1.mpr ?_))
    simp only [trailCount]
    omega
  rw [syllableLetters] at hd
  split at hd
  · simp only [List.mem_cons, List.not_mem_nil, or_false] at hd
    rcases hd with hd | hd
    · exact ⟨_, hlead, hd⟩
    · exact ⟨_, hvowel, hd⟩
  · simp only [List.mem_cons, List.not_mem_nil, or_false] at hd
    rcases hd with hd | hd | hd
    · exact ⟨_, hlead, hd⟩
    · exact ⟨_, hvowel, hd⟩
    · exact ⟨_, htrail, hd⟩

/-- The letters of a syllable are atoms. -/
theorem atom_of_mem_syllableLetters {n : Nat} (hn : isSyllable n = true) {d : Char}
    (hd : d ∈ syllableLetters n) : Atom d := by
  obtain ⟨m, hm, rfl⟩ := exists_mem_letters hn hd
  exact atom_of_unmapped (unmapped_letter m hm)

/-- A part of a character does not decompose further, and a space is no part of another
character. -/
theorem decomposeChar_of_mem {c d : Char} (h : d ∈ decomposeChar c) :
    decomposeChar d = [d] ∧ (d = ' ' → c = ' ') := by
  have hatom : Atom d → decomposeChar d = [d] ∧ (d = ' ' → c = ' ') :=
    fun hd => ⟨hd.1, fun hspace => absurd hspace hd.2⟩
  by_cases hsmall : c.toNat < firstMapped
  · have hself : decomposeChar c = [c] := if_pos hsmall
    rw [hself] at h
    obtain rfl := List.mem_singleton.mp h
    exact ⟨hself, id⟩
  · rw [decomposeChar, if_neg hsmall] at h
    split at h
    · next hsyllable => exact hatom (atom_of_mem_syllableLetters hsyllable h)
    · next hsyllable =>
      refine hatom (atom_of_mem_expand ⟨by simpa using hsyllable, fun hspace => ?_⟩ ?_ h)
      · rw [hspace] at hsmall
        exact hsmall (by decide)
      · rw [nestedBits_nesting, Nat.zero_testBit]

/-! ## classes and composites -/

/- A composite is decomposed into what its two parts decompose into. For a row of the
table the expansion of the whole goes through the two parts, and for a syllable the two
are its letters. -/

/-- Only marks have a combining class. -/
theorem combiningClass_of_isMark {c : Char} (h : isMark c = false) : combiningClass c = 0 := by
  by_contra hclass
  obtain ⟨row, hrow, hbounds⟩ := exists_of_classIn hclass
  have hpoint : c.toNat ∈ pointsOf (classRanges.map fun row => (row.1, row.2.1)) :=
    mem_pointsOf_iff.mpr ⟨_, List.mem_map_of_mem hrow, hbounds⟩
  obtain ⟨range, hrange, hfirst, hlast⟩ :=
    mem_pointsOf_iff.mp (testBit_bitsOf_iff.mp (testBit_markBits_class _ hpoint))
  have hmark := hasPoint_of_mem increasing_markRanges hrange hfirst hlast
  rw [isMark, Ranges.covers, hmark] at h
  contradiction

/-- Rounds beyond the nesting of a composite change nothing. -/
theorem expand_succ {depth n : Nat} (h : (nestedBits depth).testBit n = false) :
    expand (depth + 2) n = expand (depth + 1) n := by
  induction depth generalizing n with
  | zero =>
      rw [expand, expand, rowIn?_eq_none (testBit_bitsOf_eq_false_iff.mp h)]
  | succ depth ih =>
      rw [expand, expand]
      cases hparts : rowIn? n composites with
      | none => rfl
      | some parts =>
          obtain ⟨a, b⟩ := parts
          dsimp only
          rw [ih (testBit_nestedBits_first (mem_of_rowIn? hparts) h)]

/-- The decomposition of a code point in front of the first mapping. -/
theorem expand_of_lt {n : Nat} (h : n < firstMapped) (depth : Nat) :
    expand depth n = [Char.ofNat n] := by
  cases depth with
  | zero => rfl
  | succ depth =>
      have hparts : rowIn? n composites = none := by
        cases hparts : rowIn? n composites with
        | none => rfl
        | some parts => exact absurd (mapped_whole (mem_of_rowIn? hparts)).2.1 (by omega)
      have hreplacement : rowIn? n replacements = none := by
        cases hfound : rowIn? n replacements with
        | none => rfl
        | some parts =>
            exact absurd (mapped_replacement _ (mem_of_rowIn? hfound)).1 (by omega)
      rw [expand, hparts, hreplacement]

/-- A composite of the table decomposes into the parts of its two characters. -/
theorem decomposeChar_of_mem_composites {n : Nat} {a b : Char}
    (hrow : (n, a.toNat, b.toNat) ∈ composites) :
    decomposeChar (Char.ofNat n) = decomposeChar a ++ decomposeChar b := by
  obtain ⟨hvalid, hfirst, hsyllable⟩ := mapped_whole hrow
  have hcode : (Char.ofNat n).toNat = n := toNat_ofNat_of_valid hvalid
  have hb := decomposeChar_of_unmapped (unmapped_second hrow)
  have ha : expand nesting a.toNat = decomposeChar a := by
    by_cases hsmall : a.toNat < firstMapped
    · rw [expand_of_lt hsmall, Char.ofNat_toNat, decomposeChar, if_pos hsmall]
    · have hnested : (nestedBits nesting).testBit n = false := by
        rw [nestedBits_nesting, Nat.zero_testBit]
      rw [decomposeChar, if_neg hsmall, if_neg (by rw [(ordinary_first hrow).1]; decide)]
      exact (expand_succ (testBit_nestedBits_first hrow hnested)).symm
  have hparts := rowIn?_of_mem increasing_composites hrow
  rw [decomposeChar, hcode, if_neg (Nat.not_lt.mpr hfirst), hsyllable, if_neg Bool.false_ne_true,
    hb, ← ha, expand, hparts]
  dsimp only
  rw [Char.ofNat_toNat]

/-- A letter does not decompose. -/
theorem decomposeChar_of_mem_letters {c : Char} (h : c.toNat ∈ letters) :
    decomposeChar c = [c] :=
  decomposeChar_of_unmapped (unmapped_letter _ h)

/-- A character that is a syllable decomposes into its letters. -/
theorem decomposeChar_of_isSyllable {c : Char} (h : isSyllable c.toNat = true) :
    decomposeChar c = syllableLetters c.toNat := by
  have hlow : ¬ c.toNat < firstMapped :=
    Nat.not_lt.mpr (Nat.le_trans (by decide) (isSyllable_iff.mp h).1)
  rw [decomposeChar, if_neg hlow, if_pos h]

/-- A syllable decomposes into its letters. -/
theorem decomposeChar_of_syllable {n : Nat} (h : isSyllable n = true) :
    decomposeChar (Char.ofNat n) = syllableLetters n := by
  have hvalid : n.isValidChar := by
    have hbounds := isSyllable_iff.mp h
    simp only [syllableBase, leadCount, vowelCount, trailCount] at hbounds
    exact .inl (by omega)
  have hcode := toNat_ofNat_of_valid hvalid
  rw [decomposeChar_of_isSyllable (by rwa [hcode]), hcode]

/-- The syllable of a leading consonant and a vowel. -/
theorem syllableLetters_open {a b : Nat} (ha : leadBase ≤ a ∧ a < leadBase + leadCount)
    (hb : vowelBase ≤ b ∧ b < vowelBase + vowelCount) {n : Nat}
    (hn : n = syllableBase + ((a - leadBase) * vowelCount + (b - vowelBase)) * trailCount) :
    isSyllable n = true ∧ syllableLetters n = [Char.ofNat a, Char.ofNat b] := by
  rw [isSyllable_iff]
  simp only [leadBase, leadCount, vowelBase, vowelCount, trailCount, syllableBase] at ha hb hn
  have hlead : leadBase + (n - syllableBase) / (vowelCount * trailCount) = a := by
    simp only [leadBase, vowelCount, trailCount, syllableBase]
    omega
  have hvowel :
      vowelBase + (n - syllableBase) % (vowelCount * trailCount) / trailCount = b := by
    simp only [vowelBase, vowelCount, trailCount, syllableBase]
    omega
  have hnone : (n - syllableBase) % trailCount = 0 := by
    simp only [trailCount, syllableBase]
    omega
  refine ⟨?_, ?_⟩
  · simp only [syllableBase, leadCount, vowelCount, trailCount]
    omega
  · rw [syllableLetters, if_pos hnone, hlead, hvowel]

/-- The syllable of a syllable without a trailing consonant and such a consonant. -/
theorem syllableLetters_closed {a b : Nat} (ha : isSyllable a = true)
    (hopen : (a - syllableBase) % trailCount = 0) (hb : trailBase < b ∧ b < trailBase + trailCount)
    {n : Nat} (hn : n = a + (b - trailBase)) :
    isSyllable n = true ∧ syllableLetters n = syllableLetters a ++ [Char.ofNat b] := by
  have hshort : syllableLetters a =
      [Char.ofNat (leadBase + (a - syllableBase) / (vowelCount * trailCount)), Char.ofNat
        (vowelBase + (a - syllableBase) % (vowelCount * trailCount) / trailCount)] := by
    rw [syllableLetters, if_pos hopen]
  rw [isSyllable_iff] at ha ⊢
  simp only [leadCount, vowelCount, trailCount, syllableBase, trailBase] at ha hopen hb hn
  have hlead : (n - syllableBase) / (vowelCount * trailCount) =
      (a - syllableBase) / (vowelCount * trailCount) := by
    simp only [vowelCount, trailCount, syllableBase]
    omega
  have hvowel : (n - syllableBase) % (vowelCount * trailCount) / trailCount =
      (a - syllableBase) % (vowelCount * trailCount) / trailCount := by
    simp only [vowelCount, trailCount, syllableBase]
    omega
  have htrail : trailBase + (n - syllableBase) % trailCount = b := by
    simp only [trailBase, trailCount, syllableBase]
    omega
  have hclosed : ¬ (n - syllableBase) % trailCount = 0 := by
    simp only [trailCount, syllableBase]
    omega
  refine ⟨?_, ?_⟩
  · simp only [syllableBase, leadCount, vowelCount, trailCount]
    omega
  · rw [hshort, syllableLetters, if_neg hclosed, hlead, hvowel, htrail]
    rfl

/-- What letters are joined to decomposes into these letters. -/
theorem decomposeChar_of_joinLetters? {n : Nat} {a b : Char}
    (h : joinLetters? a.toNat b.toNat = some n) :
    decomposeChar (Char.ofNat n) = decomposeChar a ++ decomposeChar b := by
  rw [joinLetters?] at h
  split at h
  · next hbounds =>
    obtain ⟨halow, hahigh, hblow, hbhigh⟩ := hbounds
    obtain ⟨hn, hletters⟩ :=
      syllableLetters_open ⟨halow, hahigh⟩ ⟨hblow, hbhigh⟩ (Option.some.inj h).symm
    have ha : a.toNat ∈ letters :=
      List.mem_append_left _ (List.mem_range'_1.mpr ⟨halow, hahigh⟩)
    have hb : b.toNat ∈ letters := List.mem_append_right _
      (List.mem_append_left _ (List.mem_range'_1.mpr ⟨hblow, hbhigh⟩))
    rw [decomposeChar_of_syllable hn, hletters, decomposeChar_of_mem_letters ha,
      decomposeChar_of_mem_letters hb, Char.ofNat_toNat, Char.ofNat_toNat]
    rfl
  · split at h
    · next hbounds =>
      obtain ⟨hsyllable, hopen, hblow, hbhigh⟩ := hbounds
      obtain ⟨hn, hletters⟩ :=
        syllableLetters_closed hsyllable hopen ⟨hblow, hbhigh⟩ (Option.some.inj h).symm
      have hb : b.toNat ∈ letters := List.mem_append_right _
        (List.mem_append_right _ (List.mem_range'_1.mpr ⟨Nat.le_of_lt hblow, hbhigh⟩))
      rw [decomposeChar_of_syllable hn, hletters, decomposeChar_of_isSyllable hsyllable,
        decomposeChar_of_mem_letters hb, Char.ofNat_toNat]
    · contradiction

/-- A composite decomposes into the parts of the two characters it is made of. -/
theorem decomposeChar_of_composePair? {a b whole : Char} (h : composePair? a b = some whole) :
    decomposeChar whole = decomposeChar a ++ decomposeChar b := by
  rw [composePair?] at h
  split at h
  · contradiction
  · obtain ⟨n, hn, rfl⟩ := Option.map_eq_some_iff.mp h
    rcases Option.or_eq_some_iff.mp hn with hletters | ⟨-, hwhole⟩
    · exact decomposeChar_of_joinLetters? hletters
    · exact decomposeChar_of_mem_composites (mem_of_wholeIn? hwhole)

end SearchRelay.Text.Canonical
