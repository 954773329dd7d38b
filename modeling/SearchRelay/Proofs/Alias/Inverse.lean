import SearchRelay.Proofs.Alias.Plan

/-!
# SearchRelay.Proofs.Alias.Inverse

Replaced names put back.

A name is put in between the two marks where another one stood, so the marks of
a text stay where they are, and what stands between two of them is either
unchanged or was put in.  Where no name that is put in occurs in the text
itself, the way back finds just the names that were put in
(`translateFrom_inverse`).

`translate_inverse_translate` states this for the substitutions of a search.
-/

namespace SearchRelay.Alias

open Substitution Text.Utf8

/-! ## the way back through a text -/

/- The induction is on the text with what is left to skip. Where a name was replaced,
the replacement is found on the way back; where none was, none is found, because a name
in quotes that stands there afterwards stood there before. -/

section

variable {α : Type} [DecidableEq α] {mark : α} {subs : List (Substitution α)}

/-- A mark stays in its place: it is passed on, or begins what is put in. -/
theorem exists_translateFrom_mark (rest : List α) :
    ∃ out, translateFrom mark subs 0 (mark :: rest) = mark :: out := by
  rw [translateFrom]
  cases longest? mark subs (mark :: rest) with
  | none => exact ⟨_, rfl⟩
  | some s => exact ⟨_, rfl⟩

/-- A quoted name that begins a text behind a mark that was passed on began it
before. -/
theorem prefix_of_prefix_translateFrom {name rest : List α} (hname : mark ∉ name)
    (h : quoteName mark name <+: mark :: translateFrom mark subs 0 rest) :
    quoteName mark name <+: mark :: rest := by
  rw [quoteName_prefix_iff] at h ⊢
  by_cases hmark : mark ∈ rest
  · obtain ⟨chunk, tail, hrest, hchunk⟩ := List.eq_append_cons_of_mem hmark
    have htail : ∃ out, translateFrom mark subs 0 (mark :: tail) = mark :: out :=
      exists_translateFrom_mark tail
    obtain ⟨out, hout⟩ := htail
    rw [hrest, translateFrom_append_of_notMem _ hchunk, hout,
      append_mark_prefix_iff hname hchunk] at h
    rw [hrest, append_mark_prefix_iff hname hchunk]
    exact h
  · have hsame : translateFrom mark subs 0 rest = rest := by
      have hpass : translateFrom mark subs 0 (rest ++ []) = rest ++ translateFrom mark subs 0 [] :=
        translateFrom_append_of_notMem [] hmark
      rwa [translateFrom, List.append_nil] at hpass
    rwa [hsame] at h

variable (hmark : ∀ s ∈ subs, mark ∉ s.target)
  (htarget : ∀ s ∈ subs, ∀ r ∈ subs, s.target = r.target → s = r)

include hmark

/-- Where nothing is replaced, nothing is put back. -/
theorem longest?_inverse_eq_none {a : α} {rest : List α}
    (hfree : ∀ s ∈ subs, ¬ quoteName mark s.target <:+: a :: rest) :
    longest? mark (subs.map inverse) (a :: translateFrom mark subs 0 rest) = none := by
  by_cases ha : a = mark
  · subst ha
    apply longest?_eq_none
    refine List.forall_mem_map.mpr fun s hs hprefix => ?_
    exact hfree s hs (prefix_of_prefix_translateFrom (hmark s hs) hprefix).isInfix
  · exact longest?_of_head_ne _ ha

include htarget

/-- Where a name was put in, the one that stood there is put back. -/
theorem translateFrom_inverse_quoteName {s : Substitution α} (hs : s ∈ subs) (rest : List α) :
    translateFrom mark (subs.map inverse) 0 (quoteName mark s.target ++ rest) =
      quoteName mark s.source ++ translateFrom mark (subs.map inverse) 0 rest := by
  have hmarks : ∀ r ∈ subs.map inverse, mark ∉ r.source := List.forall_mem_map.mpr hmark
  have hsources : ∀ r ∈ subs.map inverse, ∀ q ∈ subs.map inverse,
      r.source = q.source → r = q :=
    List.forall_mem_map.mpr fun r hr => List.forall_mem_map.mpr fun q hq heq =>
      congrArg inverse (htarget r hr q hq heq)
  exact translateFrom_of_longest? (s := s.inverse)
    (longest?_quoteName hmarks hsources (List.mem_map_of_mem hs) rest)

/-- The way back through a text of which the first `skip` items were replaced
already gives the rest. -/
theorem translateFrom_inverse (skip : Nat) {text : List α}
    (hfree : ∀ s ∈ subs, ¬ quoteName mark s.target <:+: text) :
    translateFrom mark (subs.map inverse) 0 (translateFrom mark subs skip text) =
      text.drop skip := by
  induction text generalizing skip with
  | nil => simp [translateFrom]
  | cons a rest ih =>
      have hrest : ∀ s ∈ subs, ¬ quoteName mark s.target <:+: rest := fun s hs hwithin =>
        hfree s hs (hwithin.trans (List.suffix_cons a rest).isInfix)
      cases skip with
      | succ skip => rw [translateFrom, ih skip hrest, List.drop_succ_cons]
      | zero =>
          rw [translateFrom]
          have hlongest := isLongest_longest? mark subs (a :: rest)
          cases hfound : longest? mark subs (a :: rest) with
          | none =>
              dsimp only
              rw [translateFrom_cons (longest?_inverse_eq_none hmark hfree), ih 0 hrest,
                List.drop_zero, List.drop_zero]
          | some s =>
              rw [hfound] at hlongest
              obtain ⟨hs, ⟨tail, htail⟩, -⟩ := hlongest
              -- what was skipped is the rest of the name that is put back
              have hskip : rest.drop (s.source.length + 1) = tail := by
                rw [← List.drop_succ_cons (a := a), ← htail]
                exact List.drop_left' (by simp [quoteName])
              dsimp only
              rw [translateFrom_inverse_quoteName hmark htarget hs, ih _ hrest, hskip, htail,
                List.drop_zero]

end

/-! ## the substitutions of a search -/

/-- **Replaced names can be put back**: a text in which no name occurs in quotes
that is put in by the substitutions of a search is given back by their
inverses. -/
theorem translate_inverse_translate {t : Table} {names : List String}
    (hmark : ∀ s ∈ plan names t, mark ∉ s.target) {text : List UInt8}
    (hfree : ∀ s ∈ plan names t, ¬ quoteName mark s.target <:+: text) :
    translate ((plan names t).map inverse) (translate (plan names t) text) = text :=
  translateFrom_inverse hmark (fun _ hs _ hr => eq_of_target_eq hs hr) 0 hfree

def shopTable : Table := ⟨[("products", "catalog"), ("users", "people")], by decide⟩

/-- A text with their names, two of them side by side, and another one. -/
def shopText : List UInt8 := utf8 "[\"products\",\"orders\",[\"users\"\"products\"]]"

/-- A text with two aliases side by side is translated and comes back. -/
theorem translate_inverse_translate_shop :
    Table.ofPairs shopTable.pairs = .ok shopTable ∧
      (∀ s ∈ plan ["products", "people"] shopTable, mark ∉ s.target) ∧
      (∀ s ∈ plan ["products", "people"] shopTable, ¬ quoteName mark s.target <:+: shopText) ∧
      translate (plan ["products", "people"] shopTable) shopText =
        utf8 "[\"catalog\",\"orders\",[\"people\"\"catalog\"]]" ∧
      translate ((plan ["products", "people"] shopTable).map inverse)
        (translate (plan ["products", "people"] shopTable) shopText) = shopText := by
  have hmark : ∀ s ∈ plan ["products", "people"] shopTable, mark ∉ s.target := by
    decide +kernel
  have hfree : ∀ s ∈ plan ["products", "people"] shopTable,
      ¬ quoteName mark s.target <:+: shopText := by decide +kernel
  exact ⟨rfl, hmark, hfree, by decide +kernel, translate_inverse_translate hmark hfree⟩

end SearchRelay.Alias
