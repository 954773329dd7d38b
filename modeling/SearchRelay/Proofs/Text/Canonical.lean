import SearchRelay.Proofs.Text.Decomposition

/-!
# SearchRelay.Proofs.Text.Canonical

Composition of texts without marks, and the order of marks.

1. `compose_eq_join` — without marks every character is a starter with nothing behind
   it, so composition joins neighbours from left to right.
2. `decompose_join` — what is joined decomposes into the same parts;
   `join_append_space` — nothing is joined with a space.
3. `filter_orderMarks` — putting marks into order leaves the other characters as they
   are.
-/

namespace SearchRelay.Text.Canonical

/-! ## composition without marks -/

def Markless (cs : List Char) : Prop := ∀ c ∈ cs, isMark c = false

/-- Neighbours are joined from left to right, behind a first character. -/
def joinFrom (first : Char) : List Char → List Char
  | [] => [first]
  | c :: cs => match composePair? first c with
    | some whole => joinFrom whole cs
    | none => first :: joinFrom c cs

/-- Neighbours are joined from left to right. -/
def join : List Char → List Char
  | [] => []
  | c :: cs => joinFrom c cs

/-- With nothing behind the starter the next character is joined or begins anew. -/
theorem foldl_composeStep {cs : List Char} (h : Markless cs) (done : List Char) (first : Char) :
    ∃ rest last, cs.foldl composeStep (done, some ⟨first, []⟩) = (rest, some ⟨last, []⟩) ∧
      rest.reverse ++ [last] = done.reverse ++ joinFrom first cs := by
  induction cs generalizing done first with
  | nil => exact ⟨done, first, rfl, rfl⟩
  | cons c cs ih =>
      obtain ⟨hc, hcs⟩ := List.forall_mem_cons.mp h
      have hclass := combiningClass_of_isMark hc
      rw [List.foldl_cons, joinFrom]
      cases hpair : composePair? first c with
      | some whole =>
          have hstep : composeStep (done, some ⟨first, []⟩) c = (done, some ⟨whole, []⟩) := by
            simp [composeStep, Pending.blocks, hpair]
          rw [hstep]
          exact ih hcs done whole
      | none =>
          have hstep : composeStep (done, some ⟨first, []⟩) c =
              (first :: done, some ⟨c, []⟩) := by
            simp [composeStep, Pending.blocks, Pending.reversed, hpair, hclass]
          rw [hstep]
          simpa using ih hcs (first :: done) c

/-- Without marks, composing is joining neighbours. -/
theorem compose_eq_join {cs : List Char} (h : Markless cs) : compose cs = join cs := by
  cases cs with
  | nil => rfl
  | cons c cs =>
      obtain ⟨hc, hcs⟩ := List.forall_mem_cons.mp h
      have hstart : composeStep ([], none) c = ([], some ⟨c, []⟩) := by
        simp [composeStep, combiningClass_of_isMark hc]
      obtain ⟨rest, last, hfold, hjoined⟩ := foldl_composeStep hcs [] c
      rw [compose, List.foldl_cons, hstart, hfold]
      simpa [Pending.reversed, join] using hjoined

/-! ## what is joined -/

theorem decompose_cons (c : Char) (cs : List Char) :
    decompose (c :: cs) = decomposeChar c ++ decompose cs := rfl

theorem decompose_append (cs ds : List Char) :
    decompose (cs ++ ds) = decompose cs ++ decompose ds :=
  List.flatMap_append

/-- Joining neighbours is undone by decomposing. -/
theorem decompose_joinFrom (first : Char) (cs : List Char) :
    decompose (joinFrom first cs) = decomposeChar first ++ decompose cs := by
  induction cs generalizing first with
  | nil => rfl
  | cons c cs ih =>
      rw [joinFrom]
      cases hpair : composePair? first c with
      | some whole =>
          dsimp only
          rw [ih, decomposeChar_of_composePair? hpair, decompose_cons, List.append_assoc]
      | none =>
          dsimp only
          rw [decompose_cons, ih, decompose_cons]

/-- What is joined decomposes into the same parts. -/
theorem decompose_join (cs : List Char) : decompose (join cs) = decompose cs := by
  cases cs with
  | nil => rfl
  | cons c cs => exact decompose_joinFrom c cs

/-- No character is composed with a space behind it. -/
theorem composePair?_space_right (a : Char) : composePair? a ' ' = none := if_pos (by decide)

/-- Nothing is joined with a character in front that is no first part of a composite. -/
theorem composePair?_of_notMem {a : Char} (hsmall : a.toNat < leadBase)
    (hfirst : ∀ row ∈ composites, row.2.1 ≠ a.toNat) (b : Char) : composePair? a b = none := by
  have hletters : joinLetters? a.toNat b.toNat = none := by
    have hsyllable : isSyllable a.toNat = false := by
      rw [isSyllable, decide_eq_false (Nat.not_le.mpr (Nat.lt_trans hsmall (by decide))),
        Bool.false_and]
    rw [joinLetters?, if_neg (by omega), if_neg (by simp [hsyllable])]
  have hwhole : wholeIn? a.toNat b.toNat composites = none := by
    cases hwhole : wholeIn? a.toNat b.toNat composites with
    | none => rfl
    | some n => exact absurd rfl (hfirst _ (mem_of_wholeIn? hwhole))
  rw [composePair?, hletters, Option.none_or, hwhole, Option.map_none, ite_self]

/-- A space is composed with no character behind it. -/
theorem composePair?_space_left (b : Char) : composePair? ' ' b = none :=
  composePair?_of_notMem (by decide) (fun row hrow => (ordinary_first hrow).2) b

theorem joinFrom_space (cs : List Char) : joinFrom ' ' cs = ' ' :: join cs := by
  cases cs with
  | nil => rfl
  | cons c cs => rw [joinFrom, composePair?_space_left]; rfl

/-- A space keeps apart what stands around it. -/
theorem joinFrom_append_space (first : Char) (cs ds : List Char) :
    joinFrom first (cs ++ ' ' :: ds) = joinFrom first cs ++ ' ' :: join ds := by
  induction cs generalizing first with
  | nil =>
      have hfirst : joinFrom first (' ' :: ds) = first :: joinFrom ' ' ds := by
        rw [joinFrom, composePair?_space_right]
      rw [List.nil_append, hfirst, joinFrom_space]
      rfl
  | cons c cs ih =>
      rw [List.cons_append, joinFrom, joinFrom]
      cases hpair : composePair? first c with
      | some whole => exact ih whole
      | none =>
          dsimp only
          rw [ih c, List.cons_append]

/-- A space keeps apart what stands before it and behind it. -/
theorem join_append_space (cs ds : List Char) :
    join (cs ++ ' ' :: ds) = join cs ++ ' ' :: join ds := by
  cases cs with
  | nil => exact joinFrom_space ds
  | cons c cs => exact joinFrom_append_space c cs ds

/-! ## the order of marks -/

/-- Only marks have a combining class. -/
theorem isMark_of_combiningClass {c : Char} (h : combiningClass c ≠ 0) : isMark c = true := by
  by_contra hmark
  exact h (combiningClass_of_isMark (by simpa using hmark))

/-- Without marks, nothing is moved. -/
theorem orderMarks_of_markless {cs : List Char} (h : Markless cs) (done : List Char) :
    orderMarks done cs = done.reverse ++ cs := by
  induction cs generalizing done with
  | nil => simp [orderMarks]
  | cons c cs ih =>
      obtain ⟨hc, hcs⟩ := List.forall_mem_cons.mp h
      rw [orderMarks, if_pos (combiningClass_of_isMark hc), ih hcs, List.reverse_cons,
        List.append_assoc, List.singleton_append]

/-- A mark that is put into its place is none of the other characters. -/
theorem filter_insertMark {c : Char} (hc : isMark c = true) (k : Nat) (cs : List Char) :
    (insertMark c k cs).filter (fun d => !isMark d) = cs.filter fun d => !isMark d := by
  induction cs with
  | nil => simp [insertMark, hc]
  | cons d cs ih =>
      rw [insertMark]
      split
      · rw [List.filter_cons, List.filter_cons, ih]
      · rw [List.filter_cons_of_neg (by simp [hc])]

/-- Putting marks into order leaves the other characters as they are. -/
theorem filter_orderMarks (done cs : List Char) :
    (orderMarks done cs).filter (fun d => !isMark d) =
      (done.reverse ++ cs).filter fun d => !isMark d := by
  induction cs generalizing done with
  | nil => simp [orderMarks]
  | cons c cs ih =>
      rw [orderMarks]
      split
      · rw [ih, List.reverse_cons, List.append_assoc, List.singleton_append]
      · next hclass =>
        have hmark := isMark_of_combiningClass hclass
        rw [ih, List.filter_append, List.filter_reverse, filter_insertMark hmark,
          List.filter_append, List.filter_cons_of_neg (by simp [hmark]), List.filter_reverse]

end SearchRelay.Text.Canonical
