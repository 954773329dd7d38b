import Mathlib.Data.List.Chain
import SearchRelay.Proofs.Text.Canonical
import SearchRelay.Proofs.Text.Split

/-!
# SearchRelay.Proofs.Text.Composition

Canonical composition of any texts.

1. `nfd_nfc`, `nfc_nfc` — what is composed decomposes into what it was composed of,
   so a composed text stays as it is.  A mark that is joined with its starter goes
   past marks of smaller classes, which the order of marks undoes (`Alike`).
2. `nfc_append_cons` — what is joined with nothing keeps apart what stands before it
   and behind it (`Apart`).
3. So the labels of a composed name are composed (`nfc_of_mem_splitBy`), and ASCII is
   composed anyway (`nfc_of_ascii`).
-/

namespace SearchRelay.Text.Canonical

/-! ## the order of marks -/

/- Marks are put in order by insertion: each goes in front of all marks behind the last
starter with a higher class. Marks of different classes can be inserted in either order,
and this is all that makes two texts alike. -/

/-- Takes one character; what is done stands in reverse. -/
def markStep (done : List Char) (c : Char) : List Char :=
  if combiningClass c = 0 then c :: done else insertMark c (combiningClass c) done

/-- Marks are put in order one character at a time. -/
theorem orderMarks_eq_foldl (done cs : List Char) :
    orderMarks done cs = (cs.foldl markStep done).reverse := by
  induction cs generalizing done with
  | nil => rfl
  | cons c cs ih =>
      rw [orderMarks, List.foldl_cons, markStep]
      split
      · exact ih _
      · exact ih _

/-- Inserting a mark drops and repeats nothing. -/
theorem insertMark_perm (c : Char) (k : Nat) (done : List Char) :
    (insertMark c k done).Perm (c :: done) := by
  induction done with
  | nil => exact .refl _
  | cons d done ih =>
      rw [insertMark]
      split
      · exact (ih.cons d).trans (.swap c d done)
      · exact .refl _

/-- Putting marks in order drops and repeats nothing. -/
theorem foldl_markStep_perm (done cs : List Char) :
    (cs.foldl markStep done).Perm (cs.reverse ++ done) := by
  induction cs generalizing done with
  | nil => exact .refl _
  | cons c cs ih =>
      have hstep : (markStep done c).Perm (c :: done) := by
        rw [markStep]
        split
        · exact .refl _
        · exact insertMark_perm c _ done
      rw [List.foldl_cons, List.reverse_cons, List.append_assoc, List.singleton_append]
      exact (ih _).trans (hstep.append_left _)

/-- The decomposed text has the characters of the parts. -/
theorem mem_nfd_iff {c : Char} {cs : List Char} : c ∈ nfd cs ↔ c ∈ decompose cs := by
  rw [nfd, orderMarks_eq_foldl, List.mem_reverse, (foldl_markStep_perm _ _).mem_iff,
    List.append_nil, List.mem_reverse]

/-- Of two marks of different classes it does not matter which one is put into its
place first. -/
theorem insertMark_comm {c d : Char} (h : combiningClass c ≠ combiningClass d) (done : List Char) :
    insertMark d (combiningClass d) (insertMark c (combiningClass c) done) =
      insertMark c (combiningClass c) (insertMark d (combiningClass d) done) := by
  induction done with
  | nil =>
      simp only [insertMark]
      split <;> split <;> first | rfl | omega
  | cons e done ih =>
      by_cases hc : combiningClass c < combiningClass e
      · by_cases hd : combiningClass d < combiningClass e
        · simp only [insertMark, if_pos hc, if_pos hd, ih]
        · have hless : combiningClass c < combiningClass d := by omega
          simp only [insertMark, if_pos hc, if_neg hd, if_pos hless]
      · by_cases hd : combiningClass d < combiningClass e
        · have hless : combiningClass d < combiningClass c := by omega
          simp only [insertMark, if_neg hc, if_pos hd, if_pos hless]
        · simp only [insertMark, if_neg hc, if_neg hd]
          split <;> split <;> first | rfl | omega

/-- Texts that are in the same order once their marks are. -/
def Alike (cs ds : List Char) : Prop :=
  ∀ done, cs.foldl markStep done = ds.foldl markStep done

theorem Alike.trans {cs ds es : List Char} (h : Alike cs ds) (h' : Alike ds es) : Alike cs es :=
  fun done => (h done).trans (h' done)

/-- What stands around two texts does not make them differ. -/
theorem Alike.append {cs ds : List Char} (h : Alike cs ds) (front rest : List Char) :
    Alike (front ++ cs ++ rest) (front ++ ds ++ rest) := by
  intro done
  simp only [List.foldl_append]
  rw [h]

/-- A mark goes past marks of other classes. -/
theorem alike_of_passed {c : Char} (hc : combiningClass c ≠ 0) {marks : List Char}
    (hmarks : ∀ d ∈ marks, combiningClass d ≠ 0 ∧ combiningClass d ≠ combiningClass c) :
    Alike (marks ++ [c]) (c :: marks) := by
  intro done
  induction marks generalizing done with
  | nil => rfl
  | cons d marks ih =>
      obtain ⟨⟨hd, hne⟩, hrest⟩ := List.forall_mem_cons.mp hmarks
      have hswap : markStep (markStep done d) c = markStep (markStep done c) d := by
        simp only [markStep, if_neg hc, if_neg hd]
        exact insertMark_comm hne done
      rw [List.cons_append, List.foldl_cons, ih hrest, List.foldl_cons, hswap]
      rfl

/-- One character may stand right before another one in the order of marks. -/
def Precedes (c d : Char) : Prop := combiningClass d = 0 ∨ combiningClass c ≤ combiningClass d

/-- A text whose marks are in order. -/
def Ordered (cs : List Char) : Prop := cs.IsChain Precedes

/-- Marks in order stay where they are. -/
theorem foldl_markStep_of_ordered {done cs : List Char} (h : Ordered (done.reverse ++ cs)) :
    cs.foldl markStep done = cs.reverse ++ done := by
  induction cs generalizing done with
  | nil => rfl
  | cons c cs ih =>
      have hstep : markStep done c = c :: done := by
        rw [markStep]
        split
        · rfl
        · next hclass =>
          cases done with
          | nil => rfl
          | cons d done =>
              have hpair : Precedes d c := by
                rw [Ordered, List.reverse_cons, List.append_assoc] at h
                exact (List.isChain_cons_cons.mp (List.isChain_append.mp h).2.1).1
              rw [insertMark, if_neg (Nat.not_lt.mpr (hpair.resolve_left hclass))]
      rw [List.foldl_cons, hstep, ih (by simpa using h)]
      simp

/-- A text in order is decomposed as itself. -/
theorem nfd_of_ordered {cs ds : List Char} (hcs : Alike (decompose ds) cs) (h : Ordered cs) :
    nfd ds = cs := by
  have hfold : cs.foldl markStep [] = cs.reverse ++ [] := foldl_markStep_of_ordered h
  rw [nfd, orderMarks_eq_foldl, hcs, hfold, List.append_nil, List.reverse_reverse]

/-- An inserted mark comes last, or what came last still does. -/
theorem head?_insertMark (c : Char) (k : Nat) (done : List Char) {d : Char}
    (h : (insertMark c k done).head? = some d) : d = c ∨ done.head? = some d := by
  cases done with
  | nil => exact .inl (Option.some.inj h).symm
  | cons e done =>
      rw [insertMark] at h
      split at h
      · exact .inr h
      · exact .inl (Option.some.inj h).symm

/-- Putting a mark into its place keeps the order. -/
theorem isChain_insertMark {c : Char} {done : List Char}
    (h : done.IsChain fun d e => Precedes e d) :
    (insertMark c (combiningClass c) done).IsChain fun d e => Precedes e d := by
  induction done with
  | nil => exact .singleton c
  | cons d done ih =>
      obtain ⟨hhead, hrest⟩ := List.isChain_cons.mp h
      rw [insertMark]
      split
      · next hless =>
        refine List.isChain_cons.mpr ⟨fun e he => ?_, ih hrest⟩
        rcases head?_insertMark c _ done he with rfl | he
        · exact .inr (Nat.le_of_lt hless)
        · exact hhead e he
      · next hnot => exact List.isChain_cons_cons.mpr ⟨.inr (Nat.le_of_not_lt hnot), h⟩

/-- A decomposed text is in order. -/
theorem ordered_nfd (cs : List Char) : Ordered (nfd cs) := by
  have hfold : ∀ (cs done : List Char), (done.IsChain fun d e => Precedes e d) →
      (cs.foldl markStep done).IsChain fun d e => Precedes e d := by
    intro cs
    induction cs with
    | nil => exact fun _ h => h
    | cons c cs ih =>
        intro done h
        refine ih _ ?_
        rw [markStep]
        split
        · next hclass => exact List.isChain_cons.mpr ⟨fun _ _ => .inl hclass, h⟩
        · exact isChain_insertMark h
  rw [Ordered, nfd, orderMarks_eq_foldl, List.isChain_reverse]
  exact hfold _ _ .nil

/-! ## composition is undone -/

/- The state of the composition is the text behind and a starter with marks that wait
for it. Whatever it composes, decomposing the text so far and what is ahead gives what
it gave before. -/

theorem decompose_of_forall {cs : List Char} (h : ∀ c ∈ cs, decomposeChar c = [c]) :
    decompose cs = cs := by
  rw [decompose, List.flatMap_congr h]
  simp

/-- Nothing is left to decompose in a decomposed text. -/
theorem decomposeChar_of_mem_nfd {c : Char} {cs : List Char} (h : c ∈ nfd cs) :
    decomposeChar c = [c] := by
  obtain ⟨d, -, hd⟩ := List.mem_flatMap.mp (mem_nfd_iff.mp h)
  exact (decomposeChar_of_mem hd).1

/-- The text of a composition under way. -/
def textOf : List Char × Option Pending → List Char
  | (done, none) => done.reverse
  | (done, some p) => (p.reversed ++ done).reverse

/-- Characters are composed one at a time. -/
theorem compose_eq (cs : List Char) : compose cs = textOf (cs.foldl composeStep ([], none)) := rfl

theorem textOf_some (done : List Char) (p : Pending) :
    textOf (done, some p) = done.reverse ++ p.starter :: p.behind.reverse := by
  simp [textOf, Pending.reversed]

/-- What stands behind a starter: marks in order, with parts of their own, in front of
a next character. -/
structure Pending.Waits (p : Pending) (next : Option Char) : Prop where
  marks : ∀ d ∈ p.behind, combiningClass d ≠ 0 ∧ decomposeChar d = [d]
  sorted : p.behind.Pairwise fun d e => combiningClass e ≤ combiningClass d
  before : ∀ d ∈ p.behind, ∀ c ∈ next, Precedes d c

theorem Pending.waits_nil (c : Char) (next : Option Char) : (Pending.mk c []).Waits next :=
  ⟨fun _ h => absurd h List.not_mem_nil, .nil, fun _ h => absurd h List.not_mem_nil⟩

section

variable {p : Pending} {c : Char} {next : Option Char}

/-- A mark that is not blocked is of a larger class than what it goes past. -/
theorem Pending.Waits.passed (h : p.Waits (some c)) (hfree : p.blocks (combiningClass c) = false) :
    ∀ d ∈ p.behind, combiningClass d < combiningClass c := by
  intro d hd
  cases hbehind : p.behind with
  | nil =>
      rw [hbehind] at hd
      contradiction
  | cons e behind =>
      have hblocks : ¬ combiningClass c ≤ combiningClass e := by
        simpa [Pending.blocks, hbehind] using hfree
      have hsorted := h.sorted
      rw [hbehind] at hd hsorted
      rcases List.mem_cons.mp hd with rfl | hd
      · omega
      · have := (List.pairwise_cons.mp hsorted).1 d hd
        omega

/-- A starter that takes a character leaves what stands between them. -/
theorem Pending.Waits.join (h : p.Waits (some c)) (hfree : p.blocks (combiningClass c) = false)
    (hnext : ∀ d ∈ next, Precedes c d) (whole : Char) :
    { p with starter := whole }.Waits next := by
  refine ⟨h.marks, h.sorted, fun d hd e he => ?_⟩
  have hpassed := h.passed hfree d hd
  exact (hnext e he).imp_right fun hle => by omega

/-- A starter waits behind one more mark. -/
theorem Pending.Waits.push (h : p.Waits (some c)) (hclass : combiningClass c ≠ 0)
    (hc : decomposeChar c = [c]) (hnext : ∀ d ∈ next, Precedes c d) :
    { p with behind := c :: p.behind }.Waits next := by
  have hbefore : ∀ d ∈ p.behind, combiningClass d ≤ combiningClass c := fun d hd =>
    (h.before d hd c rfl).resolve_left hclass
  refine ⟨List.forall_mem_cons.mpr ⟨⟨hclass, hc⟩, h.marks⟩,
    List.pairwise_cons.mpr ⟨hbefore, h.sorted⟩,
    List.forall_mem_cons.mpr ⟨hnext, fun d hd e he => ?_⟩⟩
  have hle := hbefore d hd
  exact (hnext e he).imp_right fun hle' => by omega

/-- A character that is joined with its starter goes past what stands between them. -/
theorem alike_of_joined {done : List Char} {whole : Char} (h : p.Waits (some c))
    (hc : decomposeChar c = [c]) (hfree : p.blocks (combiningClass c) = false)
    (hpair : composePair? p.starter c = some whole) :
    Alike (decompose (textOf (done, some p)) ++ [c])
      (decompose (textOf (done, some { p with starter := whole }))) := by
  have hbehind : decompose p.behind.reverse = p.behind.reverse :=
    decompose_of_forall fun d hd => (h.marks d (List.mem_reverse.mp hd)).2
  have hpassed : Alike (p.behind.reverse ++ [c]) (c :: p.behind.reverse) := by
    by_cases hnil : p.behind = []
    · rw [hnil]
      exact fun _ => rfl
    · obtain ⟨e, he⟩ := List.exists_mem_of_ne_nil _ hnil
      have hclass := h.passed hfree e he
      refine alike_of_passed (by omega) fun d hd => ?_
      have hd := List.mem_reverse.mp hd
      exact ⟨(h.marks d hd).1, Nat.ne_of_lt (h.passed hfree d hd)⟩
  have happend := hpassed.append (decompose done.reverse ++ decomposeChar p.starter) []
  simp only [textOf_some, decompose_append, decompose_cons, hbehind,
    decomposeChar_of_composePair? hpair, hc]
  simpa using happend

end

/-- One more character is decomposed on its own. -/
theorem alike_of_append {text longer : List Char} {c : Char} (hc : decomposeChar c = [c])
    (h : longer = text ++ [c]) : Alike (decompose text ++ [c]) (decompose longer) := by
  rw [h, decompose_append, decompose_cons, hc]
  exact fun _ => rfl

/-- One character: the text goes on alike. -/
theorem alike_composeStep {state : List Char × Option Pending} {c : Char} {next : Option Char}
    (hc : decomposeChar c = [c]) (h : ∀ p ∈ state.2, p.Waits (some c))
    (hnext : ∀ d ∈ next, Precedes c d) :
    Alike (decompose (textOf state) ++ [c]) (decompose (textOf (composeStep state c))) ∧
      ∀ p ∈ (composeStep state c).2, p.Waits next := by
  obtain ⟨done, _ | p⟩ := state
  · by_cases hclass : combiningClass c = 0
    · have hstep : composeStep (done, none) c = (done, some ⟨c, []⟩) := if_pos hclass
      refine ⟨alike_of_append hc (by simp [hstep, textOf, Pending.reversed]), ?_⟩
      rw [hstep]
      intro p hp
      obtain rfl := Option.some.inj hp
      exact Pending.waits_nil c next
    · have hstep : composeStep (done, none) c = (c :: done, none) := if_neg hclass
      refine ⟨alike_of_append hc (by simp [hstep, textOf]), ?_⟩
      rw [hstep]
      exact fun p hp => absurd hp (Option.not_mem_none p)
  · have hwaits : p.Waits (some c) := h p rfl
    cases hjoined : if p.blocks (combiningClass c) then none else composePair? p.starter c with
    | some whole =>
        have hstep : composeStep (done, some p) c = (done, some { p with starter := whole }) := by
          rw [composeStep, hjoined]
        have hfree : p.blocks (combiningClass c) = false := by
          by_contra hblocked
          rw [if_pos (by simpa using hblocked)] at hjoined
          contradiction
        rw [hfree, if_neg (by simp)] at hjoined
        rw [hstep]
        refine ⟨alike_of_joined hwaits hc hfree hjoined, ?_⟩
        intro q hq
        obtain rfl := Option.some.inj hq
        exact hwaits.join hfree hnext whole
    | none =>
        by_cases hclass : combiningClass c = 0
        · have hstep : composeStep (done, some p) c = (p.reversed ++ done, some ⟨c, []⟩) := by
            simp only [composeStep, hjoined, if_pos hclass]
          refine ⟨alike_of_append hc (by simp [hstep, textOf, Pending.reversed]), ?_⟩
          rw [hstep]
          intro q hq
          obtain rfl := Option.some.inj hq
          exact Pending.waits_nil c next
        · have hstep : composeStep (done, some p) c =
              (done, some { p with behind := c :: p.behind }) := by
            simp only [composeStep, hjoined, if_neg hclass]
          refine ⟨alike_of_append hc (by simp [hstep, textOf, Pending.reversed]), ?_⟩
          rw [hstep]
          intro q hq
          obtain rfl := Option.some.inj hq
          exact hwaits.push hclass hc hnext

/-- Composing keeps what a text decomposes into. -/
theorem alike_foldl_composeStep {cs : List Char} {state : List Char × Option Pending}
    (hcs : ∀ c ∈ cs, decomposeChar c = [c]) (hordered : Ordered cs)
    (h : ∀ p ∈ state.2, p.Waits cs.head?) :
    Alike (decompose (textOf state) ++ cs) (decompose (textOf (cs.foldl composeStep state))) := by
  induction cs generalizing state with
  | nil =>
      rw [List.append_nil]
      exact fun _ => rfl
  | cons c cs ih =>
      obtain ⟨hc, hrest⟩ := List.forall_mem_cons.mp hcs
      obtain ⟨hnext, hordered⟩ := List.isChain_cons.mp hordered
      obtain ⟨hstep, hwaits⟩ := alike_composeStep hc h hnext
      have happend := hstep.append [] cs
      rw [List.nil_append, List.append_assoc, List.singleton_append, List.nil_append] at happend
      exact happend.trans (ih hrest hordered hwaits)

/-- What is composed decomposes into what it was composed of. -/
theorem nfd_nfc (cs : List Char) : nfd (nfc cs) = nfd cs := by
  have hparts : ∀ c ∈ nfd cs, decomposeChar c = [c] := fun _ hc => decomposeChar_of_mem_nfd hc
  have hstart : ∀ p ∈ (none : Option Pending), p.Waits (nfd cs).head? :=
    fun p hp => absurd hp (Option.not_mem_none p)
  have hfold : Alike (nfd cs) (decompose (nfc cs)) :=
    @alike_foldl_composeStep (nfd cs) ([], none) hparts (ordered_nfd cs) hstart
  exact nfd_of_ordered (fun done => (hfold done).symm) (ordered_nfd cs)

/-- A composed text stays as it is. -/
theorem nfc_nfc (cs : List Char) : nfc (nfc cs) = nfc cs := by
  rw [nfc, nfd_nfc]
  rfl

/-! ## what keeps texts apart -/

/- A character that is a starter, has no parts and is part of nothing is passed by no
mark and joined with nothing. So what stands before it and behind it can be normalized
on its own. -/

/-- A state of the composition behind a starter `s`, if that is joined with nothing: the
marks before the next starter stand behind it. -/
def stateBehind (s : Char) (front : List Char) :
    List Char × Option Pending → List Char × Option Pending
  | (done, none) => (front, some ⟨s, done⟩)
  | (done, some p) => (done ++ s :: front, some p)

/-- A state behind a starter is the text behind it. -/
theorem textOf_stateBehind (s : Char) (front : List Char) (state : List Char × Option Pending) :
    textOf (stateBehind s front state) = front.reverse ++ s :: textOf state := by
  obtain ⟨done, _ | p⟩ := state
  · simp [stateBehind, textOf, Pending.reversed]
  · simp [stateBehind, textOf, Pending.reversed]

/-- A character that has no parts and is joined with nothing. -/
structure Apart (s : Char) : Prop where
  decomposeChar : decomposeChar s = [s]
  starter : combiningClass s = 0
  left : ∀ b, composePair? s b = none
  right : ∀ a, composePair? a s = none

section

variable {s : Char} (hs : Apart s)

include hs

/-- No mark passes the character. -/
theorem Apart.insertMark_append_cons (c : Char) (k : Nat) (done front : List Char) :
    insertMark c k (done ++ s :: front) = insertMark c k done ++ s :: front := by
  induction done with
  | nil => simp [insertMark, hs.starter]
  | cons d done ih =>
      rw [List.cons_append, insertMark, insertMark]
      split
      · rw [ih, List.cons_append]
      · rfl

/-- No marks pass the character. -/
theorem Apart.foldl_markStep_append_cons (done front cs : List Char) :
    cs.foldl markStep (done ++ s :: front) = cs.foldl markStep done ++ s :: front := by
  induction cs generalizing done with
  | nil => rfl
  | cons c cs ih =>
      have hstep : markStep (done ++ s :: front) c = markStep done c ++ s :: front := by
        rw [markStep, markStep]
        split
        · rfl
        · exact hs.insertMark_append_cons c _ done front
      rw [List.foldl_cons, hstep, ih, List.foldl_cons]

/-- What stands before the character and behind it is decomposed apart. -/
theorem Apart.nfd_append_cons (cs ds : List Char) :
    nfd (cs ++ s :: ds) = nfd cs ++ s :: nfd ds := by
  have hstep : ∀ done, markStep done s = s :: done := fun _ => if_pos hs.starter
  have hrest := hs.foldl_markStep_append_cons [] ((decompose cs).foldl markStep []) (decompose ds)
  simp only [nfd, orderMarks_eq_foldl, decompose_append, decompose_cons, hs.decomposeChar,
    List.foldl_append, List.foldl_cons, List.foldl_nil, hstep]
  rw [← List.nil_append (s :: _), hrest]
  simp

theorem Apart.composeStep_stateBehind (front : List Char) (state : List Char × Option Pending)
    (c : Char) :
    composeStep (stateBehind s front state) c =
      stateBehind s front (composeStep state c) := by
  obtain ⟨done, _ | p⟩ := state
  · have hnone : (if (Pending.mk s done).blocks (combiningClass c) then none
        else composePair? s c) = none := by
      split
      · rfl
      · exact hs.left c
    by_cases hclass : combiningClass c = 0
    · simp only [stateBehind, composeStep, hnone, if_pos hclass]
      simp [Pending.reversed]
    · simp only [stateBehind, composeStep, hnone, if_neg hclass]
  · simp only [stateBehind, composeStep]
    cases if p.blocks (combiningClass c) then none else composePair? p.starter c with
    | some whole => rfl
    | none =>
        dsimp only
        split
        · simp
        · rfl

/-- Composition goes on behind the character as it does from the beginning. -/
theorem Apart.foldl_composeStep_stateBehind (front : List Char) (state : List Char × Option Pending)
    (cs : List Char) :
    cs.foldl composeStep (stateBehind s front state) =
      stateBehind s front (cs.foldl composeStep state) := by
  induction cs generalizing state with
  | nil => rfl
  | cons c cs ih => rw [List.foldl_cons, hs.composeStep_stateBehind, ih, List.foldl_cons]

/-- What stands before the character and behind it is composed apart. -/
theorem Apart.compose_append_cons (cs ds : List Char) :
    compose (cs ++ s :: ds) = compose cs ++ s :: compose ds := by
  have hstep : ∀ state, composeStep state s =
      stateBehind s (textOf state).reverse ([], none) := by
    rintro ⟨done, _ | p⟩
    · simp [composeStep, stateBehind, textOf, hs.starter]
    · simp [composeStep, stateBehind, textOf, hs.starter, hs.right]
  rw [compose_eq, List.foldl_append, List.foldl_cons, hstep, hs.foldl_composeStep_stateBehind,
    textOf_stateBehind, List.reverse_reverse]
  rfl

/-- What is joined with nothing keeps apart what stands before it and behind it. -/
theorem Apart.nfc_append_cons (cs ds : List Char) :
    nfc (cs ++ s :: ds) = nfc cs ++ s :: nfc ds := by
  rw [nfc, hs.nfd_append_cons, hs.compose_append_cons]
  rfl

end

/-! ## the dot -/

/- The dot of a host name is such a character. The tables are searched once for it. -/

/-- What a character decomposes into is the character itself or stands in a table. -/
theorem mem_expand {depth n : Nat} {d : Char} (h : d ∈ expand depth n) :
    (∃ row ∈ composites, d = Char.ofNat row.2.1 ∨ d = Char.ofNat row.2.2) ∨
      (∃ row ∈ replacements, d ∈ row.2.map Char.ofNat) ∨ d = Char.ofNat n := by
  induction depth generalizing n with
  | zero => exact .inr (.inr (List.mem_singleton.mp h))
  | succ depth ih =>
      rw [expand] at h
      split at h
      · next a b hparts =>
        have hrow := mem_of_rowIn? hparts
        rcases List.mem_append.mp h with h | h
        · rcases ih h with h | h | h
          · exact .inl h
          · exact .inr (.inl h)
          · exact .inl ⟨_, hrow, .inl h⟩
        · exact .inl ⟨_, hrow, .inr (List.mem_singleton.mp h)⟩
      · split at h
        · next parts hparts => exact .inr (.inl ⟨_, mem_of_rowIn? hparts, h⟩)
        · exact .inr (.inr (List.mem_singleton.mp h))

/-- No composite has a dot for a part. -/
theorem dot_notMem_composites :
    ∀ row ∈ composites, '.' ≠ Char.ofNat row.2.1 ∧ '.' ≠ Char.ofNat row.2.2 := by
  decide +kernel

/-- No replacement has a dot in it. -/
theorem dot_notMem_replacements : ∀ row ∈ replacements, '.' ∉ row.2.map Char.ofNat := by
  decide +kernel

/-- The dot is no letter of a syllable. -/
theorem dot_notMem_letters : ∀ n ∈ letters, '.' ≠ Char.ofNat n := by decide +kernel

/-- A dot comes from itself only. -/
theorem dot_of_mem_decomposeChar {c : Char} (h : '.' ∈ decomposeChar c) : c = '.' := by
  rw [decomposeChar] at h
  split at h
  · exact (List.mem_singleton.mp h).symm
  · split at h
    · next hsyllable =>
      obtain ⟨n, hn, heq⟩ := exists_mem_letters hsyllable h
      exact absurd heq (dot_notMem_letters n hn)
    · rcases mem_expand h with ⟨row, hrow, heq⟩ | ⟨row, hrow, hmem⟩ | heq
      · exact absurd heq (not_or.mpr (dot_notMem_composites row hrow))
      · exact absurd hmem (dot_notMem_replacements row hrow)
      · rw [heq, Char.ofNat_toNat]

/-- Normalization neither makes a dot nor drops one. -/
theorem dot_mem_nfc_iff {cs : List Char} : '.' ∈ nfc cs ↔ '.' ∈ cs := by
  have hdecompose : ∀ ds : List Char, '.' ∈ decompose ds ↔ '.' ∈ ds := by
    intro ds
    constructor
    · intro h
      obtain ⟨c, hc, h⟩ := List.mem_flatMap.mp h
      rwa [dot_of_mem_decomposeChar h] at hc
    · exact fun h => List.mem_flatMap.mpr ⟨'.', h, by decide⟩
  rw [← hdecompose, ← mem_nfd_iff, nfd_nfc, mem_nfd_iff, hdecompose]

/-- Characters in front of the marks are none. -/
theorem isMark_of_lt {c : Char} (h : c.toNat < firstSecondPart) : isMark c = false := by
  have hfirst : ∃ last rest, markRanges = (firstSecondPart, last) :: rest := ⟨_, _, rfl⟩
  obtain ⟨last, rest, hranges⟩ := hfirst
  rw [isMark, Ranges.covers, hranges, Ranges.hasPoint, if_pos h]

theorem apart_dot : Apart '.' where
  decomposeChar := by decide
  starter := combiningClass_of_isMark (isMark_of_lt (by decide))
  left := composePair?_of_notMem (by decide) fun row hrow heq =>
    (dot_notMem_composites row hrow).1 (heq ▸ rfl)
  right := fun _ => if_pos (by decide)

/-- A text is normalized between its dots. -/
theorem splitBy_nfc (cs : List Char) :
    splitBy (· = '.') (nfc cs) = (splitBy (· = '.') cs).map nfc := by
  have hpiece : ∀ {ds : List Char}, '.' ∉ ds → splitBy (· = '.') ds = [ds] := fun h =>
    splitBy_of_forall fun c hc => decide_eq_false fun heq => h (heq ▸ hc)
  induction hn : cs.length using Nat.strongRecOn generalizing cs with
  | ind n ih =>
      subst hn
      by_cases hdot : '.' ∈ cs
      · obtain ⟨front, rest, rfl, hfront⟩ := List.eq_append_cons_of_mem hdot
        have hrest := ih rest.length (by simp; omega) rest rfl
        rw [apart_dot.nfc_append_cons, splitBy_append_cons rfl, splitBy_append_cons rfl, hrest,
          hpiece hfront, hpiece (mt dot_mem_nfc_iff.mp hfront)]
        rfl
      · rw [hpiece hdot, hpiece (mt dot_mem_nfc_iff.mp hdot)]
        rfl

/-- The pieces of a composed text between its dots are composed. -/
theorem nfc_of_mem_splitBy {cs piece : List Char} (h : piece ∈ splitBy (· = '.') (nfc cs)) :
    nfc piece = piece := by
  rw [splitBy_nfc] at h
  obtain ⟨ds, -, rfl⟩ := List.mem_map.mp h
  exact nfc_nfc ds

/-! ## ASCII -/

/-- Below the first second part, no neighbours are joined. -/
theorem join_of_forall_lt {cs : List Char} (h : ∀ c ∈ cs, c.toNat < firstSecondPart) :
    join cs = cs := by
  have hfrom : ∀ (cs : List Char) (first : Char), (∀ c ∈ cs, c.toNat < firstSecondPart) →
      joinFrom first cs = first :: cs := by
    intro cs
    induction cs with
    | nil => exact fun _ _ => rfl
    | cons c cs ih =>
        intro first h
        obtain ⟨hc, hcs⟩ := List.forall_mem_cons.mp h
        have hpair : composePair? first c = none := if_pos hc
        rw [joinFrom, hpair]
        exact congrArg (first :: ·) (ih c hcs)
  cases cs with
  | nil => rfl
  | cons c cs => exact hfrom cs c fun d hd => h d (List.mem_cons_of_mem _ hd)

/-- Without characters that have a mapping or are joined a text is composed. -/
theorem nfc_of_forall_lt {cs : List Char} (h : ∀ c ∈ cs, c.toNat < firstMapped) : nfc cs = cs := by
  have hsmall : ∀ c ∈ cs, c.toNat < firstSecondPart := fun c hc =>
    Nat.lt_trans (h c hc) (by decide)
  have hmarkless : Markless cs := fun c hc => isMark_of_lt (hsmall c hc)
  have hself : decompose cs = cs := decompose_of_forall fun c hc => if_pos (h c hc)
  rw [nfc, nfd, hself, orderMarks_of_markless hmarkless, List.reverse_nil, List.nil_append,
    compose_eq_join hmarkless, join_of_forall_lt hsmall]

end SearchRelay.Text.Canonical
