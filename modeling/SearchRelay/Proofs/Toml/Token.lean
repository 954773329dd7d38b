import SearchRelay.Proofs.Toml.Quoted
import SearchRelay.Toml.Token

/-!
# SearchRelay.Proofs.Toml.Token

The tokens of characters that are put together from the texts of tokens.

1. `Cut cs ts` — the characters are cut into these tokens.  A blank, a mark, a
   word and a quoted text in front are one token each, if what follows does not
   go on with them (`Cut.gap`, `Cut.mark`, `Cut.word`, `Cut.text`);
2. `tokens?_of_cut` — these are the tokens of a document in which every character
   may stand.
-/

namespace SearchRelay.Toml

/-- The characters are cut into the tokens. -/
def Cut (cs : List Char) (ts : List Token) : Prop :=
  ∀ fuel, cs.length ≤ fuel → Token.cut? fuel cs = some ts

/-- What follows does not go on with a word or a quoted text. -/
def Breaks (rest : List Char) : Prop :=
  ∀ c ∈ rest.head?, Token.isWordChar c = false ∧ c ≠ '"' ∧ c ≠ '\''

theorem Breaks.cons {c : Char} (h : Token.isWordChar c = false ∧ c ≠ '"' ∧ c ≠ '\'')
    (cs : List Char) : Breaks (c :: cs) := by
  intro d hd
  cases hd
  exact h

/-- What breaks a word opens no quoted text. -/
theorem Breaks.noQuote {rest : List Char} (h : Breaks rest) : Quoted.NoQuote rest :=
  fun c hc => (h c hc).2

def NoGap (rest : List Char) : Prop := ∀ c ∈ rest.head?, Quoted.isGap c = false

namespace Cut

variable {cs rest front : List Char} {ts : List Token}

theorem nil : Cut [] [] := by
  intro fuel _
  cases fuel <;> rfl

theorem cons {c : Char} {token? : Option Token} (hnext : Token.next? c cs = some (token?, rest))
    (hrest : rest.length ≤ cs.length) (h : Cut rest ts) : Cut (c :: cs) (token?.toList ++ ts) := by
  intro fuel hfuel
  cases fuel with
  | zero => exact absurd hfuel (Nat.not_succ_le_zero _)
  | succ fuel =>
      have hmore := h fuel (by simp only [List.length_cons] at hfuel; omega)
      simp [Token.cut?, hnext, hmore]

/-- What passes a test ends where the rest fails it. -/
theorem takeWhile_append {test : Char → Bool} (hfront : ∀ c ∈ front, test c = true)
    (hrest : ∀ c ∈ rest.head?, test c = false) : (front ++ rest).takeWhile test = front := by
  have hstop : rest.takeWhile test = [] := by
    cases rest with
    | nil => rfl
    | cons c rest => simp [hrest c rfl]
  rw [List.takeWhile_append_of_pos hfront, hstop, List.append_nil]

/-- Blanks in front are one gap. -/
theorem gap {c : Char} (hc : Quoted.isGap c = true) (hfront : ∀ c ∈ front, Quoted.isGap c = true)
    (hrest : NoGap rest) (h : Cut rest ts) :
    Cut (c :: (front ++ rest)) (.gap (c = ' ' ∧ front.isEmpty) :: ts) := by
  have hmark : c ≠ '#' := by
    rintro rfl
    exact absurd hc (by decide)
  have hnext : Token.next? c (front ++ rest) =
      some (some (.gap (c = ' ' ∧ front.isEmpty)), rest) := by
    rw [Token.next?, if_neg hmark, if_pos hc, takeWhile_append hfront hrest]
    dsimp only
    rw [List.drop_left]
  exact cons hnext (by simp) h

/-- A space in front of no other blank. -/
theorem space (hrest : NoGap rest) (h : Cut rest ts) : Cut (' ' :: rest) (.gap true :: ts) :=
  @gap rest [] ts ' ' (by decide) nofun hrest h

/-- A word in front. -/
theorem word (hne : front ≠ []) (hfront : ∀ c ∈ front, Token.isWordChar c = true)
    (hrest : ∀ c ∈ rest.head?, Token.isWordChar c = false) (h : Cut rest ts) :
    Cut (front ++ rest) (.word front :: ts) := by
  cases front with
  | nil => exact absurd rfl hne
  | cons c front =>
      obtain ⟨hc, hfront⟩ := List.forall_mem_cons.mp hfront
      have hmark : c ≠ '#' := by
        rintro rfl
        exact absurd hc (by decide)
      have hgap : ¬ Quoted.isGap c = true := by
        intro hgap
        simp only [Quoted.isGap, Bool.or_eq_true, decide_eq_true_eq] at hgap
        rcases hgap with rfl | rfl <;> exact absurd hc (by decide)
      have hnext : Token.next? c (front ++ rest) = some (some (.word (c :: front)), rest) := by
        rw [Token.next?, if_neg hmark, if_neg hgap, if_pos hc, takeWhile_append hfront hrest]
        dsimp only
        rw [List.drop_left]
      exact cons hnext (by simp) h

/-- A quoted text in front. -/
theorem text {shown : List Char} {several : Bool} (hne : front ≠ [])
    (hread : Quoted.read? (front ++ rest) = some (shown, several, rest)) (h : Cut rest ts) :
    Cut (front ++ rest) (.text shown several :: ts) := by
  cases front with
  | nil => exact absurd rfl hne
  | cons c front =>
      rw [List.cons_append] at hread ⊢
      have hquote : c = '"' ∨ c = '\'' := by simpa using Quoted.head_of_read? hread
      have hnext : Token.next? c (front ++ rest) = some (some (.text shown several), rest) := by
        have hmark : c ≠ '#' := by rcases hquote with rfl | rfl <;> decide
        have hgap : ¬ Quoted.isGap c = true := by rcases hquote with rfl | rfl <;> decide
        have hword : ¬ Token.isWordChar c = true := by rcases hquote with rfl | rfl <;> decide
        rw [Token.next?, if_neg hmark, if_neg hgap, if_neg hword, if_pos hquote, hread]
        rfl
      exact cons hnext (by simp) h

/-- A mark in front. -/
theorem mark {c : Char} {token : Token} (hmark : Token.mark? c = some token) (h : Cut cs ts) :
    Cut (c :: cs) (token :: ts) := by
  have hnext : Token.next? c cs = some (some token, cs) := by
    unfold Token.mark? at hmark
    split at hmark
    iterate 7
      · cases hmark
        rfl
    · contradiction
  exact cons hnext (Nat.le_refl _) h

end Cut

/-! ## documents -/

/-- What needs no escape may stand in a document. -/
theorem isAllowed_of_needsEscape {c : Char} (h : Quoted.needsEscape c = false) :
    Token.isAllowed c = true := by
  simp only [Quoted.needsEscape, Bool.or_eq_false_iff, Bool.and_eq_false_iff, bne_eq_false_iff_eq,
    decide_eq_false_iff_not] at h
  obtain ⟨(hlow | rfl) | rfl, hdelete⟩ := h
  · have hprinted : 32 ≤ c.toNat := by omega
    simp [Token.isAllowed, hprinted, hdelete]
  · rfl
  · rfl

/-- Without carriage returns, lines stay as they are. -/
theorem unifyLines?_of_notMem {cs : List Char} (h : '\r' ∉ cs) :
    Token.unifyLines? cs = some cs := by
  induction cs with
  | nil => rfl
  | cons c cs ih =>
      have hne : c ≠ '\r' := fun heq => h (heq ▸ List.mem_cons_self)
      rw [Token.unifyLines?, if_neg hne, ih fun hmem => h (List.mem_cons_of_mem _ hmem)]
      · rfl
      · exact fun _ heq => absurd heq hne

/-- No token begins with a byte order mark. -/
theorem dropMark_of_cut {cs : List Char} {ts : List Token} (h : Cut cs ts) :
    Token.dropMark cs = cs := by
  unfold Token.dropMark
  split
  · next cs =>
    have hnext : Token.next? '\ufeff' cs = none := rfl
    have hcut := h (cs.length + 1) (Nat.le_refl _)
    rw [Token.cut?, hnext] at hcut
    contradiction
  · rfl

/-- The tokens of a document. -/
theorem tokens?_of_cut {cs : List Char} {ts : List Token}
    (hcs : ∀ c ∈ cs, Quoted.needsEscape c = false) (h : Cut cs ts) :
    tokens? (String.ofList cs) = some ts := by
  have hreturn : '\r' ∉ cs := fun hmem => absurd (hcs _ hmem) (by decide)
  have hall : ∀ c ∈ cs, Token.isAllowed c = true := fun c hc => isAllowed_of_needsEscape (hcs c hc)
  have hcharacters : Token.characters? (String.ofList cs) = some cs := by
    rw [Token.characters?, String.toList_ofList, dropMark_of_cut h, unifyLines?_of_notMem hreturn]
    exact if_pos (List.all_eq_true.mpr hall)
  rw [tokens?, hcharacters]
  exact h cs.length (Nat.le_refl _)

end SearchRelay.Toml
