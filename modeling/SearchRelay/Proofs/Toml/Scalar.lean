import SearchRelay.Proofs.Binary64.Nearest
import SearchRelay.Proofs.Json.Number
import SearchRelay.Proofs.Text.Split
import SearchRelay.Toml.Printer
import SearchRelay.Toml.Scalar

/-!
# SearchRelay.Proofs.Toml.Scalar

Numbers and truth values of a TOML document as they are written.

1. `moment?_eq_none` — a word without the marks of dates and times behind its
   first character is none;
2. `ofWord?_integerText`, `ofWord?_doubleText` — the text of a number is read
   back as this number.
-/

namespace SearchRelay.Toml.Scalar

open Json.Written (IsDigits)

variable {ds cs : List Char}

/-! ## digits -/

theorem ne_of_isDigit {c d : Char} (h : c.isDigit = true) (hd : d.isDigit = false) : c ≠ d := by
  rintro rfl
  rw [h] at hd
  contradiction

theorem run?_of_isDigits (h : IsDigits ds) : run? Char.isDigit ds = some ds := by
  have hmark : ∀ c ∈ ds, decide (c = '_') = false := fun c hc =>
    decide_eq_false (ne_of_isDigit (h.2 c hc) (by decide))
  have hall : ds.all Char.isDigit = true := List.all_eq_true.mpr h.2
  rw [run?, Text.splitBy_of_forall hmark]
  simp [h.1, hall]

/-- Digits without a leading zero are a whole number. -/
theorem whole?_of_isDigits (h : IsDigits ds) (hzero : ds.head? = some '0' → ds = ['0']) :
    whole? ds = some ds := by
  rw [whole?, run?_of_isDigits h]
  split
  · next heq =>
    cases heq
    cases hzero rfl
  · rfl

/-- Digits in base ten are the number they spell. -/
theorem numberIn_ten (h : ∀ c ∈ ds, c.isDigit = true) :
    numberIn 10 ds = Nat.ofDigitChars 10 ds 0 := by
  rw [numberIn, Nat.ofDigitChars_eq_foldl]
  generalize 0 = n
  induction ds generalizing n with
  | nil => rfl
  | cons c ds ih =>
      obtain ⟨hc, hds⟩ := List.forall_mem_cons.mp h
      rw [List.foldl_cons, List.foldl_cons, ih hds, Text.Table.digitValue, if_pos hc, Nat.mul_comm]

/-- A sign in front of a digit. -/
theorem splitSign_append (negative : Bool) (h : ∀ c ∈ cs.head?, c.isDigit = true) :
    splitSign ((if negative then ['-'] else []) ++ cs) = (negative, cs) := by
  cases negative with
  | true => rfl
  | false =>
      unfold splitSign
      split
      · next heq =>
        cases cs with
        | nil => cases heq
        | cons c cs =>
            cases heq
            exact absurd (h '-' rfl) (by decide)
      · next heq =>
        cases cs with
        | nil => cases heq
        | cons c cs =>
            cases heq
            exact absurd (h '+' rfl) (by decide)
      · rfl

/-! ## dates and times -/

/-- So many digits are read, and the rest is left. -/
theorem eq_drop_of_digits? {count n : Nat} {rest : List Char}
    (h : Moment.digits? count cs = some (n, rest)) : rest = cs.drop count := by
  unfold Moment.digits? at h
  dsimp only at h
  split at h
  · cases h
    rfl
  · contradiction

/-- A word without hyphens and colons behind its first character is no date and
no time. -/
theorem moment?_eq_none (h : ∀ c ∈ cs.drop 1, c ≠ '-' ∧ c ≠ ':') : moment? cs = none := by
  have hdrop : ∀ {count n : Nat} {c : Char} {rest : List Char}, 1 ≤ count →
      Moment.digits? count cs = some (n, c :: rest) → c ≠ '-' ∧ c ≠ ':' := by
    intro count n c rest hcount hdigits
    refine h c ?_
    have hsub : (cs.drop count).Sublist (cs.drop 1) := List.drop_sublist_drop_left cs hcount
    exact hsub.subset (eq_drop_of_digits? hdigits ▸ List.mem_cons_self)
  have hdate : Moment.date? cs = none := by
    unfold Moment.date?
    cases hdigits : Moment.digits? 4 cs with
    | none => rfl
    | some read =>
        obtain ⟨year, rest⟩ := read
        cases rest with
        | nil => rfl
        | cons c rest =>
            have hc := (hdrop (by decide) hdigits).1
            simp [hc]
  have htime : Moment.time? cs = none := by
    unfold Moment.time?
    cases hdigits : Moment.digits? 2 cs with
    | none => rfl
    | some read =>
        obtain ⟨hour, rest⟩ := read
        cases rest with
        | nil => rfl
        | cons c rest =>
            have hc := (hdrop (by decide) hdigits).2
            simp [hc]
  rw [moment?, Moment.text?, hdate, htime]
  rfl

/-! ## integers -/

/- A word is tried as a date, then as a decimal number, and then in other bases. Digits
are no date, because they have neither a hyphen nor a colon where a date has one. -/

def signChars (negative : Bool) : List Char := if negative then ['-'] else []

theorem digit_head? (h : IsDigits ds) : ∀ c ∈ ds.head?, c.isDigit = true := fun c hc =>
  h.2 c (List.mem_of_head? hc)

theorem drop_signChars (negative : Bool) (h : ∀ c ∈ cs, c ≠ '-' ∧ c ≠ ':') :
    ∀ c ∈ (signChars negative ++ cs).drop 1, c ≠ '-' ∧ c ≠ ':' := by
  intro c hc
  refine h c ?_
  cases negative with
  | true => exact hc
  | false => exact List.mem_of_mem_drop hc

/-- Digits alone are no date and no time. -/
theorem moment?_of_isDigits (negative : Bool) (h : IsDigits ds) :
    moment? (signChars negative ++ ds) = none :=
  moment?_eq_none <| drop_signChars negative fun c hc =>
    ⟨ne_of_isDigit (h.2 c hc) (by decide), ne_of_isDigit (h.2 c hc) (by decide)⟩

/-- What a number has in front of its exponent, if it has none. -/
theorem takeWhile_mantissa (h : ∀ c ∈ cs, c ≠ 'e' ∧ c ≠ 'E') :
    (cs.takeWhile fun c => !decide (c = 'e') && !decide (c = 'E')) = cs := by
  have hall : ∀ c ∈ cs, (!decide (c = 'e') && !decide (c = 'E')) = true := by simpa using h
  have happend := @List.takeWhile_append_of_pos _ _ cs [] hall
  rwa [List.append_nil, List.takeWhile_nil, List.append_nil] at happend

/-- Digits without a point and an exponent are no float. -/
theorem decimal?_of_isDigits (negative : Bool) (h : IsDigits ds) :
    decimal? (signChars negative ++ ds) = none := by
  have hsign := splitSign_append negative (digit_head? h)
  have hmantissa := takeWhile_mantissa fun c hc =>
    ⟨ne_of_isDigit (h.2 c hc) (by decide), ne_of_isDigit (h.2 c hc) (by decide)⟩
  have hpoint : ∀ c ∈ ds, decide (c = '.') = false := fun c hc =>
    decide_eq_false (ne_of_isDigit (h.2 c hc) (by decide))
  rw [signChars, decimal?, hsign]
  simp [hmantissa, Text.splitBy_of_forall hpoint]

/-- Digits are no hexadecimal, octal or binary number. -/
theorem integer?_of_isDigits (negative : Bool) (h : IsDigits ds)
    (hzero : ds.head? = some '0' → ds = ['0']) :
    integer? (signChars negative ++ ds) =
      inRange?
        (if negative then -(Nat.ofDigitChars 10 ds 0 : Int) else Nat.ofDigitChars 10 ds 0) := by
  have hsign := splitSign_append negative (digit_head? h)
  have hother : ∀ {c : Char} {rest : List Char}, c.isDigit = false →
      signChars negative ++ ds ≠ '0' :: c :: rest := by
    intro c rest hc heq
    cases negative with
    | true => cases heq
    | false =>
        have hds : ds = '0' :: c :: rest := heq
        exact absurd rfl (ne_of_isDigit (h.2 c (by simp [hds])) hc)
  unfold integer?
  split
  · next heq => exact absurd heq (hother (by decide))
  · next heq => exact absurd heq (hother (by decide))
  · next heq => exact absurd heq (hother (by decide))
  · rw [signChars, hsign]
    simp only [whole?_of_isDigits h hzero, numberIn_ten h.2, Option.bind_some]

/-- An integer of 64 bits is read back. -/
theorem ofWord?_integerText {i : Int} (h : leastInteger ≤ i ∧ i < integerEnd) :
    ofWord? (Json.integerText i) = some (.integer i) := by
  have hdigits := Json.isDigits_toDigits i.natAbs
  have htext : Json.integerText i = signChars (decide (i < 0)) ++ Nat.toDigits 10 i.natAbs := by
    simp [Json.integerText, signChars]
  have hzero : (Nat.toDigits 10 i.natAbs).head? = some '0' → Nat.toDigits 10 i.natAbs = ['0'] := by
    intro hhead
    rw [Json.head_toDigits hhead]
    rfl
  have hvalue : (if decide (i < 0) then -(i.natAbs : Int) else i.natAbs) = i := by
    simp only [decide_eq_true_eq]
    omega
  rw [ofWord?, htext, moment?_of_isDigits _ hdigits, decimal?_of_isDigits _ hdigits,
    integer?_of_isDigits _ hdigits hzero, Nat.ofDigitChars_ten_toDigits, hvalue, inRange?, if_pos h]
  rfl

/-! ## floats -/

section

variable {whole fraction : List Char} {x : Binary64}

theorem mem_pointed {c : Char} (hwhole : IsDigits whole) (hfraction : IsDigits fraction)
    (h : c ∈ whole ++ '.' :: fraction) : c.isDigit = true ∨ c = '.' := by
  rw [List.mem_append, List.mem_cons] at h
  rcases h with h | h | h
  · exact .inl (hwhole.2 c h)
  · exact .inr h
  · exact .inl (hfraction.2 c h)

/-- Digits around a point are no date and no time, and they have no exponent. -/
theorem ne_of_mem_pointed (hwhole : IsDigits whole) (hfraction : IsDigits fraction) {d : Char}
    (hdigit : d.isDigit = false) (hpoint : d ≠ '.') : ∀ c ∈ whole ++ '.' :: fraction, c ≠ d := by
  rintro c hc rfl
  rcases mem_pointed hwhole hfraction hc with h | h
  · rw [hdigit] at h
    contradiction
  · exact hpoint h

/-- The shortest digits of a double, with a point among them, are read as the double. -/
theorem float?_of_pointedDigits (h : Json.PointedDigits x.shortest whole fraction) :
    float? x.negative whole fraction 0 = some (.double x) := by
  obtain ⟨zeros, hdigits, hexponent⟩ := h.value
  have hall : ∀ c ∈ whole ++ fraction, c.isDigit = true := fun c hc =>
    (List.mem_append.mp hc).elim (h.isDigits_whole.2 c) (h.isDigits_fraction.2 c)
  have hrank : Binary64.Decimal.rank
      ⟨numberIn 10 (whole ++ fraction), 0 - fraction.length⟩ = x.rank := by
    have hsum : 0 - (fraction.length : Int) + zeros = x.shortest.exponent := by omega
    rw [numberIn_ten hall, hdigits, Binary64.Decimal.rank_shift, hsum]
    exact Binary64.rank_shortest x
  rw [float?]
  simp only [Binary64.nearestDecimal?_of_rank hrank]

/-- Digits with a point are a float. -/
theorem decimal?_of_pointedDigits (negative : Bool) {d : Binary64.Decimal}
    (h : Json.PointedDigits d whole fraction) :
    decimal? (signChars negative ++ (whole ++ '.' :: fraction)) =
      float? negative whole fraction 0 := by
  have hne := @ne_of_mem_pointed _ _ h.isDigits_whole h.isDigits_fraction
  have hhead : ∀ c ∈ (whole ++ '.' :: fraction).head?, c.isDigit = true := by
    intro c hc
    cases hwhole : whole with
    | nil => exact absurd hwhole h.isDigits_whole.1
    | cons first rest =>
        rw [hwhole] at hc
        exact digit_head? h.isDigits_whole c (hwhole ▸ hc)
  have hsign := splitSign_append negative hhead
  have hmantissa := takeWhile_mantissa fun c hc =>
    ⟨hne (by decide) (by decide) c hc, hne (by decide) (by decide) c hc⟩
  have hpieces : Text.splitBy (· = '.') (whole ++ '.' :: fraction) = [whole, fraction] := by
    rw [Text.splitBy_append_cons (by decide), Text.splitBy_of_forall, Text.splitBy_of_forall]
    · rfl
    · exact fun c hc => decide_eq_false (ne_of_isDigit (h.isDigits_fraction.2 c hc) (by decide))
    · exact fun c hc => decide_eq_false (ne_of_isDigit (h.isDigits_whole.2 c hc) (by decide))
  rw [signChars, decimal?, hsign]
  simp [hmantissa, hpieces, whole?_of_isDigits h.isDigits_whole h.noLeadingZero,
    run?_of_isDigits h.isDigits_fraction]

/-- A double is read back. -/
theorem ofWord?_doubleText (x : Binary64) : ofWord? (Value.doubleText x) = some (.double x) := by
  obtain ⟨whole, fraction, hparts, htext⟩ :=
    Json.exists_positional (@Binary64.shortest_digits_eq_zero x)
  have hne := @ne_of_mem_pointed _ _ hparts.isDigits_whole hparts.isDigits_fraction
  have hmoment : moment? (signChars x.negative ++ (whole ++ '.' :: fraction)) = none :=
    moment?_eq_none <| drop_signChars x.negative fun c hc =>
      ⟨hne (by decide) (by decide) c hc, hne (by decide) (by decide) c hc⟩
  have hword : Value.doubleText x = signChars x.negative ++ (whole ++ '.' :: fraction) := by
    rw [Value.doubleText, htext, signChars]
  rw [ofWord?, hword, hmoment, decimal?_of_pointedDigits _ hparts, float?_of_pointedDigits hparts]
  rfl

end

/-! ## truth values -/

/-- A truth value is read from its word. -/
theorem ofWord?_boolean (b : Bool) : ofWord? (Value.boolean b).text = some (.boolean b) := by
  cases b <;> rfl

end SearchRelay.Toml.Scalar
