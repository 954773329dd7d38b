import SearchRelay.Json.Printer
import SearchRelay.Json.Token
import SearchRelay.Proofs.Binary64.Decimal

/-!
# SearchRelay.Proofs.Json.Number

Numbers of JSON as they are written.

A written number is a sign, a whole part, and perhaps a fraction and an
exponent (`Written`).

1. `scanNumber_chars` — it is read back part by part, up to where it ends;
2. `written_text` — every number is written in this form;
3. `scanToken_number` — so the text of a number is one token, which holds
   `readBack` of it.
-/

namespace SearchRelay.Json

/-! ## digits -/

def NoDigit (rest : List Char) : Prop := ∀ c ∈ rest.head?, c.isDigit = false

theorem NoDigit.cons {c : Char} {rest : List Char} (h : c.isDigit = false) :
    NoDigit (c :: rest) := by
  rintro _ ⟨⟩
  exact h

/-- The digits of a text end where no digit follows. -/
theorem digits_append {ds rest : List Char} (hds : ∀ c ∈ ds, c.isDigit = true)
    (hrest : NoDigit rest) : digits (ds ++ rest) = ds.map digitValue := by
  have htake : rest.takeWhile Char.isDigit = [] := by
    cases rest with
    | nil => rfl
    | cons c rest => rw [List.takeWhile_cons, hrest c rfl]; rfl
  rw [digits, List.takeWhile_append_of_pos hds, htake, List.append_nil]

/-- What is left after the digits starts where no digit follows. -/
theorem afterDigits_append {ds rest : List Char} (hds : ∀ c ∈ ds, c.isDigit = true)
    (hrest : NoDigit rest) : afterDigits (ds ++ rest) = rest := by
  have hdrop : rest.dropWhile Char.isDigit = rest := by
    cases rest with
    | nil => rfl
    | cons c rest => rw [List.dropWhile_cons, hrest c rfl]; rfl
  rw [afterDigits, List.dropWhile_append_of_pos hds, hdrop]

/-- The decimal digits of a number are digit characters. -/
theorem isDigit_toDigits {n : Nat} : ∀ c ∈ Nat.toDigits 10 n, c.isDigit = true :=
  fun _ hc => Nat.isDigit_of_mem_toDigits (by decide) (by decide) hc

/-- Only zero begins with the digit zero. -/
theorem head_toDigits {n : Nat} (h : (Nat.toDigits 10 n).head? = some '0') : n = 0 := by
  induction n using Nat.strongRecOn with
  | ind n ih =>
      by_cases hsmall : n < 10
      · rw [Nat.toDigits_of_lt_base hsmall] at h
        have hvalue := Nat.toNat_digitChar_sub_48_of_lt_ten hsmall
        rw [Option.some.inj h] at hvalue
        exact hvalue.symm
      · have hlarge : 10 ≤ n := Nat.le_of_not_lt hsmall
        rw [Nat.toDigits_of_base_le (by decide) hlarge, List.head?_append] at h
        have hfront : (Nat.toDigits 10 (n / 10)).head? = some '0' := by
          cases hdigits : Nat.toDigits 10 (n / 10) with
          | nil => exact absurd hdigits Nat.toDigits_ne_nil
          | cons c cs => simpa [hdigits] using h
        have hquotient := ih (n / 10) (by omega) hfront
        omega

/-- Zero is the only digit with the value zero. -/
theorem digitValue_eq_zero_iff {c : Char} (h : c.isDigit = true) : digitValue c = 0 ↔ c = '0' := by
  have hlow : '0'.toNat ≤ c.toNat := (Char.isDigit_iff_toNat.mp h).1
  constructor
  · exact fun hzero => Char.toNat_inj.mp (Nat.le_antisymm (Nat.le_of_sub_eq_zero hzero) hlow)
  · rintro rfl
    rfl

/-! ## the form of a number -/

/- The grammar of a number has optional parts, each with its own first character. What
follows must not begin another part, which is what `Ends` says. -/

/-- A number as it is written. -/
structure Written where
  negative : Bool
  whole : List Char
  fraction : Option (List Char)
  /-- Whether the exponent is negative, and its digits. -/
  exponent : Option (Bool × List Char)

namespace Written

def IsDigits (ds : List Char) : Prop := ds ≠ [] ∧ ∀ c ∈ ds, c.isDigit = true

/-- No part is empty, and a whole part that begins with zero is zero. -/
structure Valid (w : Written) : Prop where
  whole : IsDigits w.whole
  noLeadingZero : w.whole.head? = some '0' → w.whole = ['0']
  fraction : ∀ ds ∈ w.fraction, IsDigits ds
  exponent : ∀ e ∈ w.exponent, IsDigits e.2

/-- The text of an exponent. -/
def exponentChars (e : Bool × List Char) : List Char :=
  'e' :: (if e.1 then '-' else '+') :: e.2

/-- The text behind the sign. -/
def unsignedChars (w : Written) : List Char :=
  w.whole ++ (w.fraction.elim [] ('.' :: ·) ++ w.exponent.elim [] exponentChars)

def chars (w : Written) : List Char := (if w.negative then ['-'] else []) ++ w.unsignedChars

/-- The value of an exponent. -/
def exponentValue (e : Bool × List Char) : Int :=
  (if e.1 then -1 else 1) *
    ((e.2.map digitValue).foldl (fun n d => n * 10 + d) (0 : Nat) : Nat)

/-- The parts that are read. -/
def parts (w : Written) : NumberParts :=
  ⟨w.negative, w.whole.map digitValue, w.fraction.map (List.map digitValue),
    w.exponent.map exponentValue⟩

end Written

/-- What follows does not go on with a number. -/
def Ends (rest : List Char) : Prop :=
  ∀ c ∈ rest.head?, c.isDigit = false ∧ c ≠ '.' ∧ c ≠ 'e' ∧ c ≠ 'E'

theorem Ends.noDigit {rest : List Char} (h : Ends rest) : NoDigit rest := fun c hc => (h c hc).1

theorem ends_nil : Ends [] := fun _ h => nomatch h

/-- A written exponent is scanned whole, present or not. -/
theorem scanExponent_chars {e : Option (Bool × List Char)} {rest : List Char}
    (he : ∀ p ∈ e, Written.IsDigits p.2) (hrest : Ends rest) :
    scanExponent (e.elim [] Written.exponentChars ++ rest) =
      some (e.map Written.exponentValue, rest) := by
  cases e with
  | none =>
      cases rest with
      | nil => rfl
      | cons c rest =>
          obtain ⟨-, -, hlower, hupper⟩ := hrest c rfl
          simp only [Option.elim_none, List.nil_append, Option.map_none, scanExponent]
          rw [if_neg (not_or.mpr ⟨hlower, hupper⟩)]
  | some p =>
      obtain ⟨negative, ds⟩ := p
      obtain ⟨hne, hds⟩ : Written.IsDigits ds := he _ rfl
      have hsign : scanSign ((if negative then '-' else '+') :: (ds ++ rest)) =
          (if negative then -1 else 1, ds ++ rest) := by
        cases negative <;> rfl
      simp only [Option.elim_some, Written.exponentChars, List.cons_append, scanExponent, true_or,
        if_true, hsign, digits_append hds hrest.noDigit, afterDigits_append hds hrest.noDigit]
      split
      · next hnil => exact absurd (List.map_eq_nil_iff.mp hnil) hne
      · next ds' _ => rfl

/-- A written fraction is scanned whole, present or not. -/
theorem scanFraction_chars {f : Option (List Char)} {rest : List Char}
    (hf : ∀ ds ∈ f, Written.IsDigits ds) (hdigit : NoDigit rest)
    (hpoint : rest.head? ≠ some '.') :
    scanFraction (f.elim [] ('.' :: ·) ++ rest) = some (f.map (List.map digitValue), rest) := by
  cases f with
  | none =>
      rw [Option.elim_none, List.nil_append, scanFraction]
      · rfl
      · rintro tail rfl
        exact hpoint rfl
  | some ds =>
      obtain ⟨hne, hds⟩ := hf ds rfl
      simp only [Option.elim_some, List.cons_append, scanFraction, digits_append hds hdigit,
        afterDigits_append hds hdigit]
      split
      · next hnil => exact absurd (List.map_eq_nil_iff.mp hnil) hne
      · rfl

/-- A written number is read back part by part. -/
theorem scanNumber_chars {w : Written} {rest : List Char} (hw : w.Valid) (hrest : Ends rest) :
    scanNumber (w.chars ++ rest) = some (w.parts, rest) := by
  have hexponent := scanExponent_chars hw.exponent hrest
  -- the exponent begins with a letter, so it ends the digits in front of it
  have hafter : NoDigit (w.exponent.elim [] Written.exponentChars ++ rest) ∧
      (w.exponent.elim [] Written.exponentChars ++ rest).head? ≠ some '.' := by
    cases w.exponent with
    | none =>
        refine ⟨hrest.noDigit, fun hpoint => ?_⟩
        exact (hrest '.' hpoint).2.1 rfl
    | some e => exact ⟨NoDigit.cons (by decide), by simp [Written.exponentChars]⟩
  have hfraction := scanFraction_chars hw.fraction hafter.1 hafter.2
  have hbehind : NoDigit (w.fraction.elim [] ('.' :: ·) ++
      (w.exponent.elim [] Written.exponentChars ++ rest)) := by
    cases w.fraction with
    | none => exact hafter.1
    | some ds => exact NoDigit.cons (by decide)
  have hdigits := digits_append hw.whole.2 hbehind
  have hmore := afterDigits_append hw.whole.2 hbehind
  have hunsigned : scanUnsigned w.negative (w.unsignedChars ++ rest) = some (w.parts, rest) := by
    rw [Written.unsignedChars, List.append_assoc, List.append_assoc, scanUnsigned, hdigits, hmore]
    rw [if_neg]
    · simp only [hfraction, hexponent, Option.bind_eq_bind, Option.bind_some, Option.pure_def]
      rfl
    · rintro (hnil | ⟨hzero, hlong⟩)
      · exact hw.whole.1 (List.map_eq_nil_iff.mp hnil)
      · have hhead : w.whole.head? = some '0' := by
          cases hwhole : w.whole with
          | nil => exact absurd hwhole hw.whole.1
          | cons c cs =>
              have hc : c.isDigit = true := hw.whole.2 c (by simp [hwhole])
              rw [hwhole] at hzero
              have hvalue : digitValue c = 0 := Option.some.inj hzero
              rw [List.head?_cons, (digitValue_eq_zero_iff hc).mp hvalue]
        rw [hw.noLeadingZero hhead] at hlong
        exact absurd hlong (by decide)
  have hminus : scanMinus (w.chars ++ rest) = (w.negative, w.unsignedChars ++ rest) := by
    cases hnegative : w.negative with
    | true => simp [Written.chars, hnegative, scanMinus]
    | false =>
        simp only [Written.chars, hnegative, Bool.false_eq_true, if_false, List.nil_append]
        -- a digit is no minus sign
        cases hwhole : w.whole with
        | nil => exact absurd hwhole hw.whole.1
        | cons c cs =>
            have hc : c.isDigit = true := hw.whole.2 c (by simp [hwhole])
            simp only [Written.unsignedChars, hwhole, List.cons_append]
            rw [scanMinus]
            rintro tail ⟨rfl, -⟩
            exact absurd hc (by decide)
  rw [scanNumber, hminus]
  exact hunsigned

/-! ## the text of a number -/

/- A double is written with a point or with an exponent, depending on where the point
falls in its digits; an integer is written with its digits only. -/

/-- A number has digits, and all its characters are digits. -/
theorem isDigits_toDigits (n : Nat) : Written.IsDigits (Nat.toDigits 10 n) :=
  ⟨Nat.toDigits_ne_nil, isDigit_toDigits⟩

/-- The text of an integer. -/
def writtenInteger (i : Int) : Written := ⟨decide (i < 0), Nat.toDigits 10 i.natAbs, none, none⟩

/-- An integer is written in the grammar's form. -/
theorem writtenInteger_valid (i : Int) : (writtenInteger i).Valid where
  whole := isDigits_toDigits _
  noLeadingZero := by
    intro hhead
    have hzero : i.natAbs = 0 := head_toDigits hhead
    rw [writtenInteger, hzero]
    rfl
  fraction := fun _ h => nomatch h
  exponent := fun _ h => nomatch h

/-- The form an integer is written in is its text. -/
theorem writtenInteger_chars (i : Int) : (writtenInteger i).chars = integerText i := by
  simp [writtenInteger, Written.chars, Written.unsignedChars, integerText]

section

open Binary64

/-- Zeros after digits are digits. -/
theorem isDigits_append_replicate {ds : List Char} (n : Nat) (h : Written.IsDigits ds) :
    Written.IsDigits (ds ++ List.replicate n '0') := by
  refine ⟨by simp [h.1], fun c hc => ?_⟩
  rcases List.mem_append.mp hc with hc | hc
  · exact h.2 c hc
  · rw [(List.mem_replicate.mp hc).2]
    rfl

/-- Zeros before digits are digits. -/
theorem isDigits_replicate_append {ds : List Char} (n : Nat) (h : Written.IsDigits ds) :
    Written.IsDigits (List.replicate n '0' ++ ds) := by
  refine ⟨by simp [h.1], fun c hc => ?_⟩
  rcases List.mem_append.mp hc with hc | hc
  · rw [(List.mem_replicate.mp hc).2]
    rfl
  · exact h.2 c hc

/-- The digits of a decimal are digits. -/
theorem isDigits_digitChars (d : Decimal) : Written.IsDigits d.digitChars := isDigits_toDigits _

theorem isDigits_zero : Written.IsDigits ['0'] := ⟨by simp, by simp [Char.isDigit]⟩

/-- The digits on both sides of the point of a decimal.  Read without the point
they are its digits, perhaps with zeros behind. -/
structure PointedDigits (d : Decimal) (whole fraction : List Char) : Prop where
  isDigits_whole : Written.IsDigits whole
  isDigits_fraction : Written.IsDigits fraction
  noLeadingZero : whole.head? = some '0' → whole = ['0']
  value : ∃ zeros : Nat,
    Nat.ofDigitChars 10 (whole ++ fraction) 0 = d.digits * tenTo zeros ∧
      d.exponent = zeros - fraction.length

/-- The digits of a decimal spell its significand. -/
theorem ofDigitChars_digitChars (d : Decimal) : Nat.ofDigitChars 10 d.digitChars 0 = d.digits :=
  Nat.ofDigitChars_ten_toDigits

/-- A magnitude is written positionally with digits on both sides of the
point. -/
theorem exists_positional {d : Decimal} (h : d.digits = 0 → d = ⟨0, 0⟩) :
    ∃ whole fraction, PointedDigits d whole fraction ∧
      d.positional = whole ++ '.' :: fraction := by
  have hdigits := isDigits_digitChars d
  have hlength : 0 < d.digitChars.length := List.length_pos_iff.mpr hdigits.1
  have hhead : d.digitChars.head? = some '0' → d = ⟨0, 0⟩ := fun hhead => h (head_toDigits hhead)
  have hleading : d.leading = d.exponent + d.digitChars.length - 1 := rfl
  unfold Decimal.positional
  dsimp only
  split
  · refine ⟨['0'], List.replicate (-d.leading - 1).toNat '0' ++ d.digitChars, ?_, rfl⟩
    refine ⟨isDigits_zero, isDigits_replicate_append _ hdigits, fun _ => rfl, 0, ?_, ?_⟩
    · rw [List.singleton_append, Nat.ofDigitChars_cons, Nat.ofDigitChars_append,
        Nat.ofDigitChars_replicate_zero]
      exact (ofDigitChars_digitChars d).trans (Nat.mul_one _).symm
    · rw [List.length_append, List.length_replicate]
      omega
  · split
    · next hshort =>
      refine ⟨d.digitChars ++ List.replicate (d.leading.toNat + 1 - d.digitChars.length) '0',
        ['0'], ?_, by simp⟩
      refine ⟨isDigits_append_replicate _ hdigits, isDigits_zero, ?_,
        d.leading.toNat + 1 - d.digitChars.length + 1, ?_, ?_⟩
      · -- only zero begins with the digit zero, and zero has no power of ten
        intro hzero
        have hfirst : d.digitChars.head? = some '0' := by
          cases hds : d.digitChars with
          | nil => exact absurd hds hdigits.1
          | cons c cs => simpa [hds] using hzero
        rw [hhead hfirst]
        rfl
      · have hzeros : ∀ n, List.replicate n '0' ++ ['0'] = List.replicate (n + 1) '0' :=
          fun n => List.replicate_succ'.symm
        rw [List.append_assoc, hzeros, Nat.ofDigitChars_append, Nat.ofDigitChars_replicate_zero,
          ofDigitChars_digitChars]
        exact Nat.mul_comm _ _
      · rw [List.length_singleton]
        omega
    · next hlong =>
      refine ⟨d.digitChars.take (d.leading.toNat + 1), d.digitChars.drop (d.leading.toNat + 1),
        ?_, rfl⟩
      refine ⟨⟨?_, fun c hc => hdigits.2 c (List.mem_of_mem_take hc)⟩,
        ⟨?_, fun c hc => hdigits.2 c (List.mem_of_mem_drop hc)⟩, ?_, 0, ?_, ?_⟩
      · exact fun hnil => (List.take_eq_nil_iff.mp hnil).elim (by omega) hdigits.1
      · exact fun hnil => hlong (List.drop_eq_nil_iff.mp hnil)
      · intro hzero
        rw [List.head?_take, if_neg (by omega)] at hzero
        rw [hhead hzero] at hlong
        exact absurd (by decide) hlong
      · rw [List.take_append_drop, ofDigitChars_digitChars]
        exact (Nat.mul_one _).symm
      · rw [List.length_drop]
        omega

/-- A magnitude written positionally has the form of a number. -/
theorem written_positional {d : Decimal} (h : d.digits = 0 → d = ⟨0, 0⟩) (negative : Bool) :
    ∃ w : Written, w.Valid ∧ w.negative = negative ∧ w.unsignedChars = d.positional := by
  obtain ⟨whole, fraction, hparts, htext⟩ := exists_positional h
  refine ⟨⟨negative, whole, some fraction, none⟩, ?_, rfl, ?_⟩
  · refine ⟨hparts.isDigits_whole, hparts.noLeadingZero, ?_, fun _ h => nomatch h⟩
    rintro _ ⟨⟩
    exact hparts.isDigits_fraction
  · rw [htext]
    simp [Written.unsignedChars]

/-- A magnitude written scientifically has the form of a number. -/
theorem written_scientific (d : Decimal) (negative : Bool) :
    ∃ w : Written, w.Valid ∧ w.negative = negative ∧ w.unsignedChars = d.scientific := by
  have hdigits := isDigits_digitChars d
  let exponent := some (decide (d.leading < 0), Nat.toDigits 10 d.leading.natAbs)
  have hexponent : ∀ e ∈ exponent, Written.IsDigits e.2 := by
    intro e he
    rw [← Option.some.inj he]
    exact isDigits_toDigits _
  unfold Decimal.scientific
  dsimp only
  split
  · next hnil => exact absurd hnil hdigits.1
  · next c hc =>
    refine ⟨⟨negative, [c], none, exponent⟩, ?_, rfl, ?_⟩
    · refine ⟨hc ▸ hdigits, ?_, (fun _ h => nomatch h), hexponent⟩
      exact fun hzero => by rw [Option.some.inj hzero]
    · simp [Written.unsignedChars, Written.exponentChars, exponent]
  · next c cs hne hc =>
    refine ⟨⟨negative, [c], some cs, exponent⟩, ?_, rfl, ?_⟩
    · have hfirst : c.isDigit = true := hdigits.2 c (by simp [hc])
      refine ⟨⟨by simp, by simpa using hfirst⟩, ?_, ?_, hexponent⟩
      · exact fun hzero => by rw [Option.some.inj hzero]
      · rintro _ ⟨⟩
        exact ⟨hne, fun b hb => hdigits.2 b (by simp [hc, hb])⟩
    · simp [Written.unsignedChars, Written.exponentChars, exponent]

end

/-- Every number is written in the form of a number. -/
theorem written_text (n : Number) : ∃ w : Written, w.Valid ∧ w.chars = n.text := by
  cases n with
  | integer i => exact ⟨writtenInteger i, writtenInteger_valid i, writtenInteger_chars i⟩
  | double x =>
      have hmagnitude : ∃ w : Written, w.Valid ∧ w.negative = x.negative ∧
          w.unsignedChars = magnitudeText x.shortest := by
        unfold magnitudeText
        split
        · exact written_positional Binary64.shortest_digits_eq_zero x.negative
        · exact written_scientific x.shortest x.negative
      obtain ⟨w, hvalid, hnegative, hchars⟩ := hmagnitude
      refine ⟨w, hvalid, ?_⟩
      rw [Written.chars, hnegative, hchars]
      rfl

/-- What a number may be written with. -/
theorem isDigit_or_mem_of_mem_text {n : Number} {c : Char} (h : c ∈ n.text) :
    c.isDigit = true ∨ c ∈ ['-', '+', '.', 'e'] := by
  obtain ⟨w, hw, hchars⟩ := written_text n
  rw [← hchars, Written.chars, Written.unsignedChars, List.mem_append, List.mem_append,
    List.mem_append] at h
  rcases h with h | h | h | h
  · split at h
    · rw [List.mem_singleton.mp h]
      exact .inr (by decide)
    · contradiction
  · exact .inl (hw.whole.2 c h)
  · cases hf : w.fraction with
    | none => simp [hf] at h
    | some ds =>
        rw [hf, Option.elim_some, List.mem_cons] at h
        rcases h with rfl | h
        · exact .inr (by decide)
        · exact .inl ((hw.fraction ds hf).2 c h)
  · cases he : w.exponent with
    | none => simp [he] at h
    | some e =>
        rw [he, Option.elim_some, Written.exponentChars, List.mem_cons, List.mem_cons] at h
        rcases h with rfl | rfl | h
        · exact .inr (by decide)
        · exact .inr (by split <;> decide)
        · exact .inl ((hw.exponent e he).2 c h)

/-! ## reading it back -/

/-- What the text of a number reads back as; nothing if it is too large. -/
def Number.readBack (n : Number) : Option Number :=
  (scanNumber n.text).bind fun read => read.1.value?

/-- The text of a number is scanned whole, and the parts have the value that is read back.
-/
theorem scanNumber_text (n : Number) {rest : List Char} (h : Ends rest) :
    ∃ parts, scanNumber (n.text ++ rest) = some (parts, rest) ∧ parts.value? = n.readBack := by
  obtain ⟨w, hvalid, hchars⟩ := written_text n
  have halone := scanNumber_chars hvalid ends_nil
  rw [List.append_nil] at halone
  refine ⟨w.parts, ?_, ?_⟩
  · rw [← hchars]
    exact scanNumber_chars hvalid h
  · rw [Number.readBack, ← hchars, halone]
    rfl

/-- A number begins with a minus sign or a digit. -/
theorem head_text (n : Number) :
    ∃ c cs, n.text = c :: cs ∧ ∀ d : Char, d ≠ '-' → d.isDigit = false → c ≠ d := by
  obtain ⟨w, hvalid, hchars⟩ := written_text n
  rw [← hchars, Written.chars]
  cases w.negative with
  | true => exact ⟨'-', _, rfl, fun d hminus _ heq => hminus heq.symm⟩
  | false =>
      cases hwhole : w.whole with
      | nil => exact absurd hwhole hvalid.whole.1
      | cons c cs =>
          have hc : c.isDigit = true := hvalid.whole.2 c (by simp [hwhole])
          rw [Written.unsignedChars, hwhole]
          refine ⟨c, _, rfl, ?_⟩
          rintro d _ hdigit rfl
          rw [hdigit] at hc
          contradiction

/-- The text of a number is one token. -/
theorem scanToken_number (n : Number) {rest : List Char} (h : Ends rest) :
    scanToken (n.text ++ rest) = some (.number n.readBack, rest) := by
  obtain ⟨parts, hparts, hvalue⟩ := scanNumber_text n h
  obtain ⟨c, cs, htext, hother⟩ := head_text n
  rw [htext, List.cons_append] at hparts ⊢
  unfold scanToken
  split
  iterate 10
    · next heq =>
      have hc := (List.cons.inj heq).1
      exact absurd hc (hother _ (by decide) (by decide))
  · rw [hparts, ← hvalue]
    rfl

end SearchRelay.Json
