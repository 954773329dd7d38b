import SearchRelay.Json.Printer
import SearchRelay.Json.Token

/-!
# SearchRelay.Proofs.Json.Quote

Strings of JSON as they are written.

1. `scanUnits_flatMap_escapeChar` — a written string is read back up to its
   closing quotation mark, whatever follows it;
2. `scanToken_quote` — so it is one token, which holds the string;
3. `Plain` — the strings that are written as they are.
-/

namespace SearchRelay.Json

/-! ## characters -/

/-- A hexadecimal digit is read as the number it was written for. -/
theorem hexValue?_hexDigit {n : Nat} (h : n < 16) : hexValue? (hexDigit n) = some n := by
  revert n
  decide

/-- One character is read back. -/
theorem scanUnits_escapeChar (c : Char) (rest : List Char) :
    scanUnits (escapeChar c ++ rest) =
      (scanUnits rest).map fun read => (c.toNat :: read.1, read.2) := by
  unfold escapeChar
  iterate 7
    split
    · next hc =>
      subst hc
      simp [scanUnits, shortEscape?]
      cases scanUnits rest <;> rfl
  split
  · next hlow =>
    have hcode : c.val.toNat < 32 := hlow
    have hunit : hexUnit? '0' '0' (hexDigit (c.val.toNat / 16)) (hexDigit (c.val.toNat % 16)) =
        some c.toNat := by
      have hzero : hexValue? '0' = some 0 := by decide
      have hvalue : c.toNat = c.val.toNat := rfl
      simp only [hexUnit?, hzero, hexValue?_hexDigit (show c.val.toNat / 16 < 16 by omega),
        hexValue?_hexDigit (show c.val.toNat % 16 < 16 by omega), Option.pure_def,
        Option.bind_eq_bind, Option.bind_some, Option.some.injEq]
      omega
    simp only [List.cons_append, List.nil_append, scanUnits, hunit]
    cases scanUnits rest <;> rfl
  · next hquote hslash _ _ _ _ _ hlow =>
    rw [List.singleton_append, scanUnits]
    · rw [if_neg (by simp [hlow, hslash])]
      cases scanUnits rest <;> rfl
    all_goals simp_all

/-- Escaped characters are scanned as their code points up to the closing quote. -/
theorem scanUnits_flatMap_escapeChar (cs rest : List Char) :
    scanUnits (cs.flatMap escapeChar ++ '"' :: rest) = some (cs.map Char.toNat, rest) := by
  induction cs with
  | nil => simp [scanUnits]
  | cons c cs ih =>
      rw [List.flatMap_cons, List.append_assoc, scanUnits_escapeChar, ih]
      rfl

/-- A character is no half of a surrogate pair. -/
theorem not_surrogate (c : Char) : ¬ (0xd800 ≤ c.toNat ∧ c.toNat < 0xe000) := by
  have hvalid : c.toNat < 0xd800 ∨ 0xdfff < c.toNat ∧ c.toNat < 0x110000 := c.valid
  omega

/-- Code points that are no surrogates are joined as the characters they are. -/
theorem joinUnits?_toNat (cs : List Char) : joinUnits? (cs.map Char.toNat) = some cs := by
  induction cs with
  | nil => rfl
  | cons c cs ih =>
      have hc := not_surrogate c
      cases cs with
      | nil => simp [joinUnits?, hc, Char.ofNat_toNat]
      | cons d ds =>
          rw [List.map_cons] at ih
          rw [List.map_cons, List.map_cons, joinUnits?, if_neg (by omega), if_neg (by omega), ih]
          simp [Char.ofNat_toNat]

/-! ## strings -/

/-- A written string is one token. -/
theorem scanToken_quote (s : String) (rest : List Char) :
    scanToken (quote s ++ rest) = some (.string (some s), rest) := by
  rw [quote, List.cons_append, List.append_assoc, scanToken, List.singleton_append,
    scanUnits_flatMap_escapeChar]
  simp [joinUnits?_toNat, String.ofList_toList]

/-! ## plain strings -/

/-- A string that is written as it is: no quotation mark, no backslash and no
control. -/
def Plain (s : String) : Prop := ∀ c ∈ s.toList, c ≠ '"' ∧ c ≠ '\\' ∧ 32 ≤ c.toNat

instance (s : String) : Decidable (Plain s) :=
  List.decidableBAll (fun c => c ≠ '"' ∧ c ≠ '\\' ∧ 32 ≤ c.toNat) s.toList

/-- A character that needs no escape is written as itself. -/
theorem escapeChar_of_plain {c : Char} (hquote : c ≠ '"') (hslash : c ≠ '\\')
    (hlow : 32 ≤ c.toNat) : escapeChar c = [c] := by
  have hcontrol : ¬ c.val < 32 := Nat.not_lt.mpr hlow
  have hne : ∀ d : Char, d.toNat < 32 → c ≠ d := by
    rintro d hd rfl
    omega
  rw [escapeChar, if_neg hquote, if_neg hslash, if_neg (hne _ (by decide)),
    if_neg (hne _ (by decide)), if_neg (hne _ (by decide)), if_neg (hne _ (by decide)),
    if_neg (hne _ (by decide)), if_neg hcontrol]

/-- A plain text is written as itself. -/
theorem flatMap_escapeChar_of_plain {s : String} (h : Plain s) :
    s.toList.flatMap escapeChar = s.toList := by
  have hchars : ∀ c ∈ s.toList, escapeChar c = [c] := fun c hc =>
    escapeChar_of_plain (h c hc).1 (h c hc).2.1 (h c hc).2.2
  rw [List.flatMap_def, List.map_congr_left hchars, ← List.flatMap_def, List.flatMap_singleton']

/-- A plain text has no quote. -/
theorem mark_notMem_of_plain {s : String} (h : Plain s) : '"' ∉ s.toList :=
  fun hmem => (h _ hmem).1 rfl

end SearchRelay.Json
