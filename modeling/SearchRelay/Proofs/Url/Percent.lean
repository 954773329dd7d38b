import Mathlib.Data.List.Basic
import SearchRelay.Proofs.Text.Utf8
import SearchRelay.Url.Percent

/-!
# SearchRelay.Proofs.Url.Percent

What percent encoding does to a text, and what decoding finds in it.

1. `mem_encodeWith` — an encoded text holds no character of the set, and
   nothing new but percent signs and digits;
2. `decode_encodeWith` — a path segment decodes to what its text decodes to
   before it is encoded;
3. `decode_eq_self_iff` — bytes decode to themselves if and only if nowhere a
   percent sign stands in front of two digits.
-/

namespace SearchRelay.Url

open Text.Utf8

/-! ## encoded texts -/

/-- The characters that encoding brings into a text. -/
def percentChars : List Char := "%0123456789ABCDEF".toList

theorem mem_encodeByte {b : UInt8} {c : Char} (h : c ∈ encodeByte b) : c ∈ percentChars := by
  have hdigit : ∀ n : Fin 16, (Nat.digitChar n.val).toUpper ∈ percentChars := by decide
  have hb := b.toNat_lt
  have hhigh := hdigit ⟨b.toNat / 16, by omega⟩
  have hlow := hdigit ⟨b.toNat % 16, by omega⟩
  simp only [encodeByte, List.mem_cons, List.not_mem_nil, or_false] at h
  rcases h with rfl | rfl | rfl
  · decide
  · exact hhigh
  · exact hlow

/-- An encoded text holds the characters outside the set, percent signs and
digits. -/
theorem mem_encodeWith {set : Char → Bool} {cs : List Char} {c : Char}
    (h : c ∈ encodeWith set cs) : (c ∈ cs ∧ set c = false) ∨ c ∈ percentChars := by
  obtain ⟨d, hd, hc⟩ := List.mem_flatMap.mp h
  unfold encodeChar at hc
  split at hc
  · obtain ⟨b, -, hb⟩ := List.mem_flatMap.mp hc
    exact .inr (mem_encodeByte hb)
  · next hset =>
    cases List.mem_singleton.mp hc
    exact .inl ⟨hd, Bool.not_eq_true _ ▸ hset⟩

/-- What is outside the set stays as it is. -/
theorem encodeWith_eq_self {set : Char → Bool} {cs : List Char} (h : ∀ c ∈ cs, set c = false) :
    encodeWith set cs = cs := by
  induction cs with
  | nil => rfl
  | cons c cs ih =>
      obtain ⟨hc, hcs⟩ := List.forall_mem_cons.mp h
      rw [encodeWith, List.flatMap_cons, encodeChar, if_neg (by simp [hc])]
      exact congrArg (c :: ·) (ih hcs)

/-! ## decoding, byte by byte -/

/- Decoding looks two bytes ahead of a percent sign. What is encoded there begins with a
percent sign itself, so a percent sign that begins no escape does not come to begin one.
-/

/-- Whether bytes begin with a percent sign and two digits. -/
def beginsEncoded : List UInt8 → Bool
  | a :: b :: c :: _ => a = percentSign && (hexByte? b).isSome && (hexByte? c).isSome
  | _ => false

/-- A byte that begins no escape stays. -/
theorem decode_cons {a : UInt8} {rest : List UInt8} (h : beginsEncoded (a :: rest) = false) :
    decode (a :: rest) = a :: decode rest := by
  match rest with
  | [] => rfl
  | [b] => rfl
  | b :: c :: rest =>
      rw [decode]
      split
      · next high low hhigh hlow =>
        rw [if_neg]
        simpa [beginsEncoded, hhigh, hlow] using h
      · rfl

/-- An escape is decoded to its byte. -/
theorem decode_encoded {b c : UInt8} {high low : Nat} (hhigh : hexByte? b = some high)
    (hlow : hexByte? c = some low) (rest : List UInt8) :
    decode (percentSign :: b :: c :: rest) = UInt8.ofNat (high * 16 + low) :: decode rest := by
  simp only [decode, hhigh, hlow, if_true]

/-- A byte that is encoded in a path is neither a percent sign nor a digit. -/
theorem plain_of_inPathSet {b : UInt8} (h : inPathSet (Char.ofNat b.toNat) = true) :
    b ≠ percentSign ∧ hexByte? b = none := by
  have hall : ∀ n : Fin 256, inPathSet (Char.ofNat n.val) = true →
      UInt8.ofNat n.val ≠ percentSign ∧ hexByte? (UInt8.ofNat n.val) = none := by
    decide +kernel
  have hb := hall ⟨b.toNat, b.toNat_lt⟩ h
  rwa [UInt8.ofNat_toNat] at hb

/-- A byte of a path, encoded if it has to be. -/
def escapeByte (b : UInt8) : List UInt8 :=
  if inPathSet (Char.ofNat b.toNat) then encode (encodeByte b) else [b]

/-- An encoded byte: the percent sign and the bytes of its digits. -/
theorem encode_encodeByte (b : UInt8) :
    ∃ high low, encode (encodeByte b) = [percentSign, high, low] ∧
      hexByte? high = some (b.toNat / 16) ∧ hexByte? low = some (b.toNat % 16) := by
  have hdigit : ∀ n : Fin 16,
      String.utf8EncodeChar (Nat.digitChar n.val).toUpper =
          [UInt8.ofNat (Nat.digitChar n.val).toUpper.toNat] ∧
        hexByte? (UInt8.ofNat (Nat.digitChar n.val).toUpper.toNat) = some n.val := by
    decide
  have hb := b.toNat_lt
  obtain ⟨hhigh, hhighValue⟩ := hdigit ⟨b.toNat / 16, by omega⟩
  obtain ⟨hlow, hlowValue⟩ := hdigit ⟨b.toNat % 16, by omega⟩
  refine ⟨_, _, ?_, hhighValue, hlowValue⟩
  rw [encodeByte, encode_cons, encode_cons, encode_cons, hhigh, hlow]
  rfl

/-- The escape of a byte is decoded to it. -/
theorem decode_encodeByte (b : UInt8) (rest : List UInt8) :
    decode (encode (encodeByte b) ++ rest) = b :: decode rest := by
  obtain ⟨high, low, hbytes, hhigh, hlow⟩ := encode_encodeByte b
  have hvalue : b.toNat / 16 * 16 + b.toNat % 16 = b.toNat := by omega
  rw [hbytes]
  change decode (percentSign :: high :: low :: rest) = _
  rw [decode_encoded hhigh hlow, hvalue, UInt8.ofNat_toNat]

theorem escapeByte_of_some {b : UInt8} {n : Nat} (h : hexByte? b = some n) :
    escapeByte b = [b] := by
  refine if_neg fun hset => ?_
  rw [(plain_of_inPathSet hset).2] at h
  contradiction

/-- Encoding neither makes nor breaks a percent sign with two digits. -/
theorem beginsEncoded_flatMap_escapeByte (a : UInt8) (rest : List UInt8) :
    beginsEncoded (a :: rest.flatMap escapeByte) = beginsEncoded (a :: rest) := by
  have hsign : hexByte? percentSign = none := by decide
  match rest with
  | [] => rfl
  | [b] =>
      by_cases hb : inPathSet (Char.ofNat b.toNat) = true
      · obtain ⟨high, low, hbytes, -⟩ := encode_encodeByte b
        simp [escapeByte, hb, hbytes, beginsEncoded, hsign]
      · simp [escapeByte, hb, beginsEncoded]
  | b :: c :: rest =>
      by_cases hb : inPathSet (Char.ofNat b.toNat) = true
      · obtain ⟨high, low, hbytes, -⟩ := encode_encodeByte b
        simp [escapeByte, hb, hbytes, beginsEncoded, hsign, (plain_of_inPathSet hb).2]
      · by_cases hc : inPathSet (Char.ofNat c.toNat) = true
        · obtain ⟨high, low, hbytes, -⟩ := encode_encodeByte c
          simp [escapeByte, hb, hc, hbytes, beginsEncoded, hsign, (plain_of_inPathSet hc).2]
        · simp [escapeByte, hb, hc, beginsEncoded]

/-- Bytes decode to what they decode to before some of them are encoded. -/
theorem decode_flatMap_escapeByte (bytes : List UInt8) :
    decode (bytes.flatMap escapeByte) = decode bytes := by
  induction hn : bytes.length using Nat.strongRecOn generalizing bytes with
  | ind n ih =>
      subst hn
      match bytes with
      | [] => rfl
      | a :: rest =>
          have hrest := ih rest.length (by simp) rest rfl
          rw [List.flatMap_cons]
          by_cases ha : inPathSet (Char.ofNat a.toNat) = true
          · have hplain : beginsEncoded (a :: rest) = false := by
              unfold beginsEncoded
              split
              · next heq =>
                cases heq
                simp [(plain_of_inPathSet ha).1]
              · rfl
            rw [escapeByte, if_pos ha, decode_encodeByte, hrest, decode_cons hplain]
          · rw [escapeByte, if_neg ha, List.singleton_append]
            cases hbegins : beginsEncoded (a :: rest) with
            | false =>
                rw [decode_cons hbegins, decode_cons, hrest]
                rw [beginsEncoded_flatMap_escapeByte, hbegins]
            | true =>
                -- the sign and its digits are decoded as they stand
                match rest with
                | b :: c :: rest =>
                    simp only [beginsEncoded, Bool.and_eq_true, decide_eq_true_eq,
                      Option.isSome_iff_exists] at hbegins
                    obtain ⟨⟨rfl, high, hhigh⟩, low, hlow⟩ := hbegins
                    rw [List.flatMap_cons, List.flatMap_cons, escapeByte_of_some hhigh,
                      escapeByte_of_some hlow, List.singleton_append, List.singleton_append,
                      decode_encoded hhigh hlow, decode_encoded hhigh hlow,
                      ih rest.length (by simp; omega) rest rfl]

/-! ## decoding segments -/

/-- Bytes and characters beyond ASCII are encoded in a path. -/
theorem inPathSet_of_le {n : Nat} (hle : 128 ≤ n) (hn : n < 256) :
    inPathSet (Char.ofNat n) = true := by
  have hall : ∀ n : Fin 256, 128 ≤ n.val → inPathSet (Char.ofNat n.val) = true := by
    decide +kernel
  exact hall ⟨n, hn⟩ hle

/-- What a path holds unescaped is ASCII. -/
theorem lt_of_not_inPathSet {c : Char} (h : ¬ inPathSet c = true) : c.toNat < 128 := by
  simp [inPathSet, inFragmentSet, isControl] at h
  omega

/-- A character is escaped byte by byte. -/
theorem encode_encodeChar (c : Char) :
    encode (encodeChar inPathSet c) = (String.utf8EncodeChar c).flatMap escapeByte := by
  have hascii : c.toNat < 128 → ∀ b ∈ String.utf8EncodeChar c, Char.ofNat b.toNat = c := by
    intro hc b hb
    rw [utf8EncodeChar_of_lt hc, List.mem_singleton] at hb
    rw [hb, UInt8.toNat_ofNat_of_lt' (Nat.lt_trans hc (by decide)), Char.ofNat_toNat]
  by_cases hset : inPathSet c = true
  · have hbytes : ∀ b ∈ String.utf8EncodeChar c, inPathSet (Char.ofNat b.toNat) = true := by
      intro b hb
      by_cases hc : c.toNat < 128
      · rw [hascii hc b hb, hset]
      · exact inPathSet_of_le (le_of_mem_utf8EncodeChar (Nat.le_of_not_lt hc) b hb) b.toNat_lt
    rw [encodeChar, if_pos hset, encode, List.flatMap_assoc]
    exact List.flatMap_congr fun b hb => (if_pos (hbytes b hb)).symm
  · have hc := lt_of_not_inPathSet hset
    have hself : ∀ b ∈ String.utf8EncodeChar c, escapeByte b = [b] := fun b hb =>
      if_neg (by rwa [hascii hc b hb])
    rw [encodeChar, if_neg hset, List.flatMap_congr hself]
    simp [encode]

/-- A segment decodes to what its text decodes to before it is encoded. -/
theorem decode_encodeWith (cs : List Char) :
    decode (encode (encodeWith inPathSet cs)) = decode (encode cs) := by
  have hbytes : encode (encodeWith inPathSet cs) = (encode cs).flatMap escapeByte := by
    rw [encodeWith, encode, encode, List.flatMap_assoc, List.flatMap_assoc]
    exact congrArg cs.flatMap (funext encode_encodeChar)
  rw [hbytes, decode_flatMap_escapeByte]

/-- Decoding never makes more bytes. -/
theorem length_decode_le (bytes : List UInt8) : (decode bytes).length ≤ bytes.length := by
  fun_induction decode bytes with
  | case1 | case2 | case3 => exact Nat.le_refl _
  | case4 b c rest high low hhigh hlow ih => simp only [List.length_cons]; omega
  | case5 a b c rest high low hhigh hlow ha ih => simpa using ih
  | case6 a b c rest hdigits ih => simpa using ih

/-- Bytes decode to themselves if and only if nowhere a percent sign stands in
front of two digits. -/
theorem decode_eq_self_iff {bytes : List UInt8} :
    decode bytes = bytes ↔ ∀ rest, rest <:+ bytes → beginsEncoded rest = false := by
  induction bytes with
  | nil =>
      refine iff_of_true rfl fun rest hrest => ?_
      rw [List.suffix_nil.mp hrest]
      rfl
  | cons a rest ih =>
      cases hbegins : beginsEncoded (a :: rest) with
      | true =>
          refine iff_of_false (fun heq => ?_) fun hall => ?_
          · -- a decoded sign makes the bytes shorter
            match rest with
            | b :: c :: rest =>
                simp only [beginsEncoded, Bool.and_eq_true, decide_eq_true_eq,
                  Option.isSome_iff_exists] at hbegins
                obtain ⟨⟨rfl, high, hhigh⟩, low, hlow⟩ := hbegins
                rw [decode_encoded hhigh hlow] at heq
                have hlength := congrArg List.length heq
                have hle := length_decode_le rest
                simp only [List.length_cons] at hlength
                omega
          · rw [hall _ (List.suffix_refl _)] at hbegins
            contradiction
      | false =>
          rw [decode_cons hbegins, List.cons_inj_right, ih]
          constructor
          · intro hall suffix hsuffix
            rcases List.suffix_cons_iff.mp hsuffix with rfl | hsuffix
            · exact hbegins
            · exact hall suffix hsuffix
          · exact fun hall suffix hsuffix => hall suffix (hsuffix.trans (List.suffix_cons a rest))

end SearchRelay.Url
