import SearchRelay.Proofs.Text.Utf8

/-!
# SearchRelay.Proofs.Text.Lossy

Which bytes survive being read as a text.

The reader takes one byte at a time.  `decodeFrom_utf8EncodeChar` follows it
through the bytes of one character: the first byte says how many are missing and
which ones may come next (`start_two`, `start_three`, `start_four`), each of the
others adds six bits (`decodeFrom_next`, `decodeFrom_last`).  So the bytes of a text are read as
this text (`textOf_utf8`), and bytes are kept if and only if they are the bytes
of a text (`utf8_textOf_eq_iff`).
-/

namespace SearchRelay.Text.Utf8

/-! ## single bytes -/

theorem decodeFrom_first {b : Nat} (hb : b < 256) (rest : List UInt8) :
    decodeFrom none (UInt8.ofNat b :: rest) = (start b).1 ++ decodeFrom (start b).2 rest := by
  rw [decodeFrom, step, UInt8.toNat_ofNat_of_lt' hb]

section

variable {low high bits n : Nat}

theorem toNat_next (hn : n < 64) : (UInt8.ofNat (n + 128)).toNat = n + 128 :=
  UInt8.toNat_ofNat_of_lt' (by omega : n + 128 < 256)

/-- A byte that may come next adds six bits. -/
theorem decodeFrom_next {missing : Nat} (hlow : low ≤ n + 128) (hhigh : n + 128 ≤ high)
    (hn : n < 64) (rest : List UInt8) :
    decodeFrom (some ⟨missing + 2, low, high, bits⟩) (UInt8.ofNat (n + 128) :: rest) =
      decodeFrom (some ⟨missing + 1, 0x80, 0xbf, bits * 64 + n⟩) rest := by
  rw [decodeFrom, toNat_next hn]
  simp [step, hlow, hhigh]

/-- The last byte completes the character. -/
theorem decodeFrom_last (hlow : low ≤ n + 128) (hhigh : n + 128 ≤ high) (hn : n < 64)
    (rest : List UInt8) :
    decodeFrom (some ⟨1, low, high, bits⟩) (UInt8.ofNat (n + 128) :: rest) =
      Char.ofNat (bits * 64 + n) :: decodeFrom none rest := by
  rw [decodeFrom, toNat_next hn]
  simp [step, hlow, hhigh]

end

/-- The first byte of two. -/
theorem start_two {n : Nat} (hn : 2 ≤ n) (hlt : n < 32) :
    start (n + 192) = ([], some ⟨1, 0x80, 0xbf, n⟩) := by
  have hbits : n + 192 - 0xc0 = n := by omega
  rw [start, if_neg (by omega), if_pos (by omega), hbits]

/-- The first byte of three, and what may come next. -/
theorem start_three (n next : Nat) (hn : n < 16) (hnext : next < 64) (hleast : n = 0 → 32 ≤ next)
    (hsurrogate : n = 13 → next < 32) :
    ∃ low high, start (n + 224) = ([], some ⟨2, low, high, n⟩) ∧ low ≤ next + 128 ∧
      next + 128 ≤ high := by
  have hbits : n + 224 - 0xe0 = n := by omega
  rw [start, if_neg (by omega), if_neg (by omega), hbits]
  split
  · exact ⟨_, _, rfl, by omega, by omega⟩
  · split
    · exact ⟨_, _, rfl, by omega, by omega⟩
    · rw [if_pos (by omega)]
      exact ⟨_, _, rfl, by omega, by omega⟩

/-- The first byte of four, and what may come next. -/
theorem start_four (n next : Nat) (hn : n < 5) (hnext : next < 64) (hleast : n = 0 → 16 ≤ next)
    (hmost : n = 4 → next < 16) :
    ∃ low high, start (n + 240) = ([], some ⟨3, low, high, n⟩) ∧ low ≤ next + 128 ∧
      next + 128 ≤ high := by
  have hbits : n + 240 - 0xf0 = n := by omega
  rw [start, if_neg (by omega), if_neg (by omega), if_neg (by omega), if_neg (by omega),
    if_neg (by omega), hbits]
  split
  · exact ⟨_, _, rfl, by omega, by omega⟩
  · split
    · exact ⟨_, _, rfl, by omega, by omega⟩
    · rw [if_pos (by omega)]
      exact ⟨_, _, rfl, by omega, by omega⟩

/-! ## characters -/

/-- The bytes of a character are read as this character. -/
theorem decodeFrom_utf8EncodeChar (c : Char) (rest : List UInt8) :
    decodeFrom none (String.utf8EncodeChar c ++ rest) = c :: decodeFrom none rest := by
  have hvalid : c.val.toNat < 55296 ∨ 57343 < c.val.toNat ∧ c.val.toNat < 1114112 := c.valid
  have hself : Char.ofNat c.val.toNat = c := Char.ofNat_toNat c
  rw [String.utf8EncodeChar]
  generalize c.val.toNat = v at hvalid hself
  split
  · rw [List.singleton_append, decodeFrom_first (by omega), start, if_pos (by omega), hself]
    rfl
  · split
    · -- two bytes
      have hlead : v / 64 % 32 = v / 64 := by omega
      have hbits : v / 64 * 64 + v % 64 = v := by omega
      rw [List.cons_append, List.singleton_append, decodeFrom_first (by omega), hlead,
        start_two (by omega) (by omega), List.nil_append,
        decodeFrom_last (by omega) (by omega) (by omega), hbits, hself]
    · split
      · -- three bytes
        have hlead : v / 4096 % 16 = v / 4096 := by omega
        have hbits : (v / 4096 * 64 + v / 64 % 64) * 64 + v % 64 = v := by omega
        obtain ⟨low, high, hstart, hlow, hhigh⟩ :=
          start_three (v / 4096) (v / 64 % 64) (by omega) (by omega) (by omega) (by omega)
        rw [List.cons_append, List.cons_append, List.singleton_append,
          decodeFrom_first (by omega), hlead, hstart, List.nil_append,
          decodeFrom_next hlow hhigh (by omega),
          decodeFrom_last (by omega) (by omega) (by omega), hbits, hself]
      · -- four bytes
        have hlead : v / 262144 % 8 = v / 262144 := by omega
        have hbits : ((v / 262144 * 64 + v / 4096 % 64) * 64 + v / 64 % 64) * 64 + v % 64 = v := by
          omega
        obtain ⟨low, high, hstart, hlow, hhigh⟩ :=
          start_four (v / 262144) (v / 4096 % 64) (by omega) (by omega) (by omega) (by omega)
        rw [List.cons_append, List.cons_append, List.cons_append, List.singleton_append,
          decodeFrom_first (by omega), hlead, hstart, List.nil_append,
          decodeFrom_next hlow hhigh (by omega),
          decodeFrom_next (by omega) (by omega) (by omega),
          decodeFrom_last (by omega) (by omega) (by omega), hbits, hself]

/-! ## texts -/

/-- What is encoded is read back without loss. -/
theorem decodeLossy_encode (cs : List Char) : decodeLossy (encode cs) = cs := by
  rw [decodeLossy]
  induction cs with
  | nil => rfl
  | cons c cs ih => rw [encode_cons, decodeFrom_utf8EncodeChar, ih]

/-- The text of the bytes of a text is the text. -/
theorem textOf_utf8 (text : String) : textOf (Alias.utf8 text) = text := by
  rw [textOf, utf8_eq_encode, decodeLossy_encode, String.ofList_toList]

/-- Bytes are kept if and only if they are the bytes of a text. -/
theorem utf8_textOf_eq_iff (bytes : List UInt8) :
    Alias.utf8 (textOf bytes) = bytes ↔ ∃ text, bytes = Alias.utf8 text := by
  constructor
  · intro h
    exact ⟨textOf bytes, h.symm⟩
  · rintro ⟨text, rfl⟩
    rw [textOf_utf8]

end SearchRelay.Text.Utf8
