import SearchRelay.Alias
import SearchRelay.Text.Utf8

/-!
# SearchRelay.Proofs.Text.Utf8

UTF-8 as a list of bytes.

1. `utf8_ofList` — the bytes of a text are those of its characters, one after
   the other;
2. `fromUTF8?_encode` — they read back as the text;
3. `encode_prefix_iff` — a text begins with another if its bytes do;
4. `utf8EncodeChar_of_lt`, `le_of_mem_utf8EncodeChar` — a character of ASCII is a
   byte below 128, and no byte of another character is;
5. `mark_notMem_utf8EncodeChar` — the byte of the quotation mark stands for nothing
   else.
-/

namespace SearchRelay.Text.Utf8

/-! ## byte arrays -/

/-- The bytes are listed from a place on. -/
theorem toList_loop (bytes : ByteArray) (i : Nat) (acc : List UInt8) :
    ByteArray.toList.loop bytes i acc = acc.reverse ++ bytes.data.toList.drop i := by
  fun_induction ByteArray.toList.loop bytes i acc with
  | case1 i acc hlt ih =>
      have hsize : i < bytes.data.toList.length := hlt
      have hget : bytes.get! i = bytes.data.toList[i] := by
        cases bytes with
        | mk data => exact getElem!_pos data i hlt
      rw [ih, List.drop_eq_getElem_cons hsize, hget]
      simp
  | case2 i acc hge =>
      have hsize : bytes.data.toList.length ≤ i := Nat.le_of_not_lt hge
      rw [List.drop_eq_nil_of_le hsize, List.append_nil]

theorem toList_toByteArray (bytes : List UInt8) : bytes.toByteArray.toList = bytes := by
  rw [ByteArray.toList, toList_loop, List.toList_data_toByteArray]
  rfl

theorem toByteArray_eq_mk (bytes : List UInt8) : bytes.toByteArray = ⟨bytes.toArray⟩ :=
  ByteArray.ext List.data_toByteArray

/-! ## texts -/

theorem encode_append (cs ds : List Char) : encode (cs ++ ds) = encode cs ++ encode ds :=
  List.flatMap_append

theorem encode_cons (c : Char) (cs : List Char) :
    encode (c :: cs) = String.utf8EncodeChar c ++ encode cs := rfl

theorem toByteArray_encode (cs : List Char) : (encode cs).toByteArray = cs.utf8Encode := rfl

theorem utf8_ofList (cs : List Char) : Alias.utf8 (String.ofList cs) = encode cs := by
  rw [Alias.utf8, String.toUTF8_eq_toByteArray, String.toByteArray_ofList, ← toByteArray_encode,
    toList_toByteArray]

theorem utf8_eq_encode (s : String) : Alias.utf8 s = encode s.toList := by
  rw [← utf8_ofList, String.ofList_toList]

/-- What is encoded is decoded again. -/
theorem fromUTF8?_encode (cs : List Char) :
    String.fromUTF8? ⟨(encode cs).toArray⟩ = some (String.ofList cs) := by
  rw [← toByteArray_eq_mk, toByteArray_encode, String.fromUTF8?,
    dif_pos ByteArray.isValidUTF8_utf8Encode]
  rfl

/-- UTF-8 is a prefix code. -/
theorem encode_prefix_iff (cs ds : List Char) : encode cs <+: encode ds ↔ cs <+: ds := by
  constructor
  · rintro ⟨rest, hrest⟩
    apply List.isPrefix_of_utf8Encode_append_eq_utf8Encode rest.toByteArray
    rw [← toByteArray_encode, ← toByteArray_encode, ← hrest, List.toByteArray_append]
  · rintro ⟨rest, rfl⟩
    exact ⟨encode rest, (encode_append cs rest).symm⟩

/-- Different texts are encoded in different bytes. -/
theorem encode_inj {cs ds : List Char} : encode cs = encode ds ↔ cs = ds := by
  constructor
  · intro h
    have hle : cs <+: ds := (encode_prefix_iff cs ds).mp (h ▸ List.prefix_refl _)
    have hge : ds <+: cs := (encode_prefix_iff ds cs).mp (h ▸ List.prefix_refl _)
    exact hle.eq_of_length_le hge.length_le
  · exact fun h => congrArg encode h

/-- Different strings have different bytes. -/
theorem utf8_inj {s t : String} : Alias.utf8 s = Alias.utf8 t ↔ s = t := by
  rw [utf8_eq_encode, utf8_eq_encode, encode_inj, String.toList_inj]

/-- Of two texts one of which begins with the other the longer one has more
bytes. -/
theorem length_encode_lt_iff {cs ds : List Char} (h : cs <+: ds ∨ ds <+: cs) :
    (encode cs).length < (encode ds).length ↔ cs.length < ds.length := by
  have hpos : ∀ c : Char, 0 < (String.utf8EncodeChar c).length := fun c =>
    List.length_pos_iff.mpr String.utf8EncodeChar_ne_nil
  have hgrow : ∀ {xs ys : List Char}, xs <+: ys →
      ((encode xs).length < (encode ys).length ↔ xs.length < ys.length) := by
    rintro xs _ ⟨rest, rfl⟩
    cases rest with
    | nil => simp
    | cons c rest =>
        have := hpos c
        simp only [encode_append, encode_cons, List.length_append, List.length_cons]
        omega
  rcases h with h | h
  · exact hgrow h
  · obtain ⟨rest, rfl⟩ := h
    simp only [encode_append, List.length_append]
    omega

/-! ## ASCII -/

/-- An ASCII character is one byte. -/
theorem utf8EncodeChar_of_lt {c : Char} (h : c.toNat < 128) :
    String.utf8EncodeChar c = [UInt8.ofNat c.toNat] := by
  have hle : c.val.toNat ≤ 127 := Nat.le_of_lt_succ h
  simp only [String.utf8EncodeChar, hle, if_true]
  rfl

/-- Beyond ASCII, no byte is an ASCII one. -/
theorem le_of_mem_utf8EncodeChar {c : Char} (h : 128 ≤ c.toNat) :
    ∀ b ∈ String.utf8EncodeChar c, 128 ≤ b.toNat := by
  have hall : ∀ n ∈ (String.utf8EncodeChar c).map UInt8.toNat, 128 ≤ n := by
    have hlt : ¬ c.val.toNat ≤ 127 := Nat.not_le_of_lt h
    unfold String.utf8EncodeChar
    dsimp only
    rw [if_neg hlt]
    split
    · simp; omega
    · split
      · simp; omega
      · simp; omega
  exact fun b hb => hall b.toNat (List.mem_map_of_mem hb)

/-- The bytes of a text of ASCII are the codes of its characters. -/
theorem map_ofNat_encode {cs : List Char} (h : ∀ c ∈ cs, c.toNat < 128) :
    (encode cs).map (fun b => Char.ofNat b.toNat) = cs := by
  induction cs with
  | nil => rfl
  | cons c cs ih =>
      obtain ⟨hc, hcs⟩ := List.forall_mem_cons.mp h
      have hbyte : (UInt8.ofNat c.toNat).toNat = c.toNat :=
        UInt8.toNat_ofNat_of_lt' (Nat.lt_trans hc (by decide))
      rw [encode_cons, utf8EncodeChar_of_lt hc, List.singleton_append, List.map_cons, hbyte,
        Char.ofNat_toNat, ih hcs]

/-! ## the quotation mark -/

theorem encode_mark : encode ['"'] = [Alias.mark] := by decide

/-- Only a quotation mark is encoded with the byte of one. -/
theorem mark_notMem_utf8EncodeChar {c : Char} (h : c ≠ '"') :
    Alias.mark ∉ String.utf8EncodeChar c := by
  have hcode : c.toNat ≠ 34 := fun heq => h (Char.ext (UInt32.toNat_inj.mp heq))
  intro hmem
  have hbyte : 34 ∈ (String.utf8EncodeChar c).map UInt8.toNat := List.mem_map_of_mem hmem
  revert hbyte
  unfold String.utf8EncodeChar
  dsimp only
  split
  · next hle =>
    have hle : c.toNat ≤ 127 := hle
    simp
    omega
  · split
    · simp; omega
    · split
      · simp; omega
      · simp; omega

end SearchRelay.Text.Utf8
