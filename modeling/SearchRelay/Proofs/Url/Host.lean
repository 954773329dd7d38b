import SearchRelay.Proofs.Text.Lossy
import SearchRelay.Proofs.Url.Domain
import SearchRelay.Proofs.Url.Percent
import SearchRelay.Url.Host

/-!
# SearchRelay.Proofs.Url.Host

A host is read again from its text.

1. `inBase?_toDigits` — the digits of a number are read as the number;
2. `ipv4?_text` — an IPv4 address is written with all its bytes;
3. `ipv6?_text` — an IPv6 address is written with its longest run of zeros left out,
   and read with as many zeros in its place;
4. `parse_text` — so every host that was read is read again, a name because it is in
   ASCII already.
-/

namespace SearchRelay.Url.Host

open Text

/-! ## numbers -/

theorem exists_digit_of_mem_toDigits {base n : Nat} (hbase : 1 < base) {c : Char}
    (h : c ∈ Nat.toDigits base n) : ∃ d < base, c = Nat.digitChar d := by
  induction n using Nat.strongRecOn with
  | ind n ih =>
      by_cases hsmall : n < base
      · rw [Nat.toDigits_of_lt_base hsmall, List.mem_singleton] at h
        exact ⟨n, hsmall, h⟩
      · rw [Nat.toDigits_of_base_le hbase (by omega), List.mem_append, List.mem_singleton] at h
        rcases h with h | h
        · exact ih _ (Nat.div_lt_self (by omega) hbase) h
        · exact ⟨n % base, Nat.mod_lt n (by omega), h⟩

/-- A digit has no meaning in a URL, and is no dot. -/
theorem plain_of_mem_toDigits {base n : Nat} (hbase : 1 < base) (hle : base ≤ 16) {c : Char}
    (h : c ∈ Nat.toDigits base n) : Domain.isForbidden c = false ∧ c ≠ '.' := by
  have hall : ∀ d : Fin 16,
      Domain.isForbidden (Nat.digitChar d.val) = false ∧ Nat.digitChar d.val ≠ '.' := by decide
  obtain ⟨d, hd, rfl⟩ := exists_digit_of_mem_toDigits hbase h
  exact hall ⟨d, by omega⟩

/-- Takes one digit in a base. -/
def digitStep? (base n : Nat) (c : Char) : Option Nat :=
  if (c.isDigit = true ∨ ('a' ≤ c ∧ c ≤ 'f') ∨ ('A' ≤ c ∧ c ≤ 'F')) ∧
      Table.digitValue c < base then
    some (n * base + Table.digitValue c)
  else none

/-- A number is read digit by digit. -/
theorem inBase?_eq (base : Nat) (cs : List Char) :
    inBase? base cs = cs.foldlM (digitStep? base) 0 := by
  unfold inBase?
  congr 1
  funext n c
  by_cases hc : c.isDigit = true ∨ ('a' ≤ c ∧ c ≤ 'f') ∨ ('A' ≤ c ∧ c ≤ 'F')
  · simp only [digitStep?, hc, true_and]
    rfl
  · simp only [digitStep?, hc, false_and, if_false]
    rfl

theorem digitStep?_digitChar {base d : Nat} (hle : base ≤ 16) (hd : d < base) (n : Nat) :
    digitStep? base n (Nat.digitChar d) = some (n * base + d) := by
  have hall : ∀ d : Fin 16,
      ((Nat.digitChar d.val).isDigit = true ∨
          ('a' ≤ Nat.digitChar d.val ∧ Nat.digitChar d.val ≤ 'f') ∨
          ('A' ≤ Nat.digitChar d.val ∧ Nat.digitChar d.val ≤ 'F')) ∧
        Table.digitValue (Nat.digitChar d.val) = d.val := by decide
  obtain ⟨hdigit, hvalue⟩ := hall ⟨d, by omega⟩
  rw [digitStep?, if_pos ⟨hdigit, by rwa [hvalue]⟩, hvalue]

/-- The digits of a number are read as the number. -/
theorem inBase?_toDigits {base : Nat} (hbase : 1 < base) (hle : base ≤ 16) (n : Nat) :
    inBase? base (Nat.toDigits base n) = some n := by
  induction n using Nat.strongRecOn with
  | ind n ih =>
      by_cases hsmall : n < base
      · rw [Nat.toDigits_of_lt_base hsmall, inBase?_eq, List.foldlM_cons,
          digitStep?_digitChar hle hsmall, Nat.zero_mul, Nat.zero_add]
        rfl
      · have hdiv := ih (n / base) (Nat.div_lt_self (by omega) hbase)
        have hmod := Nat.mod_lt n (show 0 < base by omega)
        rw [inBase?_eq] at hdiv
        rw [Nat.toDigits_of_base_le hbase (by omega), inBase?_eq, List.foldlM_append, hdiv,
          Option.bind_eq_bind, Option.bind_some, List.foldlM_cons, digitStep?_digitChar hle hmod,
          Nat.div_add_mod']
        rfl

/-- What is read of digits is the sum of their values. -/
theorem foldl_of_inBase? {base n : Nat} {cs : List Char} (h : inBase? base cs = some n) :
    cs.foldl (fun n c => n * base + Table.digitValue c) 0 = n := by
  have hfold : ∀ (cs : List Char) (m : Nat), cs.foldlM (digitStep? base) m = some n →
      cs.foldl (fun n c => n * base + Table.digitValue c) m = n := by
    intro cs
    induction cs with
    | nil => exact fun m h => Option.some.inj h
    | cons c cs ih =>
        intro m h
        rw [List.foldlM_cons] at h
        obtain ⟨k, hk, h⟩ := Option.bind_eq_some_iff.mp h
        unfold digitStep? at hk
        split at hk
        · obtain rfl := Option.some.inj hk
          exact ih _ h
        · contradiction
  exact hfold cs 0 (inBase?_eq base cs ▸ h)

/-- The base and the number of digits bound a number. -/
theorem lt_of_inBase? {base n : Nat} {cs : List Char} (h : inBase? base cs = some n) :
    n < base ^ cs.length := by
  rw [inBase?_eq] at h
  induction cs using List.reverseRecOn generalizing n with
  | nil =>
      obtain rfl := Option.some.inj h
      exact Nat.one_pos
  | append_singleton cs c ih =>
      rw [List.foldlM_append] at h
      obtain ⟨m, hm, h⟩ := Option.bind_eq_some_iff.mp h
      rw [List.foldlM_cons] at h
      obtain ⟨k, hk, h⟩ := Option.bind_eq_some_iff.mp h
      obtain rfl := Option.some.inj h
      unfold digitStep? at hk
      split at hk
      · next hdigit =>
        obtain rfl := Option.some.inj hk
        have hfront := ih hm
        rw [List.length_append, List.length_singleton, Nat.pow_succ]
        calc m * base + Table.digitValue c < (m + 1) * base := by rw [Nat.succ_mul]; omega
          _ ≤ base ^ cs.length * base := Nat.mul_le_mul_right _ hfront
      · contradiction

/-! ## IPv4 -/

/- An address is written as its four bytes, and read as up to four numbers in several
bases. Only the numbers that are written come up here, which are in base ten and without
leading zeros. -/

/-- A number below 256 is read back from its digits. -/
theorem ipv4Number?_toDigits {n : Nat} (h : n < 256) :
    ipv4Number? (Nat.toDigits 10 n) = some n := by
  have hall : ∀ n : Fin 256, ipv4Number? (Nat.toDigits 10 n.val) = some n.val := by decide +kernel
  exact hall ⟨n, h⟩

/-- Bytes spell an address below the bound for as many. -/
theorem foldl_lt {numbers : List Nat} (h : ∀ n ∈ numbers, n ≤ 255) :
    numbers.foldl (fun n b => n * 256 + b) 0 < 256 ^ numbers.length := by
  induction numbers using List.reverseRecOn with
  | nil => decide
  | append_singleton numbers n ih =>
      obtain ⟨hnumbers, hn⟩ := List.forall_mem_append.mp h
      have hlt := ih hnumbers
      have hn := hn n (List.mem_singleton_self n)
      rw [List.foldl_append, List.foldl_cons, List.foldl_nil, List.length_append,
        List.length_singleton, Nat.pow_succ]
      omega

/-- An address has four bytes. -/
theorem lt_of_ipv4? {name : List Char} {address : Nat} (h : ipv4? name = some address) :
    address < 256 ^ 4 := by
  obtain ⟨_, hparts, h⟩ := Option.bind_eq_some_iff.mp h
  obtain ⟨numbers, hnumbers, h⟩ := Option.bind_eq_some_iff.mp h
  obtain ⟨last, -, h⟩ := Option.bind_eq_some_iff.mp h
  obtain ⟨_, hfront, h⟩ := Option.bind_eq_some_iff.mp h
  obtain ⟨_, hlast, h⟩ := Option.bind_eq_some_iff.mp h
  obtain rfl := Option.some.inj h
  rw [Option.guard_eq_some'] at hparts hfront hlast
  have hlength := (mapM_eq_some_iff.mp hnumbers).length_eq
  have hle : numbers.dropLast.length ≤ 4 := by
    rw [List.length_dropLast]
    omega
  have hbytes := foldl_lt fun n hn => of_decide_eq_true (List.all_eq_true.mp hfront n hn)
  -- the last number fills the bytes that the others leave
  calc numbers.dropLast.foldl (fun n b => n * 256 + b) 0 *
          256 ^ (4 - numbers.dropLast.length) + last
      < (numbers.dropLast.foldl (fun n b => n * 256 + b) 0 + 1) *
          256 ^ (4 - numbers.dropLast.length) := by
        rw [Nat.succ_mul]
        exact Nat.add_lt_add_left hlast _
    _ ≤ 256 ^ numbers.dropLast.length * 256 ^ (4 - numbers.dropLast.length) :=
        Nat.mul_le_mul_right _ hbytes
    _ = 256 ^ 4 := by rw [← Nat.pow_add, Nat.add_sub_cancel' hle]

def byteDigits (address : Nat) : List (List Char) := (ipv4Bytes address).map (Nat.toDigits 10)

theorem byteDigits_eq (address : Nat) : byteDigits address =
    [Nat.toDigits 10 (address / 256 ^ 3 % 256), Nat.toDigits 10 (address / 256 ^ 2 % 256),
      Nat.toDigits 10 (address / 256 ^ 1 % 256), Nat.toDigits 10 (address / 256 ^ 0 % 256)] := rfl

theorem isDigit_of_mem_byteDigits {address : Nat} :
    ∀ number ∈ byteDigits address, ∀ c ∈ number, c.isDigit = true := by
  intro number hnumber c hc
  obtain ⟨n, -, rfl⟩ := List.mem_map.mp hnumber
  exact Nat.isDigit_of_mem_toDigits (by decide) (by decide) hc

/-- The text of an address has its four bytes for parts. -/
theorem ipv4Parts_text (address : Nat) : ipv4Parts (ipv4 address).text = byteDigits address := by
  have hsplit : splitBy (· = '.') (ipv4 address).text = byteDigits address := by
    refine splitBy_intercalate (by simp [ipv4Bytes]) fun number hnumber c hc => ?_
    refine decide_eq_false fun heq => ?_
    have hdigit := isDigit_of_mem_byteDigits number hnumber c hc
    rw [heq] at hdigit
    exact absurd hdigit (by decide)
  rw [ipv4Parts, hsplit, if_neg]
  rw [byteDigits_eq]
  simp [Nat.toDigits_ne_nil]

/-- The text of an address ends in a number. -/
theorem endsInNumber_text (address : Nat) : endsInNumber (ipv4 address).text = true := by
  have hdigits : ∀ c ∈ Nat.toDigits 10 (address / 256 ^ 0 % 256), c.isDigit = true := fun c hc =>
    Nat.isDigit_of_mem_toDigits (by decide) (by decide) hc
  rw [endsInNumber, ipv4Parts_text, byteDigits_eq]
  simp [Nat.toDigits_ne_nil] at hdigits ⊢
  exact .inl hdigits

/-- An IPv4 address is written with all its bytes. -/
theorem ipv4?_text {address : Nat} (h : address < 256 ^ 4) :
    ipv4? (ipv4 address).text = some address := by
  have hnumbers : (byteDigits address).mapM ipv4Number? = some (ipv4Bytes address) := by
    rw [mapM_eq_some_iff, byteDigits, List.forall₂_map_left_iff, List.forall₂_same]
    intro n hn
    obtain ⟨place, -, rfl⟩ := List.mem_map.mp hn
    exact ipv4Number?_toDigits (Nat.mod_lt _ (by decide))
  have hbyte : ∀ n : Nat, n % 256 ≤ 255 := fun n => Nat.le_of_lt_succ (Nat.mod_lt n (by decide))
  have hlast : ∀ n : Nat, n % 256 < 256 := fun n => Nat.mod_lt n (by decide)
  rw [ipv4?, ipv4Parts_text, hnumbers]
  simp only [byteDigits_eq, ipv4Bytes, guard]
  simp [hbyte, hlast]
  omega

/-! ## pieces of an IPv6 address -/

/- Whatever way an address was written, what was read are eight pieces below the limit.
That is all the rest needs to know of the reader. -/

/-- A piece has sixteen bits. -/
def pieceLimit : Nat := 16 ^ 4

/-- A piece that is read is below the limit. -/
theorem lt_of_piece? {cs : List Char} {n : Nat} (h : piece? cs = some n) : n < pieceLimit := by
  unfold piece? at h
  split at h
  · contradiction
  · next hlength =>
    rw [not_or, Nat.not_lt] at hlength
    exact Nat.lt_of_lt_of_le (lt_of_inBase? h) (Nat.pow_le_pow_right (by decide) hlength.2)

/-- A piece is read back from its hexadecimal digits. -/
theorem piece?_toDigits {n : Nat} (h : n < pieceLimit) : piece? (Nat.toDigits 16 n) = some n := by
  have hlength : (Nat.toDigits 16 n).length ≤ 4 :=
    (Nat.length_toDigits_le_iff (by decide) (by decide)).mpr h
  rw [piece?, if_neg (by simpa [Nat.toDigits_ne_nil] using hlength),
    inBase?_toDigits (by decide) (by decide)]

theorem le_of_decimalByte? {cs : List Char} {n : Nat} (h : decimalByte? cs = some n) :
    n ≤ 255 := by
  obtain ⟨_, -, h⟩ := Option.bind_eq_some_iff.mp h
  obtain ⟨m, -, h⟩ := Option.bind_eq_some_iff.mp h
  split at h
  · next hle => exact Option.some.inj h ▸ hle
  · contradiction

theorem lt_of_dottedPieces? {cs : List Char} {ns : List Nat} (h : dottedPieces? cs = some ns) :
    ∀ n ∈ ns, n < pieceLimit := by
  obtain ⟨bytes, hbytes, h⟩ := Option.bind_eq_some_iff.mp h
  have hle : ∀ b ∈ bytes, b ≤ 255 := fun b hb => by
    obtain ⟨cs, -, hcs⟩ := exists_of_mapM hbytes hb
    exact le_of_decimalByte? hcs
  split at h
  · next a b c d =>
    obtain rfl := Option.some.inj h
    simp only [List.forall_mem_cons] at hle ⊢
    simp only [pieceLimit]
    exact ⟨by omega, by omega, fun _ hn => absurd hn List.not_mem_nil⟩
  · contradiction

/-- Pieces that are read are below the limit. -/
theorem lt_of_pieces? {dotted : Bool} {parts : List (List Char)} {ns : List Nat}
    (h : pieces? dotted parts = some ns) : ∀ n ∈ ns, n < pieceLimit := by
  induction parts generalizing ns with
  | nil =>
      obtain rfl := Option.some.inj h
      exact fun _ hn => absurd hn List.not_mem_nil
  | cons part parts ih =>
      cases parts with
      | nil =>
          rw [pieces?] at h
          split at h
          · exact lt_of_dottedPieces? h
          · obtain ⟨n, hn, rfl⟩ := Option.map_eq_some_iff.mp h
            exact List.forall_mem_singleton.mpr (lt_of_piece? hn)
      | cons next parts =>
          rw [pieces?] at h
          obtain ⟨n, hn, h⟩ := Option.bind_eq_some_iff.mp h
          obtain ⟨rest, hrest, h⟩ := Option.bind_eq_some_iff.mp h
          obtain rfl := Option.some.inj h
          exact List.forall_mem_cons.mpr ⟨lt_of_piece? hn, ih hrest⟩
          · exact fun h => nomatch h

theorem lt_of_colonPieces? {dotted : Bool} {cs : List Char} {ns : List Nat}
    (h : colonPieces? dotted cs = some ns) : ∀ n ∈ ns, n < pieceLimit := by
  unfold colonPieces? at h
  split at h
  · obtain rfl := Option.some.inj h
    exact fun _ hn => absurd hn List.not_mem_nil
  · exact lt_of_pieces? h

/-- An IPv6 address has eight pieces. -/
theorem pieces_of_ipv6? {cs : List Char} {pieces : List Nat} (h : ipv6? cs = some pieces) :
    pieces.length = 8 ∧ ∀ n ∈ pieces, n < pieceLimit := by
  unfold ipv6? at h
  split at h
  · obtain ⟨ns, hns, h⟩ := Option.bind_eq_some_iff.mp h
    split at h
    · next hlength =>
      obtain rfl := Option.some.inj h
      exact ⟨hlength, lt_of_colonPieces? hns⟩
    · contradiction
  · obtain ⟨front, hfront, h⟩ := Option.bind_eq_some_iff.mp h
    obtain ⟨back, hback, h⟩ := Option.bind_eq_some_iff.mp h
    split at h
    · next hlength =>
      obtain rfl := Option.some.inj h
      constructor
      · simp only [List.length_append, List.length_replicate]
        omega
      · intro n hn
        rcases List.mem_append.mp hn with hn | hn
        · rcases List.mem_append.mp hn with hn | hn
          · exact lt_of_colonPieces? hfront n hn
          · rw [List.eq_of_mem_replicate hn]
            decide
        · exact lt_of_colonPieces? hback n hn
    · contradiction

/-! ## the text of an IPv6 address -/

/-- The characters of a piece are no separators. -/
theorem ne_of_mem_toDigits {n : Nat} {c : Char} (h : c ∈ Nat.toDigits 16 n) :
    c ≠ ':' ∧ c ≠ '.' := by
  obtain ⟨hforbidden, hdot⟩ := plain_of_mem_toDigits (by decide) (by decide) h
  exact ⟨fun heq => absurd hforbidden (heq ▸ by decide), hdot⟩

theorem piecesText_cons {n : Nat} {ns : List Nat} (h : ns ≠ []) :
    piecesText (n :: ns) = Nat.toDigits 16 n ++ ':' :: piecesText ns := by
  rw [piecesText, List.map_cons, List.intercalate_cons_of_ne_nil (by simpa using h)]
  simp [piecesText]

/-- Pieces are read back from their hexadecimal digits. -/
theorem pieces?_toDigits (dotted : Bool) {ns : List Nat} (h : ∀ n ∈ ns, n < pieceLimit) :
    pieces? dotted (ns.map (Nat.toDigits 16)) = some ns := by
  induction ns with
  | nil => rfl
  | cons n ns ih =>
      obtain ⟨hn, hns⟩ := List.forall_mem_cons.mp h
      cases ns with
      | nil =>
          have hdot : '.' ∉ Nat.toDigits 16 n := fun hmem => (ne_of_mem_toDigits hmem).2 rfl
          simp [pieces?, hdot, piece?_toDigits hn]
      | cons m ns =>
          have hrest := ih hns
          rw [List.map_cons] at hrest
          rw [List.map_cons, List.map_cons, pieces?, piece?_toDigits hn, hrest]
          · rfl
          · exact fun heq => nomatch heq

/-- Pieces are read again. -/
theorem colonPieces?_piecesText (dotted : Bool) {ns : List Nat} (h : ∀ n ∈ ns, n < pieceLimit) :
    colonPieces? dotted (piecesText ns) = some ns := by
  cases ns with
  | nil => rfl
  | cons n ns =>
      have hsplit : splitBy (· = ':') (piecesText (n :: ns)) =
          (n :: ns).map (Nat.toDigits 16) := by
        refine splitBy_intercalate (by simp) fun piece hpiece c hc => ?_
        obtain ⟨m, -, rfl⟩ := List.mem_map.mp hpiece
        exact decide_eq_false (ne_of_mem_toDigits hc).1
      have hne : (piecesText (n :: ns)).isEmpty = false := by
        cases htext : piecesText (n :: ns) with
        | nil =>
            rw [htext] at hsplit
            have hfirst := (List.cons.inj hsplit).1
            exact absurd hfirst.symm Nat.toDigits_ne_nil
        | cons c cs => rfl
      rw [colonPieces?, hne, if_neg (by decide), hsplit, pieces?_toDigits dotted h]

/-! ## the gap -/

theorem splitGap_cons {c : Char} (cs : List Char) (h : c ≠ ':' ∨ cs.head? ≠ some ':') :
    splitGap (c :: cs) = (splitGap cs).map fun parts => (c :: parts.1, parts.2) := by
  rw [splitGap]
  rintro rest rfl rfl
  simp at h

/-- Without colons, there is no gap. -/
theorem splitGap_append {front : List Char} (h : ∀ c ∈ front, c ≠ ':') (rest : List Char) :
    splitGap (front ++ rest) = (splitGap rest).map fun parts => (front ++ parts.1, parts.2) := by
  induction front with
  | nil => simp
  | cons c front ih =>
      obtain ⟨hc, hfront⟩ := List.forall_mem_cons.mp h
      rw [List.cons_append, splitGap_cons _ (.inl hc), ih hfront, Option.map_map]
      rfl

/-- There is no gap between pieces. -/
theorem splitGap_piecesText (ns : List Nat) (rest : List Char) :
    splitGap (piecesText ns ++ rest) =
      (splitGap rest).map fun parts => (piecesText ns ++ parts.1, parts.2) := by
  have hdigits : ∀ n, ∀ c ∈ Nat.toDigits 16 n, c ≠ ':' := fun _ _ hc => (ne_of_mem_toDigits hc).1
  induction ns with
  | nil => simp [piecesText]
  | cons n ns ih =>
      cases ns with
      | nil => simpa [piecesText] using splitGap_append (hdigits n) rest
      | cons m ns =>
          have hhead : (piecesText (m :: ns) ++ rest).head? ≠ some ':' := by
            have hm : ∃ c cs, Nat.toDigits 16 m = c :: cs :=
              List.exists_cons_of_ne_nil Nat.toDigits_ne_nil
            obtain ⟨c, cs, hm⟩ := hm
            have hc := hdigits m c (hm ▸ List.mem_cons_self ..)
            cases ns with
            | nil => simpa [piecesText, hm] using hc
            | cons k ns =>
                rw [piecesText_cons (List.cons_ne_nil _ _), hm]
                simpa using hc
          rw [piecesText_cons (List.cons_ne_nil _ _), List.append_assoc, List.cons_append,
            splitGap_append (hdigits n), splitGap_cons _ (.inr hhead), ih, Option.map_map,
            Option.map_map]
          refine congrArg (fun f => (splitGap rest).map f) (funext fun parts => ?_)
          simp

/-! ## the longest run of zeros -/

/- The run that is left out is a part of the pieces, so the pieces are those before it,
zeros, and those behind it. This is the shape in which the reader puts them together
again. -/

/-- The run that is left out stands where it is said to. -/
theorem longestRun_eq (place : Nat) (pieces : List Nat) :
    ∃ i ≤ pieces.length, longestRun place pieces = (place + i, zeroRun (pieces.drop i)) := by
  induction pieces generalizing place with
  | nil => exact ⟨0, Nat.le_refl _, rfl⟩
  | cons p pieces ih =>
      obtain ⟨i, hi, hlater⟩ := ih (place + 1)
      rw [longestRun]
      split
      · exact ⟨0, Nat.zero_le _, rfl⟩
      · refine ⟨i + 1, Nat.succ_le_succ hi, ?_⟩
        rw [hlater, List.drop_succ_cons, Nat.add_assoc, Nat.add_comm 1 i]

/-- A run of zeros and what follows it. -/
theorem replicate_zeroRun (pieces : List Nat) :
    List.replicate (zeroRun pieces) 0 ++ pieces.drop (zeroRun pieces) = pieces := by
  have hzeros : pieces.takeWhile (· = 0) = List.replicate (zeroRun pieces) 0 :=
    List.eq_replicate_iff.mpr ⟨rfl, fun n hn => by
      simpa using List.mem_takeWhile_imp hn⟩
  rw [← hzeros]
  exact (List.prefix_iff_eq_append.mp (List.takeWhile_prefix _))

/-- An IPv6 address is read again. -/
theorem ipv6?_text {pieces : List Nat} (hlength : pieces.length = 8)
    (h : ∀ n ∈ pieces, n < pieceLimit) : ipv6? (ipv6Text pieces) = some pieces := by
  obtain ⟨i, hi, hrun⟩ := longestRun_eq 0 pieces
  rw [Nat.zero_add] at hrun
  rw [ipv6Text, hrun]
  dsimp only
  split
  · have hgap : splitGap (piecesText pieces) = none := by
      have hnone := splitGap_piecesText pieces []
      rwa [List.append_nil] at hnone
    rw [ipv6?, hgap]
    simp [colonPieces?_piecesText true h, hlength]
  · have hsame := replicate_zeroRun (pieces.drop i)
    generalize zeroRun (pieces.drop i) = k at *
    rw [List.drop_drop] at hsame
    have hbound := congrArg List.length hsame
    simp only [List.length_append, List.length_replicate, List.length_drop] at hbound
    have hgap : splitGap (piecesText (pieces.take i) ++ [':', ':'] ++
        piecesText (pieces.drop (i + k))) =
        some (piecesText (pieces.take i), piecesText (pieces.drop (i + k))) := by
      rw [List.append_assoc, splitGap_piecesText]
      simp [splitGap]
    have hfront : colonPieces? false (piecesText (pieces.take i)) = some (pieces.take i) :=
      colonPieces?_piecesText false fun n hn => h n (List.mem_of_mem_take hn)
    have hback : colonPieces? true (piecesText (pieces.drop (i + k))) =
        some (pieces.drop (i + k)) :=
      colonPieces?_piecesText true fun n hn => h n (List.mem_of_mem_drop hn)
    have hfrontLength : (pieces.take i).length = i := List.length_take_of_le hi
    have hbackLength : (pieces.drop (i + k)).length = 8 - (i + k) := by
      rw [List.length_drop, hlength]
    have hgapLength : 8 - i - (8 - (i + k)) = k := by omega
    rw [ipv6?, hgap]
    dsimp only
    rw [hfront, hback, Option.bind_eq_bind, Option.bind_some, Option.bind_some, hfrontLength,
      hbackLength, if_pos (by omega), hgapLength,
      List.append_assoc, hsame, List.take_append_drop]

/-! ## hosts -/

/-- Characters in ASCII that are no percent sign stay when they are decoded. -/
theorem decode_encode {cs : List Char} (h : '%' ∉ cs) (hascii : ∀ c ∈ cs, c.toNat < 128) :
    decode (Utf8.encode cs) = Utf8.encode cs := by
  refine decode_eq_self_iff.mpr fun rest hrest => ?_
  unfold beginsEncoded
  split
  · next a b c rest =>
    have ha : a ∈ Utf8.encode cs := hrest.subset (List.mem_cons_self ..)
    obtain ⟨x, hx, hax⟩ := List.mem_flatMap.mp ha
    rw [Utf8.utf8EncodeChar_of_lt (hascii x hx), List.mem_singleton] at hax
    have hne : a ≠ percentSign := by
      rintro rfl
      have hcode := congrArg UInt8.toNat hax
      have hsmall := hascii x hx
      rw [UInt8.toNat_ofNat_of_lt' (Nat.lt_trans hsmall (by decide))] at hcode
      refine h ?_
      rw [← Char.ofNat_toNat x, ← hcode] at hx
      exact hx
    simp [hne]
  · rfl

/-- A name in ASCII is looked up as it stands. -/
theorem parse_name {name : List Char} (h : Domain.toAscii? name = some name) :
    parse name =
      if name.isEmpty then .error .emptyHost
      else if endsInNumber name then
        match ipv4? name with
        | some address => .ok (.ipv4 address)
        | none => .error .invalidIpv4
      else .ok (.domain name) := by
  obtain ⟨hascii, hforbidden⟩ := Domain.ascii_of_toAscii? h
  have hbracket : name.head? ≠ some '[' := fun heq =>
    absurd (hforbidden '[' (List.mem_of_head? heq)) (by decide)
  have hpercent : '%' ∉ name := fun hmem => absurd (hforbidden '%' hmem) (by decide)
  rw [parse, if_neg hbracket, decode_encode hpercent fun c hc => of_decide_eq_true (hascii c hc),
    Utf8.decodeLossy_encode]
  generalize Domain.toAscii? name = found at h ⊢
  subst h
  rfl

/-- An IPv4 address is read back. -/
theorem parse_ipv4 {address : Nat} (h : address < 256 ^ 4) :
    parse (ipv4 address).text = .ok (.ipv4 address) := by
  have hname : Domain.toAscii? (ipv4 address).text = some (ipv4 address).text :=
    Domain.toAscii?_numbers (by simp [ipv4Bytes]) isDigit_of_mem_byteDigits
  have hne : (ipv4 address).text.isEmpty = false := by
    cases htext : (ipv4 address).text with
    | nil =>
        have hdigits := endsInNumber_text address
        rw [htext] at hdigits
        exact absurd hdigits (by decide)
    | cons c cs => rfl
  rw [parse_name hname, hne, endsInNumber_text, ipv4?_text h]
  rfl

/-- An IPv6 address is read back. -/
theorem parse_ipv6 {pieces : List Nat} (hlength : pieces.length = 8)
    (h : ∀ n ∈ pieces, n < pieceLimit) : parse (ipv6 pieces).text = .ok (.ipv6 pieces) := by
  have hbracketed : bracketed? (ipv6 pieces).text = some (ipv6Text pieces) := by
    rw [text, bracketed?, List.getLast?_concat, if_pos rfl, List.dropLast_concat]
  have hhead : (ipv6 pieces).text.head? = some '[' := rfl
  rw [parse, if_pos hhead, inBrackets, hbracketed, Option.bind_some, ipv6?_text hlength h]

/-- How a host was read. -/
theorem cases_of_parse {cs : List Char} {host : Host} (h : parse cs = .ok host) :
    (∃ name, host = .domain name ∧ Domain.toAscii? name = some name ∧ name.isEmpty = false ∧
        endsInNumber name = false) ∨
      (∃ address, host = .ipv4 address ∧ address < 256 ^ 4) ∨
      ∃ pieces, host = .ipv6 pieces ∧ pieces.length = 8 ∧ ∀ n ∈ pieces, n < pieceLimit := by
  unfold parse at h
  split at h
  · unfold inBrackets at h
    split at h
    · next pieces hpieces =>
      cases h
      obtain ⟨inner, -, hpieces⟩ := Option.bind_eq_some_iff.mp hpieces
      exact .inr (.inr ⟨pieces, rfl, pieces_of_ipv6? hpieces⟩)
    · contradiction
  · split at h
    · contradiction
    · next name hname =>
      split at h
      · contradiction
      · next hne =>
        split at h
        · split at h
          · next address haddress =>
            cases h
            exact .inr (.inl ⟨address, rfl, lt_of_ipv4? haddress⟩)
          · contradiction
        · next hnumber =>
          cases h
          exact .inl ⟨name, rfl, Domain.toAscii?_of_toAscii? hname, Bool.not_eq_true _ ▸ hne,
            Bool.not_eq_true _ ▸ hnumber⟩

/-- A host is read again from its text. -/
theorem parse_text {cs : List Char} {host : Host} (h : parse cs = .ok host) :
    parse host.text = .ok host := by
  rcases cases_of_parse h with
    ⟨name, rfl, hname, hne, hnumber⟩ | ⟨address, rfl, hlt⟩ | ⟨pieces, rfl, hlength, hlt⟩
  · rw [text, parse_name hname, hne, hnumber]
    rfl
  · exact parse_ipv4 hlt
  · exact parse_ipv6 hlength hlt

/-! ## characters of hosts -/

theorem mem_piecesText {pieces : List Nat} {c : Char} (h : c ∈ piecesText pieces) :
    c = ':' ∨ Domain.isForbidden c = false := by
  rcases mem_intercalate h with h | ⟨digits, hdigits, h⟩
  · exact .inl (List.mem_singleton.mp h)
  · obtain ⟨n, -, rfl⟩ := List.mem_map.mp hdigits
    exact .inr (plain_of_mem_toDigits (by decide) (by decide) h).1

theorem mem_ipv6Text {pieces : List Nat} {c : Char} (h : c ∈ ipv6Text pieces) :
    c = ':' ∨ Domain.isForbidden c = false := by
  unfold ipv6Text at h
  dsimp only at h
  split at h
  · exact mem_piecesText h
  · rcases List.mem_append.mp h with h | h
    · rcases List.mem_append.mp h with h | h
      · exact mem_piecesText h
      · exact .inl (by simpa using h)
    · exact mem_piecesText h

theorem mem_ipv4 {address : Nat} {c : Char} (h : c ∈ (ipv4 address).text) :
    Domain.isForbidden c = false := by
  rcases mem_intercalate h with h | ⟨digits, hdigits, h⟩
  · rw [List.mem_singleton.mp h]
    decide
  · obtain ⟨n, -, rfl⟩ := List.mem_map.mp hdigits
    exact (plain_of_mem_toDigits (by decide) (by decide) h).1

/-- A host has characters with a meaning in a URL only if it stands in brackets; those
between the brackets are colons. -/
theorem brackets_of_parse {cs : List Char} {host : Host} (h : parse cs = .ok host) :
    (∀ c ∈ host.text, Domain.isForbidden c = false) ∨
      ∃ inner, host.text = '[' :: (inner ++ [']']) ∧
        ∀ c ∈ inner, c = ':' ∨ Domain.isForbidden c = false := by
  rcases cases_of_parse h with ⟨name, rfl, hname, -⟩ | ⟨address, rfl, -⟩ | ⟨pieces, rfl, -⟩
  · exact .inl (Domain.ascii_of_toAscii? hname).2
  · exact .inl fun c hc => mem_ipv4 hc
  · exact .inr ⟨_, rfl, fun c hc => mem_ipv6Text hc⟩

/-- The text of a host that was read has no forbidden character, the marks of an IPv6
address apart. -/
theorem mem_text_of_parse {cs : List Char} {host : Host} (h : parse cs = .ok host) {c : Char}
    (hc : c ∈ host.text) : c ∈ ['[', ':', ']'] ∨ Domain.isForbidden c = false := by
  rcases brackets_of_parse h with hnone | ⟨inner, htext, hinner⟩
  · exact .inr (hnone c hc)
  · rw [htext, List.mem_cons, List.mem_append, List.mem_singleton] at hc
    rcases hc with rfl | hc | rfl
    · exact .inl (by decide)
    · exact (hinner c hc).imp_left fun heq => by rw [heq]; decide
    · exact .inl (by decide)

/-- A host that was read has a text. -/
theorem text_ne_nil_of_parse {cs : List Char} {host : Host} (h : parse cs = .ok host) :
    host.text ≠ [] := by
  rcases cases_of_parse h with ⟨name, rfl, -, hne, -⟩ | ⟨address, rfl, -⟩ | ⟨pieces, rfl, -⟩
  · simpa [text] using hne
  · simp [text, ipv4Bytes, List.intercalate]
  · exact List.cons_ne_nil _ _

end SearchRelay.Url.Host
