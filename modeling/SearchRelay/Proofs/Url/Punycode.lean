import Mathlib.Data.List.TakeWhile
import Mathlib.Tactic.Ring
import Mathlib.Tactic.Tauto
import SearchRelay.Url.Punycode

/-!
# SearchRelay.Proofs.Url.Punycode

What is encoded is decoded again.

1. `foldlM_digits` — the digits of a step are read as the step;
2. `Follows` — the decoder that has read the digits written so far holds the
   characters passed so far, and the step of the encoder is the way from its place
   to the place of the encoder.  Passing a character keeps this (`Follows.pass`), and
   so does going on with the next code point (`Follows.encodePoints`);
3. `decode?_encode` — in the end the decoder holds the label.
-/

namespace SearchRelay.Url.Punycode

/-! ## digits -/

/-- A digit is read as the number it was written for. -/
theorem digitValue?_digitChar {d : Nat} (h : d < 36) : digitValue? (digitChar d) = some d := by
  have hall : ∀ d : Fin 36, digitValue? (digitChar d.val) = some d.val := by decide
  exact hall ⟨d, h⟩

/-- The hyphen is no digit. -/
theorem digitChar_ne_hyphen {d : Nat} (h : d < 36) : digitChar d ≠ '-' := by
  have hall : ∀ d : Fin 36, digitChar d.val ≠ '-' := by decide
  exact hall ⟨d, h⟩

/-- A number is written in digits. -/
theorem mem_digits {bias position value : Nat} {c : Char} (h : c ∈ digits bias position value) :
    ∃ d < 36, c = digitChar d := by
  have hbounds := threshold_bounds
  induction value using Nat.strongRecOn generalizing position with
  | ind value ih =>
      obtain ⟨hlow, hhigh⟩ := hbounds position bias
      rw [digits] at h
      split at h
      · next hsmall => exact ⟨value, by omega, List.mem_singleton.mp h⟩
      · next hlarge =>
        rcases List.mem_cons.mp h with rfl | h
        · refine ⟨_, ?_, rfl⟩
          have hmod := Nat.mod_lt (value - threshold position bias)
            (show 0 < 36 - threshold position bias by omega)
          omega
        · exact ih _ (Nat.lt_of_le_of_lt (Nat.div_le_self _ _) (by omega)) h

/-- A digit below the threshold ends a number, and any other one adds to it. -/
theorem step_of_digit (d : Decoder) {digit : Nat} (h : digit < 36) :
    d.step (digitChar digit) =
      if digit < threshold d.position d.bias then d.finishStep (d.value + digit * d.weight)
      else some { d with
        value := d.value + digit * d.weight
        weight := d.weight * (36 - threshold d.position d.bias)
        position := d.position + 36 } := by
  rw [Decoder.step, digitValue?_digitChar h]
  rfl

/-- The digits of a step are read as the step. -/
theorem foldlM_digits (d : Decoder) (value : Nat) :
    (digits d.bias d.position value).foldlM Decoder.step d =
      d.finishStep (d.value + value * d.weight) := by
  induction value using Nat.strongRecOn generalizing d with
  | ind value ih =>
      obtain ⟨hlow, hhigh⟩ := threshold_bounds d.position d.bias
      rw [digits]
      split
      · next hsmall =>
        rw [List.foldlM_cons, step_of_digit d (by omega), if_pos hsmall]
        exact bind_pure _
      · next hlarge =>
        have hbase : 0 < 36 - threshold d.position d.bias := by omega
        generalize ht : threshold d.position d.bias = t at *
        have hmod := Nat.mod_lt (value - t) hbase
        have hless : (value - t) / (36 - t) < value :=
          Nat.lt_of_le_of_lt (Nat.div_le_self _ _) (by omega)
        rw [List.foldlM_cons, step_of_digit d (by omega), ht, if_neg (by omega)]
        refine (ih _ hless { d with
          value := d.value + (t + (value - t) % (36 - t)) * d.weight
          weight := d.weight * (36 - t)
          position := d.position + 36 }).trans ?_
        -- the first digit and the weighted rest make up the step
        have hsplit : t + (value - t) % (36 - t) + (36 - t) * ((value - t) / (36 - t)) = value := by
          rw [Nat.add_assoc, Nat.mod_add_div]
          omega
        have hvalue : d.value + (t + (value - t) % (36 - t)) * d.weight +
            (value - t) / (36 - t) * (d.weight * (36 - t)) = d.value + value * d.weight := by
          calc d.value + (t + (value - t) % (36 - t)) * d.weight +
                (value - t) / (36 - t) * (d.weight * (36 - t))
              = d.value + (t + (value - t) % (36 - t) + (36 - t) * ((value - t) / (36 - t))) *
                  d.weight := by ring
            _ = d.value + value * d.weight := by rw [hsplit]
        exact congrArg d.finishStep hvalue

/-! ## the walk -/

/- The encoder passes over the label once for each code point, and the decoder makes one
step for each character that the encoder writes. The two are in step when the decoder
holds what the encoder has passed. -/

/-- The decoder has read what the encoder has written behind `front`, from `start`
on.  `passed` are the characters that the encoder has passed for the code point
`point`, and `ahead` are the others. -/
structure Follows (front : List Char) (start : Decoder) (basic point : Nat)
    (passed ahead : List Char) (e : Encoder) (d : Decoder) : Prop where
  output : ∃ written, e.output = front ++ written ∧
    (∀ c ∈ written, ∃ digit < 36, c = digitChar digit) ∧
    written.foldlM Decoder.step start = some d
  /-- No step is begun. -/
  between : d.value = 0 ∧ d.weight = 1 ∧ d.position = 36
  bias : d.bias = e.bias
  /-- The decoder has the characters that come before the place of the encoder. -/
  label : d.label = passed.filter (fun c => c.toNat ≤ point) ++
    ahead.filter fun c => c.toNat < point
  handled : e.handled = d.label.length
  first : basic ≤ e.handled ∧ (d.place = 0 ↔ e.handled = basic)
  /-- The step of the encoder is the way between the places. -/
  walk : d.point * (d.label.length + 1) + d.place + e.delta =
    point * (d.label.length + 1) + (passed.filter fun c => c.toNat ≤ point).length

section

variable {front : List Char} {start : Decoder} {basic point : Nat} {passed ahead : List Char}
  {e : Encoder} {d : Decoder}

/-- Where the decoder gets to with the step of the encoder. -/
theorem Follows.arrives (h : Follows front start basic point passed ahead e d) :
    d.point + (d.place + e.delta) / (d.label.length + 1) = point ∧
      (d.place + e.delta) % (d.label.length + 1) =
        (passed.filter fun c => c.toNat ≤ point).length := by
  have hle : (passed.filter fun c => c.toNat ≤ point).length < d.label.length + 1 := by
    rw [h.label, List.length_append]
    omega
  have hwalk : d.place + e.delta + d.point * (d.label.length + 1) =
      (passed.filter fun c => c.toNat ≤ point).length + point * (d.label.length + 1) := by
    have := h.walk
    omega
  have hdiv := congrArg (· / (d.label.length + 1)) hwalk
  have hmod := congrArg (· % (d.label.length + 1)) hwalk
  simp only [Nat.add_mul_div_right _ _ (Nat.succ_pos _), Nat.add_mul_mod_self_right,
    Nat.div_eq_of_lt hle, Nat.mod_eq_of_lt hle] at hdiv hmod
  refine ⟨?_, hmod⟩
  rw [Nat.add_comm, hdiv, Nat.zero_add]

/-- With that step the decoder puts the character into its place. -/
theorem Follows.finishStep {c : Char}
    (h : Follows front start basic c.toNat passed (c :: ahead) e d) :
    ∃ d', d.finishStep e.delta = some d' ∧
      d'.label = (passed ++ [c]).filter (fun x => x.toNat ≤ c.toNat) ++
        ahead.filter (fun x => x.toNat < c.toNat) ∧
      d'.label.length = d.label.length + 1 ∧ d'.point = c.toNat ∧
      d'.place = ((passed ++ [c]).filter fun x => x.toNat ≤ c.toNat).length ∧
      d'.bias = adapt e.delta (d.label.length + 1) (d.place = 0) ∧
      d'.value = 0 ∧ d'.weight = 1 ∧ d'.position = 36 := by
  obtain ⟨hpoint, hplace⟩ := h.arrives
  have hlabel := h.label
  rw [List.filter_cons_of_neg (by simp)] at hlabel
  have hpassed : (passed ++ [c]).filter (fun x => x.toNat ≤ c.toNat) =
      passed.filter (fun x => x.toNat ≤ c.toNat) ++ [c] := by simp
  have hfinish : d.finishStep e.delta = some
      { label := d.label.take (passed.filter fun x => x.toNat ≤ c.toNat).length ++
          c :: d.label.drop (passed.filter fun x => x.toNat ≤ c.toNat).length
        point := c.toNat
        place := (passed.filter fun x => x.toNat ≤ c.toNat).length + 1
        bias := adapt e.delta (d.label.length + 1) (d.place = 0) } := by
    rw [Decoder.finishStep]
    simp only [hpoint, hplace, Char.ofNat_toNat]
    exact if_pos c.valid
  refine ⟨_, hfinish, ?_, ?_, rfl, ?_, rfl, rfl, rfl, rfl⟩
  · simp [hpassed, hlabel]
  · simp [hlabel]
    omega
  · simp [hpassed]

/-- The decoder takes the character that the encoder writes. -/
theorem Follows.write {c : Char} (h : Follows front start basic c.toNat passed (c :: ahead) e d) :
    ∃ d', Follows front start basic c.toNat (passed ++ [c]) ahead (e.pass basic c.toNat c) d' := by
  obtain ⟨written, hwritten, hdigits, hread⟩ := h.output
  obtain ⟨hvalue, hweight, hposition⟩ := h.between
  obtain ⟨hbasic, hfirst⟩ := h.first
  obtain ⟨d', hfinish, hlabel, hlength, hpoint, hplace, hbias, hbetween⟩ := h.finishStep
  have hpass : e.pass basic c.toNat c =
      ⟨e.output ++ digits e.bias 36 e.delta, 0,
        adapt e.delta (e.handled + 1) (e.handled = basic), e.handled + 1⟩ := by
    rw [Encoder.pass, if_neg (Nat.lt_irrefl _), if_pos rfl]
  have hstep : (digits e.bias 36 e.delta).foldlM Decoder.step d = some d' := by
    rw [← h.bias, ← hposition, foldlM_digits, hvalue, hweight, Nat.zero_add, Nat.mul_one, hfinish]
  rw [hpass]
  refine ⟨d', ⟨written ++ digits e.bias 36 e.delta, ?_, ?_, ?_⟩, hbetween, ?_, hlabel, ?_, ?_, ?_⟩
  · rw [hwritten, List.append_assoc]
  · exact List.forall_mem_append.mpr ⟨hdigits, fun _ hc => mem_digits hc⟩
  · rw [List.foldlM_append, hread]
    exact hstep
  · rw [hbias, h.handled]
    simp only [← h.handled, hfirst]
  · rw [hlength, h.handled]
  · rw [hplace, List.filter_append]
    simp
    omega
  · rw [hpoint, hplace]
    rfl

/-- Passing one character. -/
theorem Follows.pass {c : Char} (h : Follows front start basic point passed (c :: ahead) e d) :
    ∃ d', Follows front start basic point (passed ++ [c]) ahead (e.pass basic point c) d' := by
  rcases Nat.lt_trichotomy c.toNat point with hlt | rfl | hgt
  · have hpassed : (passed ++ [c]).filter (fun x => x.toNat ≤ point) =
        passed.filter (fun x => x.toNat ≤ point) ++ [c] := by simp [Nat.le_of_lt hlt]
    have hlabel := h.label
    rw [List.filter_cons_of_pos (by simpa using hlt)] at hlabel
    rw [Encoder.pass, if_pos hlt]
    refine ⟨d, h.output, h.between, h.bias, ?_, h.handled, h.first, ?_⟩
    · rw [hpassed, hlabel, List.append_assoc, List.singleton_append]
    · have := h.walk
      rw [hpassed, List.length_append, List.length_singleton]
      dsimp only
      omega
  · exact h.write
  · have hpassed : (passed ++ [c]).filter (fun x => x.toNat ≤ point) =
        passed.filter (fun x => x.toNat ≤ point) := by simp [hgt]
    have hlabel := h.label
    rw [List.filter_cons_of_neg (by simpa using Nat.le_of_lt hgt)] at hlabel
    rw [Encoder.pass, if_neg (Nat.lt_asymm hgt), if_neg (Nat.ne_of_gt hgt)]
    exact ⟨d, h.output, h.between, h.bias, hpassed ▸ hlabel, h.handled, h.first,
      hpassed ▸ h.walk⟩

/-- The decoder follows the encoder over the characters ahead. -/
theorem Follows.foldl (h : Follows front start basic point passed ahead e d) :
    ∃ d', Follows front start basic point (passed ++ ahead) []
      (ahead.foldl (Encoder.pass basic point) e) d' := by
  induction ahead generalizing passed e d with
  | nil => exact ⟨d, by rwa [List.append_nil]⟩
  | cons c ahead ih =>
      obtain ⟨d', h'⟩ := h.pass
      rw [List.append_cons, List.foldl_cons]
      exact ih h'

/-- The encoder goes on to a code point with none of the label before it. -/
theorem Follows.skip {label : List Char} {next : Nat}
    (h : Follows front start basic point [] label e d) (hle : point ≤ next)
    (hnone : ∀ c ∈ label, point ≤ c.toNat → next ≤ c.toNat) :
    Follows front start basic next [] label
      { e with delta := e.delta + (next - point) * (e.handled + 1) } d := by
  have hsame : label.filter (fun c => c.toNat < next) = label.filter fun c => c.toNat < point := by
    refine List.filter_congr fun c hc => ?_
    have := hnone c hc
    rw [decide_eq_decide]
    omega
  refine ⟨h.output, h.between, h.bias, ?_, h.handled, h.first, ?_⟩
  · rw [h.label, hsame]
    rfl
  · have hwalk := h.walk
    simp only [List.filter_nil, List.length_nil, Nat.add_zero] at hwalk ⊢
    rw [h.handled, ← Nat.add_assoc, hwalk, ← Nat.add_mul, Nat.add_sub_cancel' hle]

/-- The encoder has passed all characters for a code point. -/
theorem Follows.next {label : List Char} (h : Follows front start basic point label [] e d) :
    Follows front start basic (point + 1) [] label { e with delta := e.delta + 1 } d := by
  have hsame : label.filter (fun c => c.toNat < point + 1) =
      label.filter fun c => c.toNat ≤ point :=
    List.filter_congr fun c _ => by rw [decide_eq_decide, Nat.lt_succ_iff]
  have hlabel := h.label
  rw [List.filter_nil, List.append_nil] at hlabel
  refine ⟨h.output, h.between, h.bias, ?_, h.handled, h.first, ?_⟩
  · rw [hlabel, hsame]
    rfl
  · have hwalk := h.walk
    rw [← hlabel] at hwalk
    simp only [List.filter_nil, List.length_nil, Nat.add_zero, Nat.succ_mul]
    omega

/-- The decoder follows the encoder over all code points. -/
theorem Follows.encodePoints {label : List Char} {points : List Nat}
    (h : Follows front start basic point [] label e d) (hsorted : points.Pairwise (· < ·))
    (hlow : ∀ p ∈ points, point ≤ p) (hall : ∀ c ∈ label, point ≤ c.toNat → c.toNat ∈ points) :
    ∃ last d',
      Follows front start basic last [] label (encodePoints label basic point e points) d' ∧
      ∀ c ∈ label, c.toNat < last := by
  induction points generalizing point e d with
  | nil =>
      refine ⟨point, d, h, fun c hc => ?_⟩
      by_contra hlarge
      exact List.not_mem_nil (hall c hc (by omega))
  | cons p points ih =>
      obtain ⟨hp, hpoints⟩ := List.forall_mem_cons.mp hlow
      obtain ⟨hfirst, hrest⟩ := List.pairwise_cons.mp hsorted
      have hskip := h.skip hp fun c hc hle => by
        rcases List.mem_cons.mp (hall c hc hle) with heq | hmem
        · exact Nat.le_of_eq heq.symm
        · exact Nat.le_of_lt (hfirst _ hmem)
      obtain ⟨d', hpassed⟩ := hskip.foldl
      refine ih hpassed.next hrest (fun q hq => hfirst q hq) fun c hc hle => ?_
      exact (List.mem_cons.mp (hall c hc (by omega))).resolve_left (by omega)

end

/-! ## code points in order -/

/- The encoder takes the code points beyond ASCII in increasing order, each one once. -/

/-- A number is inserted among the others. -/
theorem mem_insertOnce {n m : Nat} {points : List Nat} :
    m ∈ insertOnce n points ↔ m = n ∨ m ∈ points := by
  induction points with
  | nil => simp [insertOnce]
  | cons p points ih =>
      rw [insertOnce]
      split
      · simp
      · split
        · next heq => simp [heq]
        · rw [List.mem_cons, ih, List.mem_cons]
          tauto

/-- Inserting keeps the order, and repeats nothing. -/
theorem pairwise_insertOnce (n : Nat) {points : List Nat} (h : points.Pairwise (· < ·)) :
    (insertOnce n points).Pairwise (· < ·) := by
  induction points with
  | nil => simp [insertOnce]
  | cons p points ih =>
      obtain ⟨hfirst, hrest⟩ := List.pairwise_cons.mp h
      rw [insertOnce]
      split
      · next hlt =>
        refine List.pairwise_cons.mpr ⟨fun m hm => ?_, h⟩
        rcases List.mem_cons.mp hm with rfl | hm
        · exact hlt
        · exact Nat.lt_trans hlt (hfirst m hm)
      · split
        · exact h
        · refine List.pairwise_cons.mpr ⟨fun m hm => ?_, ih hrest⟩
          rcases mem_insertOnce.mp hm with rfl | hm
          · omega
          · exact hfirst m hm

theorem mem_foldr_insertOnce {points : List Nat} {m : Nat} :
    m ∈ points.foldr insertOnce [] ↔ m ∈ points := by
  induction points with
  | nil => rfl
  | cons p points ih => rw [List.foldr_cons, mem_insertOnce, ih, List.mem_cons]

theorem pairwise_foldr_insertOnce (points : List Nat) :
    (points.foldr insertOnce []).Pairwise (· < ·) := by
  induction points with
  | nil => exact .nil
  | cons p points ih => exact pairwise_insertOnce p ih

/-! ## labels -/

/-- The characters of a label that are in ASCII. -/
def basicOf (label : List Char) : List Char := label.filter fun c => c.toNat < initialPoint

/-- What is written before the digits. -/
def frontOf (label : List Char) : List Char :=
  if (basicOf label).isEmpty then [] else basicOf label ++ ['-']

/-- A decoder in front of the digits. -/
def startOf (label : List Char) : Decoder := ⟨basicOf label, initialPoint, 0, initialBias, 0, 1, 36⟩

/-- What a label is encoded to: its characters in ASCII, and digits that are read as
the label. -/
theorem encode_eq (label : List Char) :
    ∃ written d, encode label = frontOf label ++ written ∧
      (∀ c ∈ written, ∃ digit < 36, c = digitChar digit) ∧
      written.foldlM Decoder.step (startOf label) = some d ∧ d.position = 36 ∧ d.label = label := by
  have hstart : Follows (frontOf label) (startOf label) (basicOf label).length initialPoint [] label
      ⟨frontOf label, 0, initialBias, (basicOf label).length⟩ (startOf label) :=
    ⟨⟨[], by simp, by simp, rfl⟩, ⟨rfl, rfl, rfl⟩, rfl, rfl, rfl,
      ⟨Nat.le_refl _, by simp [startOf]⟩, rfl⟩
  obtain ⟨last, d, hend, hlast⟩ := hstart.encodePoints
    (pairwise_foldr_insertOnce ((label.filter fun c => initialPoint ≤ c.toNat).map Char.toNat))
    (fun p hp => by
      obtain ⟨c, hc, rfl⟩ := List.mem_map.mp (mem_foldr_insertOnce.mp hp)
      exact of_decide_eq_true (List.mem_filter.mp hc).2)
    (fun c hc hle => mem_foldr_insertOnce.mpr
      (List.mem_map_of_mem (List.mem_filter.mpr ⟨hc, decide_eq_true hle⟩)))
  obtain ⟨written, hwritten, hdigits, hread⟩ := hend.output
  refine ⟨written, d, hwritten, hdigits, hread, hend.between.2.2, ?_⟩
  rw [hend.label, List.filter_nil, List.nil_append, List.filter_eq_self]
  exact fun c hc => decide_eq_true (hlast c hc)

/-- A character of an encoded label: one of the label, the hyphen, or a digit. -/
theorem mem_encode {label : List Char} {c : Char} (h : c ∈ encode label) :
    (c ∈ label ∧ c.toNat < initialPoint) ∨ c = '-' ∨ ∃ digit < 36, c = digitChar digit := by
  obtain ⟨written, d, hwritten, hdigits, -⟩ := encode_eq label
  rw [hwritten] at h
  rcases List.mem_append.mp h with h | h
  · unfold frontOf at h
    split at h
    · contradiction
    · rcases List.mem_append.mp h with h | h
      · obtain ⟨hmem, hbasic⟩ := List.mem_filter.mp h
        exact .inl ⟨hmem, of_decide_eq_true hbasic⟩
      · exact .inr (.inl (List.mem_singleton.mp h))
  · exact .inr (.inr (hdigits c h))

/-- The characters in ASCII stand before the last hyphen. -/
theorem splitLastHyphen_front {label written : List Char} (h : '-' ∉ written) :
    splitLastHyphen (frontOf label ++ written) = (basicOf label, written) := by
  have hwritten : ∀ c ∈ written.reverse, decide (c ≠ '-') = true := fun c hc =>
    decide_eq_true fun heq => h (heq ▸ List.mem_reverse.mp hc)
  have hall : written.reverse.takeWhile (· ≠ '-') = written.reverse :=
    List.takeWhile_eq_self_iff.mpr hwritten
  unfold frontOf
  split
  · next hempty =>
    rw [List.nil_append, List.isEmpty_iff.mp hempty, splitLastHyphen, hall]
    simp
  · next hne =>
    have hdigits : ((basicOf label ++ ['-'] ++ written).reverse.takeWhile (· ≠ '-')).reverse =
        written := by
      rw [List.reverse_append, List.takeWhile_append_of_pos hwritten, List.reverse_append]
      simp
    have hlength : (basicOf label ++ ['-'] ++ written).length - written.length - 1 =
        (basicOf label).length := by
      simp only [List.length_append, List.length_singleton]
      omega
    rw [splitLastHyphen, hdigits, hlength, List.append_assoc, List.take_left, if_neg hne]

/-- What is encoded is decoded again. -/
theorem decode?_encode (label : List Char) : decode? (encode label) = some label := by
  obtain ⟨written, d, hwritten, hdigits, hread, hposition, hlabel⟩ := encode_eq label
  have hhyphen : '-' ∉ written := by
    intro hmem
    obtain ⟨digit, hdigit, heq⟩ := hdigits _ hmem
    exact digitChar_ne_hyphen hdigit heq.symm
  have hbasic : (basicOf label).all (fun c => decide (c.toNat < initialPoint)) = true :=
    List.all_eq_true.mpr fun c hc => (List.mem_filter.mp hc).2
  rw [startOf] at hread
  rw [decode?, hwritten, splitLastHyphen_front hhyphen]
  simp [hbasic, hread, hposition, hlabel, guard]

end SearchRelay.Url.Punycode
