import SearchRelay.Proofs.Text.Composition
import SearchRelay.Proofs.Url.Punycode
import SearchRelay.Url.Domain

/-!
# SearchRelay.Proofs.Url.Domain

A name in ASCII stays as it is.

1. `unfolded?_encoded` — an encoded label is unfolded again, if it is one that a name
   can have (`IsLabel`);
2. `toAscii?_intercalate` — so the labels of a name in ASCII are those that were
   encoded, and the name is the same again;
3. `toAscii?_of_toAscii?` — every name that is given is such a name.
-/

namespace SearchRelay.Url

/-- Values that are all given. -/
theorem mapM_eq_some_iff {α β : Type} {f : α → Option β} {xs : List α} {ys : List β} :
    xs.mapM f = some ys ↔ List.Forall₂ (fun x y => f x = some y) xs ys := by
  induction xs generalizing ys with
  | nil =>
      rw [List.mapM_nil, List.forall₂_nil_left_iff]
      exact ⟨fun h => (Option.some.inj h).symm, fun h => congrArg some h.symm⟩
  | cons x xs ih =>
      rw [List.mapM_cons, List.forall₂_cons_left_iff]
      constructor
      · intro h
        obtain ⟨y, hy, h⟩ := Option.bind_eq_some_iff.mp h
        obtain ⟨rest, hrest, h⟩ := Option.bind_eq_some_iff.mp h
        exact ⟨y, rest, hy, ih.mp hrest, (Option.some.inj h).symm⟩
      · rintro ⟨y, rest, hy, hrest, rfl⟩
        rw [hy, ih.mpr hrest]
        rfl

theorem exists_of_mapM {α β : Type} {f : α → Option β} {xs : List α} {ys : List β}
    (h : xs.mapM f = some ys) {y : β} (hy : y ∈ ys) : ∃ x ∈ xs, f x = some y := by
  rw [mapM_eq_some_iff] at h
  induction h with
  | nil => contradiction
  | cons hfirst _ ih =>
      rcases List.mem_cons.mp hy with rfl | hy
      · exact ⟨_, List.mem_cons_self .., hfirst⟩
      · obtain ⟨x, hx, hxy⟩ := ih hy
        exact ⟨x, List.mem_cons_of_mem _ hx, hxy⟩

namespace Domain

open Text

/-! ## characters -/

/-- An allowed character stays. -/
theorem fate_of_isAllowed {c : Char} (h : isAllowed c = true) : fate c = .stays := by
  unfold isAllowed at h
  split at h
  · assumption
  · contradiction

/-- ASCII is allowed, capitals apart. -/
theorem isAllowed_of_isAscii {c : Char} (h : isAscii c = true) (hupper : c.isUpper = false) :
    isAllowed c = true := by
  simp [isAllowed, fate, h, hupper]

/-- Allowed characters are not replaced. -/
theorem replaced?_of_allowed {cs : List Char} (h : ∀ c ∈ cs, isAllowed c = true) :
    replaced? cs = some cs := by
  induction cs with
  | nil => rfl
  | cons c cs ih =>
      obtain ⟨hc, hcs⟩ := List.forall_mem_cons.mp h
      rw [replaced?, ih hcs, fate_of_isAllowed hc]
      rfl

theorem isAscii_of_isDigit {c : Char} (h : c.isDigit = true) : isAscii c = true := by
  simp only [Char.isDigit, ge_iff_le, Bool.and_eq_true, decide_eq_true_eq] at h
  exact decide_eq_true (Nat.lt_of_le_of_lt (UInt32.le_iff_toNat_le.mp h.2) (by decide))

theorem plain_of_isDigit {c : Char} (h : c.isDigit = true) :
    c.isUpper = false ∧ isForbidden c = false := by
  have hall : ∀ n : Fin 128, (Char.ofNat n.val).isDigit = true →
      (Char.ofNat n.val).isUpper = false ∧ isForbidden (Char.ofNat n.val) = false := by decide
  have hc := hall ⟨c.toNat, of_decide_eq_true (isAscii_of_isDigit h)⟩
  rw [Char.ofNat_toNat] at hc
  exact hc h

/-- Joiners stand beyond ASCII. -/
theorem joinersFit_of_isAscii {before cs : List Char} (h : ∀ c ∈ cs, isAscii c = true) :
    joinersFit before cs = true := by
  induction cs generalizing before with
  | nil => rfl
  | cons c cs ih =>
      obtain ⟨hc, hcs⟩ := List.forall_mem_cons.mp h
      have hjoiner : c ≠ '\u200d' ∧ c ≠ '\u200c' :=
        ⟨fun heq => absurd hc (heq ▸ by decide), fun heq => absurd hc (heq ▸ by decide)⟩
      rw [joinersFit, if_neg hjoiner.1, if_neg hjoiner.2, ih hcs]
      rfl

/-- The characters that encoding brings into a label. -/
theorem plain_of_written {c : Char} (h : c = '-' ∨ ∃ digit < 36, c = Punycode.digitChar digit) :
    isAscii c = true ∧ c.isUpper = false ∧ c ≠ '.' := by
  rcases h with rfl | ⟨digit, hdigit, rfl⟩
  · decide
  · have hall : ∀ d : Fin 36, isAscii (Punycode.digitChar d.val) = true ∧
        (Punycode.digitChar d.val).isUpper = false ∧ Punycode.digitChar d.val ≠ '.' := by decide
    exact hall ⟨digit, hdigit⟩

/-- The characters of an encoded label. -/
theorem mem_encoded {label : List Char} {c : Char} (h : c ∈ encoded label) :
    isAscii c = true ∧ (c ∈ label ∨ c.isUpper = false ∧ c ≠ '.') := by
  unfold encoded at h
  split at h
  · next hascii => exact ⟨List.all_eq_true.mp hascii c h, .inl h⟩
  · rcases List.mem_append.mp h with h | h
    · have hall : ∀ d ∈ encodedMark, isAscii d = true ∧ d.isUpper = false ∧ d ≠ '.' :=
        List.forall_iff_forall_mem.mp (by decide)
      exact (hall c h).imp_right .inr
    · rcases Punycode.mem_encode h with ⟨hmem, hascii⟩ | h
      · exact ⟨decide_eq_true hascii, .inl hmem⟩
      · exact (plain_of_written h).imp_right .inr

/-! ## labels -/

/- A label is in ASCII already, or it is encoded and marked as such. Either way the text
that is written is unfolded to the label it was made from. -/

/-- A label as it stands in a name. -/
structure IsLabel (label : List Char) : Prop where
  valid : isValid label = true
  composed : Canonical.nfc label = label
  /-- A label in ASCII does not look like an encoded one. -/
  unmarked : label.all isAscii = true → encodedMark.isPrefixOf label = false

section

variable {label : List Char}

theorem IsLabel.allowed (h : IsLabel label) : ∀ c ∈ label, isAllowed c = true := by
  have hvalid := h.valid
  simp only [isValid, Bool.and_eq_true] at hvalid
  exact List.all_eq_true.mp hvalid.1.2

theorem IsLabel.dot_notMem (h : IsLabel label) : '.' ∉ label := by
  have hvalid := h.valid
  simp only [isValid, Bool.and_eq_true, Bool.not_eq_true', List.contains_eq_mem,
    decide_eq_false_iff_not] at hvalid
  exact hvalid.1.1.2

/-- What an encoded label consists of. -/
theorem IsLabel.mem_encoded (h : IsLabel label) {c : Char} (hc : c ∈ encoded label) :
    isAllowed c = true ∧ c ≠ '.' := by
  obtain ⟨hascii, hmem | ⟨hupper, hdot⟩⟩ := Domain.mem_encoded hc
  · exact ⟨h.allowed c hmem, fun heq => h.dot_notMem (heq ▸ hmem)⟩
  · exact ⟨isAllowed_of_isAscii hascii hupper, hdot⟩

/-- An encoded label is unfolded again. -/
theorem unfolded?_encoded (h : IsLabel label) : unfolded? (encoded label) = some label := by
  by_cases hascii : label.all isAscii = true
  · rw [encoded, if_pos hascii, unfolded?, if_neg (by simp [h.unmarked hascii])]
  · have hprefix : encodedMark.isPrefixOf (encodedMark ++ Punycode.encode label) = true :=
      List.isPrefixOf_iff_prefix.mpr (List.prefix_append ..)
    have hallowed : label.all isAllowed = true := List.all_eq_true.mpr h.allowed
    rw [encoded, if_neg hascii, unfolded?, if_pos hprefix, List.drop_left,
      Punycode.decode?_encode]
    exact if_neg (by simp [hascii, hallowed, h.composed])

/-- The labels of a name. -/
theorem isLabel_of_unfolded? {piece name : List Char}
    (hpiece : piece ∈ splitBy (· = '.') (Canonical.nfc name)) (h : unfolded? piece = some label)
    (hvalid : isValid label = true) : IsLabel label := by
  unfold unfolded? at h
  split at h
  · obtain ⟨chars, -, h⟩ := Option.bind_eq_some_iff.mp h
    split at h
    · contradiction
    · next hneeded =>
      obtain rfl := Option.some.inj h
      rw [not_or, not_or, not_not] at hneeded
      exact ⟨hvalid, hneeded.2.1, fun hascii => absurd hascii hneeded.1⟩
  · next hplain =>
    obtain rfl := Option.some.inj h
    exact ⟨hvalid, Canonical.nfc_of_mem_splitBy hpiece, fun _ => Bool.not_eq_true _ ▸ hplain⟩

/-- A number is a label. -/
theorem isLabel_of_digits (h : ∀ c ∈ label, c.isDigit = true) : IsLabel label := by
  have hascii : ∀ c ∈ label, isAscii c = true := fun c hc => isAscii_of_isDigit (h c hc)
  have hsmall : ∀ c ∈ label, c.toNat < 128 := fun c hc => of_decide_eq_true (hascii c hc)
  have hmark : label.head?.any isMark = false := by
    cases label with
    | nil => rfl
    | cons c label =>
        exact Canonical.isMark_of_lt (Nat.lt_trans (hsmall c (List.mem_cons_self ..)) (by decide))
  have hallowed : label.all isAllowed = true := List.all_eq_true.mpr fun c hc =>
    isAllowed_of_isAscii (hascii c hc) (plain_of_isDigit (h c hc)).1
  refine ⟨?_, Canonical.nfc_of_forall_lt fun c hc => Nat.lt_trans (hsmall c hc) (by decide),
    fun _ => ?_⟩
  · have hdot : label.contains '.' = false := by
      rw [List.contains_eq_mem, decide_eq_false_iff_not]
      exact fun hmem => absurd (h '.' hmem) (by decide)
    rw [isValid, hmark, hdot, hallowed, joinersFit_of_isAscii hascii]
    rfl
  · rw [← Bool.not_eq_true, List.isPrefixOf_iff_prefix]
    intro hmarked
    exact absurd (h 'x' (hmarked.subset (List.mem_cons_self ..))) (by decide)

end

/-- Digits are encoded as they are. -/
theorem encoded_of_digits {label : List Char} (h : ∀ c ∈ label, c.isDigit = true) :
    encoded label = label :=
  if_pos (List.all_eq_true.mpr fun c hc => isAscii_of_isDigit (h c hc))

/-! ## names -/

/-- An encoded name is in ASCII. -/
theorem isAscii_of_mem_name {labels : List (List Char)} {c : Char}
    (h : c ∈ List.intercalate ['.'] (labels.map encoded)) : isAscii c = true := by
  rcases mem_intercalate h with h | ⟨_, hmem, h⟩
  · rw [List.mem_singleton.mp h]
    decide
  · obtain ⟨label, -, rfl⟩ := List.mem_map.mp hmem
    exact (mem_encoded h).1

/-- The labels of a name that is given. -/
theorem labels_of_toAscii? {cs name : List Char} (h : toAscii? cs = some name) :
    ∃ labels, name = List.intercalate ['.'] (labels.map encoded) ∧ labels ≠ [] ∧
      (∀ label ∈ labels, IsLabel label) ∧
      (¬ labels.any isBidi = true ∨ labels.all directionsFit = true) ∧
      name.any isForbidden = false := by
  obtain ⟨chars, -, h⟩ := Option.bind_eq_some_iff.mp h
  obtain ⟨labels, hlabels, h⟩ := Option.bind_eq_some_iff.mp h
  split at h
  · next hfit =>
    dsimp only at h
    split at h
    · contradiction
    · next hforbidden =>
      obtain rfl := Option.some.inj h
      refine ⟨labels, rfl, ?_, ?_, hfit.2, Bool.not_eq_true _ ▸ hforbidden⟩
      · rintro rfl
        exact splitBy_ne_nil _ _ (List.forall₂_nil_right_iff.mp (mapM_eq_some_iff.mp hlabels))
      · intro label hlabel
        obtain ⟨piece, hpiece, hunfolded⟩ := exists_of_mapM hlabels hlabel
        exact isLabel_of_unfolded? hpiece hunfolded (List.all_eq_true.mp hfit.1 label hlabel)
  · contradiction

/-- A name that is given is in ASCII and holds nothing that has a meaning in a URL. -/
theorem ascii_of_toAscii? {cs name : List Char} (h : toAscii? cs = some name) :
    (∀ c ∈ name, isAscii c = true) ∧ ∀ c ∈ name, isForbidden c = false := by
  obtain ⟨labels, rfl, -, -, -, hforbidden⟩ := labels_of_toAscii? h
  rw [List.any_eq_false] at hforbidden
  exact ⟨fun c hc => isAscii_of_mem_name hc, fun c hc => Bool.not_eq_true _ ▸ hforbidden c hc⟩

/-- The labels of a name in ASCII are those that were encoded. -/
theorem toAscii?_intercalate {labels : List (List Char)} (hne : labels ≠ [])
    (hlabels : ∀ label ∈ labels, IsLabel label)
    (hbidi : ¬ labels.any isBidi = true ∨ labels.all directionsFit = true)
    (hforbidden : (List.intercalate ['.'] (labels.map encoded)).any isForbidden = false) :
    toAscii? (List.intercalate ['.'] (labels.map encoded)) =
      some (List.intercalate ['.'] (labels.map encoded)) := by
  have hascii : ∀ c ∈ List.intercalate ['.'] (labels.map encoded), isAscii c = true :=
    fun c hc => isAscii_of_mem_name hc
  have hallowed : ∀ c ∈ List.intercalate ['.'] (labels.map encoded), isAllowed c = true := by
    intro c hc
    rcases mem_intercalate hc with hc | ⟨_, hmem, hc⟩
    · rw [List.mem_singleton.mp hc]
      exact isAllowed_of_isAscii (by decide) (by decide)
    · obtain ⟨label, hlabel, rfl⟩ := List.mem_map.mp hmem
      exact ((hlabels label hlabel).mem_encoded hc).1
  have hnfc : Canonical.nfc (List.intercalate ['.'] (labels.map encoded)) =
      List.intercalate ['.'] (labels.map encoded) :=
    Canonical.nfc_of_forall_lt fun c hc =>
      Nat.lt_trans (of_decide_eq_true (hascii c hc)) (by decide)
  have hsplit : splitBy (· = '.') (List.intercalate ['.'] (labels.map encoded)) =
      labels.map encoded := by
    refine splitBy_intercalate (by simpa using hne) fun piece hpiece c hc => ?_
    obtain ⟨label, hlabel, rfl⟩ := List.mem_map.mp hpiece
    exact decide_eq_false ((hlabels label hlabel).mem_encoded hc).2
  have hunfolded : (labels.map encoded).mapM unfolded? = some labels := by
    rw [mapM_eq_some_iff, List.forall₂_map_left_iff, List.forall₂_same]
    exact fun label hlabel => unfolded?_encoded (hlabels label hlabel)
  have hvalid : labels.all isValid = true :=
    List.all_eq_true.mpr fun label hlabel => (hlabels label hlabel).valid
  rw [toAscii?, replaced?_of_allowed hallowed, Option.bind_eq_bind,
    Option.bind_some, hnfc, hsplit, hunfolded, Option.bind_eq_bind, Option.bind_some,
    if_pos ⟨hvalid, hbidi⟩]
  exact if_neg (by simp [hforbidden])

/-- Numbers between dots are a name in ASCII. -/
theorem toAscii?_numbers {numbers : List (List Char)} (hne : numbers ≠ [])
    (h : ∀ number ∈ numbers, ∀ c ∈ number, c.isDigit = true) :
    toAscii? (List.intercalate ['.'] numbers) = some (List.intercalate ['.'] numbers) := by
  have hencoded : numbers.map encoded = numbers := by
    rw [List.map_congr_left fun number hnumber => encoded_of_digits (h number hnumber),
      List.map_id']
  have hbidi : ¬ numbers.any isBidi = true := by
    rw [List.any_eq_true]
    rintro ⟨number, hnumber, hmixed⟩
    obtain ⟨c, hc, hdirection⟩ := List.any_eq_true.mp hmixed
    rw [direction, if_pos (h number hnumber c hc)] at hdirection
    exact absurd hdirection (by decide)
  have hforbidden : (List.intercalate ['.'] numbers).any isForbidden = false := by
    rw [List.any_eq_false]
    intro c hc hforbidden
    rcases mem_intercalate hc with hc | ⟨number, hnumber, hc⟩
    · rw [List.mem_singleton.mp hc] at hforbidden
      exact absurd hforbidden (by decide)
    · exact absurd hforbidden (by simp [(plain_of_isDigit (h number hnumber c hc)).2])
  have hlabels : ∀ number ∈ numbers, IsLabel number := fun number hnumber =>
    isLabel_of_digits (h number hnumber)
  have hname := toAscii?_intercalate hne hlabels (.inl hbidi) (hencoded.symm ▸ hforbidden)
  rwa [hencoded] at hname

/-- A name in ASCII stays as it is. -/
theorem toAscii?_of_toAscii? {cs name : List Char} (h : toAscii? cs = some name) :
    toAscii? name = some name := by
  obtain ⟨labels, rfl, hne, hlabels, hbidi, hforbidden⟩ := labels_of_toAscii? h
  exact toAscii?_intercalate hne hlabels hbidi hforbidden

end Domain

end SearchRelay.Url
