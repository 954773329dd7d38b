import SearchRelay.Proofs.Text.Search

/-!
# SearchRelay.Proofs.Text.ByteRange

The first occurrence of a text in another one as a range of UTF-8 bytes.

1. `StandsAt haystack needle start stop` — the text is cut between characters at both
   offsets, and what lies between them is the needle, character by character, up to
   the case.
2. `FirstMatch.standsAt` — the first occurrence stands at its range;
   `firstMatch_iff_forall_not_standsAt` — an occurrence is the first one if the needle
   stands at no smaller offset.
3. `StandsAt.bounds` — the range is not empty and lies in the text.

`rangeLaw_findIgnoringCase?` says which range is found, and when none is.
-/

namespace SearchRelay.Text

/-- A needle stands in a text between two offsets, whatever the case. -/
def StandsAt (haystack needle : String) (start stop : Nat) : Prop :=
  ∃ before matched after : String, haystack = before ++ (matched ++ after) ∧
    before.utf8ByteSize = start ∧ (before ++ matched).utf8ByteSize = stop ∧
      List.Forall₂ (fun n c => sameLower n c) needle.toList matched.toList

/-- Offsets at which a needle stands, the first ones in the text. -/
structure StandsFirstAt (haystack needle : String) (start stop : Nat) : Prop where
  stands : StandsAt haystack needle start stop
  first : ∀ start' < start, ∀ stop', ¬ StandsAt haystack needle start' stop'

/-- What a search for a needle has to find: the offsets at which it stands first, where
the text can be cut, and nothing only where it stands nowhere. -/
structure RangeLaw (haystack needle : String) (range : Option (Nat × Nat)) : Prop where
  found : ∀ start stop, range = some (start, stop) ↔ StandsFirstAt haystack needle start stop
  bounds : ∀ start stop, range = some (start, stop) →
    start < stop ∧ stop ≤ haystack.utf8ByteSize ∧
      String.Pos.Raw.IsValid haystack ⟨start⟩ ∧ String.Pos.Raw.IsValid haystack ⟨stop⟩
  missing : range = none ↔ ∀ start stop, ¬ StandsAt haystack needle start stop

variable {haystack needle : String} {o : Occurrence}

/-! ## bytes -/

theorem byteSize_append (cs ds : List Char) : byteSize (cs ++ ds) = byteSize cs + byteSize ds := by
  rw [byteSize_eq, byteSize_eq, byteSize_eq, String.ofList_append, String.utf8ByteSize_append]

theorem byteSize_pos {cs : List Char} (h : cs ≠ []) : 0 < byteSize cs := by
  cases cs with
  | nil => exact absurd rfl h
  | cons c cs => exact Nat.lt_of_lt_of_le c.utf8Size_pos (Nat.le_add_right _ _)

/-- Of two beginnings of a text the one with fewer bytes has fewer characters. -/
theorem length_lt_of_byteSize_lt {cs near far nearRest farRest : List Char}
    (hnear : cs = near ++ nearRest) (hfar : cs = far ++ farRest)
    (h : byteSize near < byteSize far) : near.length < far.length := by
  by_contra hle
  obtain ⟨more, hmore⟩ : far <+: near :=
    List.prefix_of_prefix_length_le (hfar ▸ List.prefix_append _ _)
      (hnear ▸ List.prefix_append _ _) (Nat.le_of_not_lt hle)
  rw [← hmore, byteSize_append] at h
  exact Nat.not_lt.mpr (Nat.le_add_right _ _) h

/-! ## places -/

/-- A range of bytes between characters is an occurrence. -/
theorem standsAt_iff {start stop : Nat} :
    StandsAt haystack needle start stop ↔
      ∃ o : Occurrence, haystack.toList = o.before ++ (o.matched ++ o.after) ∧
        List.Forall₂ (fun n c => sameLower n c) needle.toList o.matched ∧
          o.byteRange = (start, stop) := by
  constructor
  · rintro ⟨before, matched, after, rfl, rfl, rfl, hsame⟩
    refine ⟨⟨before.toList, matched.toList, after.toList⟩, ?_, hsame, ?_⟩
    · simp
    · rw [Occurrence.byteRange, byteSize_eq, byteSize_eq, String.utf8ByteSize_append]
      simp
  · rintro ⟨o, htext, hsame, hrange⟩
    obtain ⟨rfl, rfl⟩ := Prod.mk.inj hrange
    refine ⟨String.ofList o.before, String.ofList o.matched, String.ofList o.after, ?_, ?_, ?_, ?_⟩
    · rw [← String.ofList_append, ← String.ofList_append, ← htext, String.ofList_toList]
    · rw [byteSize_eq]
    · rw [String.utf8ByteSize_append, byteSize_eq, byteSize_eq]
    · rwa [String.toList_ofList]

/-- The first match stands at its range of bytes. -/
theorem FirstMatch.standsAt (h : FirstMatch haystack needle o) :
    StandsAt haystack needle o.byteRange.1 o.byteRange.2 :=
  standsAt_iff.mpr ⟨o, h.text, h.same, rfl⟩

/-- An occurrence is the first one if the needle stands at no smaller offset. -/
theorem firstMatch_iff_forall_not_standsAt
    (htext : haystack.toList = o.before ++ (o.matched ++ o.after))
    (hsame : List.Forall₂ (fun n c => sameLower n c) needle.toList o.matched) :
    FirstMatch haystack needle o ↔
      ∀ start < o.byteRange.1, ∀ stop, ¬ StandsAt haystack needle start stop := by
  constructor
  · intro h start hstart stop hstands
    obtain ⟨p, hp, hpsame, hprange⟩ := standsAt_iff.mp hstands
    obtain ⟨rfl, -⟩ := Prod.mk.inj hprange
    refine h.first p.before.length (length_lt_of_byteSize_lt hp htext hstart) ?_
    rw [hp, List.drop_left]
    exact ⟨p.matched, p.after, rfl, hpsame⟩
  · refine fun h => ⟨htext, hsame, fun i hi hbegins => ?_⟩
    obtain ⟨matched, after, hdrop, hmatched⟩ := hbegins
    have hcut : haystack.toList = haystack.toList.take i ++ (matched ++ after) := by
      rw [← hdrop, List.take_append_drop]
    have htake : haystack.toList.take i = o.before.take i := by
      rw [htext, List.take_append_of_le_length (Nat.le_of_lt hi)]
    have hless : byteSize (o.before.take i) < byteSize o.before := by
      have hsum := byteSize_append (o.before.take i) (o.before.drop i)
      have hrest : 0 < byteSize (o.before.drop i) :=
        byteSize_pos fun hnil => absurd (List.drop_eq_nil_iff.mp hnil) (Nat.not_le.mpr hi)
      rw [List.take_append_drop] at hsum
      omega
    refine h _ hless _ (standsAt_iff.mpr ⟨⟨o.before.take i, matched, after⟩, ?_, hmatched, rfl⟩)
    rw [← htake, ← hcut]

/-- A place of the needle is not empty and lies in the text, which is cut between
characters at both ends. -/
theorem StandsAt.bounds (hneedle : needle ≠ "") {start stop : Nat}
    (h : StandsAt haystack needle start stop) :
    start < stop ∧ stop ≤ haystack.utf8ByteSize ∧
      String.Pos.Raw.IsValid haystack ⟨start⟩ ∧ String.Pos.Raw.IsValid haystack ⟨stop⟩ := by
  obtain ⟨before, matched, after, rfl, rfl, rfl, hsame⟩ := h
  have hmatched : matched.utf8ByteSize ≠ 0 := by
    rw [ne_eq, String.utf8ByteSize_eq_zero_iff]
    rintro rfl
    exact hneedle (String.toList_eq_nil_iff.mp (List.forall₂_nil_right_iff.mp hsame))
  refine ⟨?_, ?_, ?_, ?_⟩
  · rw [String.utf8ByteSize_append]
    omega
  · simp only [String.utf8ByteSize_append]
    omega
  · exact String.Pos.Raw.isValid_iff_exists_append.mpr ⟨before, _, rfl, rfl⟩
  · exact String.Pos.Raw.isValid_iff_exists_append.mpr
      ⟨before ++ matched, after, String.append_assoc.symm, rfl⟩

/-! ## what is found -/

/-- The range that is found is the first at which the needle stands. -/
theorem byteRange_eq_some_iff (hneedle : needle ≠ "") {start stop : Nat} :
    (findIgnoringCase? haystack needle).map Occurrence.byteRange = some (start, stop) ↔
      StandsFirstAt haystack needle start stop := by
  have hne : needle.toList ≠ [] := by simpa using hneedle
  rw [Option.map_eq_some_iff]
  constructor
  · rintro ⟨o, hfound, hrange⟩
    have hfirst := (findIgnoringCase?_eq_some_iff hne).mp hfound
    obtain ⟨rfl, rfl⟩ := Prod.mk.inj hrange
    exact ⟨hfirst.standsAt, (firstMatch_iff_forall_not_standsAt hfirst.text hfirst.same).mp hfirst⟩
  · rintro ⟨hstands, hnone⟩
    obtain ⟨o, htext, hsame, hrange⟩ := standsAt_iff.mp hstands
    obtain ⟨rfl, rfl⟩ := Prod.mk.inj hrange
    refine ⟨o, (findIgnoringCase?_eq_some_iff hne).mpr ?_, rfl⟩
    exact (firstMatch_iff_forall_not_standsAt htext hsame).mpr hnone

/-- Where the needle stands somewhere, an occurrence is found. -/
theorem findIgnoringCase?_ne_none (hneedle : needle ≠ "") {start stop : Nat}
    (h : StandsAt haystack needle start stop) : findIgnoringCase? haystack needle ≠ none := by
  induction start using Nat.strongRecOn generalizing stop with
  | ind start ih =>
      by_cases hleast : ∀ start' < start, ∀ stop', ¬ StandsAt haystack needle start' stop'
      · intro hnone
        have hfound := (byteRange_eq_some_iff hneedle).mpr ⟨h, hleast⟩
        rw [hnone] at hfound
        contradiction
      · push Not at hleast
        obtain ⟨start', hless, stop', hstands⟩ := hleast
        exact ih start' hless hstands

/-- **The range of the first occurrence** is found. -/
theorem rangeLaw_findIgnoringCase? (haystack : String) {needle : String} (hneedle : needle ≠ "") :
    RangeLaw haystack needle ((findIgnoringCase? haystack needle).map Occurrence.byteRange) := by
  refine ⟨fun start stop => byteRange_eq_some_iff hneedle, fun start stop hfound => ?_, ?_⟩
  · exact ((byteRange_eq_some_iff hneedle).mp hfound).stands.bounds hneedle
  · rw [Option.map_eq_none_iff]
    constructor
    · exact fun hnone start stop hstands => findIgnoringCase?_ne_none hneedle hstands hnone
    · intro hnowhere
      cases hfound : findIgnoringCase? haystack needle with
      | none => rfl
      | some o =>
          have hrange : (findIgnoringCase? haystack needle).map Occurrence.byteRange =
              some (o.byteRange.1, o.byteRange.2) := by rw [hfound]; rfl
          exact absurd ((byteRange_eq_some_iff hneedle).mp hrange).stands (hnowhere _ _)

/-- Letters of two bytes stand before the match and in it. -/
theorem rangeLaw_findIgnoringCase?_umlauts :
    "äRG" ≠ "" ∧ RangeLaw "über Ärger" "äRG" (some (6, 10)) := by
  have hneedle : "äRG" ≠ "" := by decide
  have hfound : (findIgnoringCase? "über Ärger" "äRG").map Occurrence.byteRange =
      some (6, 10) := by decide +kernel
  exact ⟨hneedle, hfound ▸ rangeLaw_findIgnoringCase? "über Ärger" hneedle⟩

end SearchRelay.Text
