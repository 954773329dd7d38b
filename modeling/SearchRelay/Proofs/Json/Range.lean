import SearchRelay.Proofs.Json.Ordered

/-!
# SearchRelay.Proofs.Json.Range

Documents in which every integer is in range.

1. `wellFormed_of_meaning?` — the value of such a document is well-formed;
2. `inRange_of_parse?` — every document that is read from a text is such a one.
-/

namespace SearchRelay.Json

/-! ## well-formed values -/

/-- Fields collected from a list are sorted. -/
theorem Fields.sorted_ofList (fields : Fields) : (ofList fields).Sorted := by
  suffices haux : ∀ acc : Fields, acc.Sorted →
      (fields.foldl (fun (out : Fields) f => out.insert f.1 f.2) acc).Sorted from
    haux [] List.Pairwise.nil
  induction fields with
  | nil => exact fun acc hacc => hacc
  | cons field rest ih => exact fun acc hacc => ih _ (sorted_insert _ _ hacc)

/-- Fields collected from a list come from the list. -/
theorem Fields.mem_of_mem_ofList {field : String × Json} {fields : Fields}
    (h : field ∈ ofList fields) : field ∈ fields := by
  suffices haux : ∀ acc : Fields,
      field ∈ fields.foldl (fun (out : Fields) f => out.insert f.1 f.2) acc →
        field ∈ acc ∨ field ∈ fields from (haux [] h).resolve_left nofun
  clear h
  induction fields with
  | nil => exact fun acc hacc => .inl hacc
  | cons first rest ih =>
      intro acc hacc
      rcases ih _ hacc with hmem | hmem
      · rcases mem_of_mem_insert hmem with rfl | hmem
        · exact .inr List.mem_cons_self
        · exact .inl hmem
      · exact .inr (List.mem_cons_of_mem _ hmem)

mutual

/-- Well-formed values are ordered. -/
theorem ordered_of_wellFormed : (v : Json) → v.WellFormed → v.Ordered
  | .null, _ | .bool _, _ | .number _, _ | .string _, _ => trivial
  | .array items, h => itemsOrdered_of_wellFormed items h
  | .object fields, h => ⟨h.1, fieldsOrdered_of_wellFormed fields h.2⟩

theorem itemsOrdered_of_wellFormed : (items : List Json) → ItemsWellFormed items →
    ItemsOrdered items
  | [], _ => trivial
  | v :: vs, h => ⟨ordered_of_wellFormed v h.1, itemsOrdered_of_wellFormed vs h.2⟩

theorem fieldsOrdered_of_wellFormed : (fields : Fields) → FieldsWellFormed fields →
    FieldsOrdered fields
  | [], _ => trivial
  | (_, v) :: rest, h => ⟨ordered_of_wellFormed v h.1, fieldsOrdered_of_wellFormed rest h.2⟩

end

namespace Document

/-! ## integers in range -/

/- An integer of a document is one that fits in a word of 64 bits. Values made of such
documents are well formed, since objects are sorted when they are made. -/

mutual

/-- Every integer is in range. -/
def InRange : Document → Prop
  | .null | .bool _ | .number none | .string _ => True
  | .number (some n) => n.InRange
  | .array items => ItemsInRange items
  | .object fields => FieldsInRange fields

/-- Every integer in the items is in range. -/
def ItemsInRange : List Document → Prop
  | [] => True
  | d :: ds => d.InRange ∧ ItemsInRange ds

/-- Every integer in the fields is in range. -/
def FieldsInRange : List (Option String × Document) → Prop
  | [] => True
  | (_, d) :: rest => d.InRange ∧ FieldsInRange rest

end

/-- The items are in range if and only if each item is. -/
theorem itemsInRange_iff (items : List Document) :
    ItemsInRange items ↔ ∀ d ∈ items, d.InRange := by
  induction items with
  | nil => simp [ItemsInRange]
  | cons d ds ih => simp [ItemsInRange, ih]

/-- The fields are in range if and only if the value of each field is. -/
theorem fieldsInRange_iff (fields : List (Option String × Document)) :
    FieldsInRange fields ↔ ∀ field ∈ fields, field.2.InRange := by
  induction fields with
  | nil => simp [FieldsInRange]
  | cons field rest ih => simp [FieldsInRange, ih]

/-- An object collected from well-formed values is well formed, whatever the order of its
fields. -/
theorem wellFormed_ofFields {fields : Fields} (h : FieldsWellFormed fields) :
    (Json.ofFields fields).WellFormed := by
  refine ⟨Fields.sorted_ofList fields, (fieldsWellFormed_iff _).mpr fun field hfield => ?_⟩
  exact (fieldsWellFormed_iff fields).mp h field (Fields.mem_of_mem_ofList hfield)

mutual

/-- The value of a document with integers in range. -/
theorem wellFormed_of_meaning? : (d : Document) → d.InRange → {v : Json} → d.meaning? = some v →
    v.WellFormed
  | .null, _, v, h | .bool _, _, v, h => by
      cases h
      trivial
  | .number none, _, v, h => nomatch h
  | .number (some n), hd, v, h => by
      cases h
      exact hd
  | .string s, _, v, h => by
      obtain ⟨_, _, rfl⟩ := Option.map_eq_some_iff.mp h
      trivial
  | .array items, hd, v, h => by
      obtain ⟨vs, hvs, rfl⟩ := Option.map_eq_some_iff.mp h
      exact wellFormed_of_itemMeanings? items hd hvs
  | .object fields, hd, v, h => by
      obtain ⟨vs, hvs, rfl⟩ := Option.map_eq_some_iff.mp h
      exact wellFormed_ofFields (wellFormed_of_fieldMeanings? fields hd hvs)

theorem wellFormed_of_itemMeanings? : (items : List Document) → ItemsInRange items →
    {vs : List Json} → itemMeanings? items = some vs → ItemsWellFormed vs
  | [], _, vs, h => by
      cases h
      trivial
  | d :: ds, hitems, vs, h => by
      obtain ⟨v, hv, h⟩ := Option.bind_eq_some_iff.mp h
      obtain ⟨rest, hrest, h⟩ := Option.bind_eq_some_iff.mp h
      cases h
      exact ⟨wellFormed_of_meaning? d hitems.1 hv, wellFormed_of_itemMeanings? ds hitems.2 hrest⟩

theorem wellFormed_of_fieldMeanings? : (fields : List (Option String × Document)) →
    FieldsInRange fields → {vs : Fields} → fieldMeanings? fields = some vs → FieldsWellFormed vs
  | [], _, vs, h => by
      cases h
      trivial
  | (key, d) :: ds, hfields, vs, h => by
      obtain ⟨k, _, h⟩ := Option.bind_eq_some_iff.mp h
      obtain ⟨v, hv, h⟩ := Option.bind_eq_some_iff.mp h
      obtain ⟨rest, hrest, h⟩ := Option.bind_eq_some_iff.mp h
      cases h
      exact ⟨wellFormed_of_meaning? d hfields.1 hv,
        wellFormed_of_fieldMeanings? ds hfields.2 hrest⟩

end

/-- A value of a document in range is well formed, under any limit of nesting. -/
theorem wellFormed_of_value? {d : Document} (hd : d.InRange) {limit : Option Nat} {v : Json}
    (h : d.value? limit = some v) : v.WellFormed := by
  rw [value?] at h
  split at h
  · exact wellFormed_of_meaning? d hd h
  · cases h

mutual

/-- Null in place of a number without a value. -/
theorem inRange_filled : (d : Document) → d.InRange → d.filled.InRange
  | .null, _ | .bool _, _ | .number none, _ | .string _, _ => trivial
  | .number (some _), h => h
  | .array items, h => inRange_filledItems items h
  | .object fields, h => inRange_filledFields fields h

theorem inRange_filledItems : (items : List Document) → ItemsInRange items →
    ItemsInRange (filledItems items)
  | [], _ => trivial
  | d :: ds, h => ⟨inRange_filled d h.1, inRange_filledItems ds h.2⟩

theorem inRange_filledFields : (fields : List (Option String × Document)) →
    FieldsInRange fields → FieldsInRange (filledFields fields)
  | [], _ => trivial
  | (_, d) :: rest, h => ⟨inRange_filled d h.1, inRange_filledFields rest h.2⟩

end

end Document

/-! ## numbers that are read -/

/-- The collected digits never pass the largest significand: the rest counts as an
exponent. -/
theorem collectWhole_le (ds : List Nat) {n : Nat} (h : n ≤ largestSignificand) :
    (collectWhole n ds).significand ≤ largestSignificand := by
  induction ds generalizing n with
  | nil => exact h
  | cons d ds ih =>
      rw [collectWhole]
      split
      · exact h
      · next hle => exact ih (Nat.le_of_not_lt hle)

/-- A number that is read is in range. -/
theorem inRange_value? {p : NumberParts} {n : Number} (h : p.value? = some n) : n.InRange := by
  have hle := collectWhole_le p.whole (Nat.zero_le largestSignificand)
  have hlargest : (largestSignificand : Int) < integerEnd := by decide
  have hleast : leastInteger ≤ 0 := by decide
  rw [NumberParts.value?] at h
  dsimp only at h
  split at h
  · next hinteger =>
    cases h
    obtain ⟨-, -, -, hsign⟩ := hinteger
    split
    · next hnegative =>
      have hbound := hsign.resolve_left (by simp [hnegative])
      exact ⟨by omega, by omega⟩
    · exact ⟨by omega, by omega⟩
  · obtain ⟨x, -, rfl⟩ := Option.map_eq_some_iff.mp h
    trivial

/-- A token whose number is in range. -/
def Token.InRange : Token → Prop
  | .number (some n) => n.InRange
  | _ => True

/-- A scanned token is in range. -/
theorem inRange_scanToken {cs rest : List Char} {t : Token} (h : scanToken cs = some (t, rest)) :
    t.InRange := by
  unfold scanToken at h
  split at h
  case h_10 =>
    obtain ⟨read, -, h⟩ := Option.bind_eq_some_iff.mp h
    cases h
    trivial
  case h_11 =>
    obtain ⟨read, -, h⟩ := Option.bind_eq_some_iff.mp h
    cases h
    cases hvalue : read.1.value? with
    | none => trivial
    | some n => exact inRange_value? hvalue
  all_goals
    cases h
    trivial

/-- The tokens of a text are in range. -/
theorem inRange_of_mem_tokens? {cs : List Char} {ts : List Token} (h : tokens? cs = some ts) :
    ∀ t ∈ ts, t.InRange := by
  fun_induction tokens? cs generalizing ts with
  | case1 =>
      cases h
      exact nofun
  | case2 c rest hblank ih => exact ih h
  | case3 c rest hblank hscan => cases h
  | case4 c rest hblank token after hscan ih =>
      obtain ⟨more, hmore, rfl⟩ := Option.map_eq_some_iff.mp h
      exact List.forall_mem_cons.mpr ⟨inRange_scanToken hscan, ih hmore⟩

namespace Document

/-! ## documents that are read -/

/- The invariant of the reader says that all values on its stack and the one just read
are in range. Tokens in range keep it. -/

/-- What an open container holds so far is in range. -/
def Frame.InRange : Frame → Prop
  | .array before => ItemsInRange before
  | .object before _ => FieldsInRange before

/-- What has been read of the innermost container is in range. -/
def Awaiting.InRange : Awaiting → Prop
  | .key before | .colon before _ => FieldsInRange before
  | .after v => v.InRange
  | .value | .firstItem | .firstKey => True

/-- What has been read is in range. -/
structure Reader.InRange (r : Reader) : Prop where
  awaiting : r.awaiting.InRange
  frames : ∀ frame ∈ r.frames, frame.InRange

theorem itemsInRange_reverse {items : List Document} (h : ItemsInRange items) :
    ItemsInRange items.reverse :=
  (itemsInRange_iff _).mpr fun d hd => (itemsInRange_iff items).mp h d (List.mem_reverse.mp hd)

theorem fieldsInRange_reverse {fields : List (Option String × Document)}
    (h : FieldsInRange fields) :
    FieldsInRange fields.reverse :=
  (fieldsInRange_iff _).mpr fun d hd => (fieldsInRange_iff fields).mp h d (List.mem_reverse.mp hd)

/-- A scalar from a token in range is in range. -/
theorem inRange_scalar? {t : Token} {v : Document} (ht : t.InRange) (h : scalar? t = some v) :
    v.InRange := by
  cases t with
  | number n =>
      cases h
      cases n with
      | none => trivial
      | some n => exact ht
  | null | bool | string =>
      cases h
      trivial
  | beginArray | endArray | beginObject | endObject | colon | comma => cases h

/-- The start of a value keeps the reader in range. -/
theorem inRange_startValue {frames : List Frame} {t : Token} {next : Reader}
    (hframes : ∀ frame ∈ frames, frame.InRange) (ht : t.InRange)
    (h : Reader.startValue frames t = some next) : next.InRange := by
  unfold Reader.startValue at h
  split at h
  · cases h
    exact ⟨trivial, List.forall_mem_cons.mpr ⟨trivial, hframes⟩⟩
  · cases h
    exact ⟨trivial, hframes⟩
  · obtain ⟨v, hv, rfl⟩ := Option.map_eq_some_iff.mp h
    exact ⟨inRange_scalar? ht hv, hframes⟩

/-- A token after a value keeps the reader in range. -/
theorem inRange_afterValue {v : Document} {frames : List Frame} {t : Token} {next : Reader}
    (hv : v.InRange) (hframes : ∀ frame ∈ frames, frame.InRange)
    (h : Reader.afterValue v frames t = some next) : next.InRange := by
  unfold Reader.afterValue at h
  split at h
  · cases h
    obtain ⟨hframe, hframes⟩ := List.forall_mem_cons.mp hframes
    exact ⟨trivial, List.forall_mem_cons.mpr ⟨⟨hv, hframe⟩, hframes⟩⟩
  · cases h
    obtain ⟨hframe, hframes⟩ := List.forall_mem_cons.mp hframes
    exact ⟨itemsInRange_reverse ⟨hv, hframe⟩, hframes⟩
  · cases h
    obtain ⟨hframe, hframes⟩ := List.forall_mem_cons.mp hframes
    exact ⟨⟨hv, hframe⟩, hframes⟩
  · cases h
    obtain ⟨hframe, hframes⟩ := List.forall_mem_cons.mp hframes
    exact ⟨fieldsInRange_reverse ⟨hv, hframe⟩, hframes⟩
  · cases h

/-- A token in range keeps the reader in range. -/
theorem inRange_step {r next : Reader} {t : Token} (hr : r.InRange) (ht : t.InRange)
    (h : r.step t = some next) : next.InRange := by
  obtain ⟨awaiting, frames⟩ := r
  obtain ⟨hawaiting, hframes⟩ := hr
  cases awaiting with
  | value => exact inRange_startValue hframes ht h
  | firstItem =>
      unfold Reader.step at h
      split at h
      case h_2 => exact inRange_startValue hframes ht h
      case h_1 heq =>
        cases h
        dsimp only at heq
        subst heq
        exact ⟨trivial, fun frame hframe => hframes frame (List.mem_cons_of_mem _ hframe)⟩
      all_goals contradiction
  | firstKey =>
      cases t
      case endObject | string =>
        cases h
        exact ⟨trivial, hframes⟩
      all_goals cases h
  | key before =>
      cases t
      case string =>
        cases h
        exact ⟨hawaiting, hframes⟩
      all_goals cases h
  | colon before key =>
      cases t
      case colon =>
        cases h
        exact ⟨trivial, List.forall_mem_cons.mpr ⟨hawaiting, hframes⟩⟩
      all_goals cases h
  | after v => exact inRange_afterValue hawaiting hframes h

/-- Tokens in range keep the reader in range. -/
theorem inRange_of_foldlM {r last : Reader} {ts : List Token} (hr : r.InRange)
    (hts : ∀ t ∈ ts, t.InRange) (h : ts.foldlM Reader.step r = some last) : last.InRange := by
  induction ts generalizing r with
  | nil =>
      cases h
      exact hr
  | cons t ts ih =>
      obtain ⟨ht, hts⟩ := List.forall_mem_cons.mp hts
      rw [List.foldlM_cons] at h
      obtain ⟨next, hnext, h⟩ := Option.bind_eq_some_iff.mp h
      exact ih (inRange_step hr ht hnext) hts h

/-- Every integer of a document that is read from a text is in range. -/
theorem inRange_of_parse? {text : String} {d : Document} (h : parse? text = some d) :
    d.InRange := by
  obtain ⟨ts, hts, h⟩ := Option.bind_eq_some_iff.mp h
  obtain ⟨last, hlast, h⟩ := Option.bind_eq_some_iff.mp h
  have hread := @inRange_of_foldlM ⟨.value, []⟩ last ts ⟨trivial, nofun⟩
    (inRange_of_mem_tokens? hts) hlast
  unfold Reader.finish? at h
  split at h
  · next hawaiting _ =>
    cases h
    have hd := hread.awaiting
    rwa [hawaiting] at hd
  · cases h

end Document

end SearchRelay.Json
