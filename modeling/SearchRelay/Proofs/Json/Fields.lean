import SearchRelay.Json.Basic

/-!
# SearchRelay.Proofs.Json.Fields

Objects as maps.

`Fields.find?` is the view: two objects hold the same if they answer every key
alike.  A field that is put in answers for its own key and for no other
(`find?_insert`), adds its own key and no other (`mem_keys_insert`), and keeps
the fields sorted (`sorted_insert`), so that no key occurs twice.

Of two fields that are put in one after the other the later counts if they
have one key (`insert_insert`), and else their order does not matter
(`insert_comm`).
-/

namespace SearchRelay.Json

theorem object?_eq_some_iff {v : Json} {fields : Fields} :
    v.object? = some fields ↔ v = .object fields := by
  cases v <;> simp [object?]

theorem array?_eq_some_iff {v : Json} {items : List Json} :
    v.array? = some items ↔ v = .array items := by
  cases v <;> simp [array?]

namespace Fields

def keys (fields : Fields) : List String := fields.map Prod.fst

/-! ## look-up -/

/-- Look-up after a field was put in. -/
theorem find?_insert (key : String) (value : Json) (fields : Fields) (other : String) :
    (fields.insert key value).find? other =
      if other = key then some value else fields.find? other := by
  by_cases h : other = key
  · rw [if_pos h, h]
    exact find?_insert_self key value fields
  · rw [if_neg h]
    exact find?_insert_of_ne h value fields

/-- Look-up in fields behind a first one. -/
theorem find?_cons (key : String) (value : Json) (fields : Fields) (other : String) :
    Fields.find? ((key, value) :: fields) other =
      if other = key then some value else fields.find? other := by
  rw [find?, find?, List.lookup_cons]
  by_cases h : other = key
  · simp [h]
  · simp [h, beq_false_of_ne h]

/-- A key is there if and only if it has a value. -/
theorem mem_keys_iff (fields : Fields) (key : String) :
    key ∈ fields.keys ↔ (fields.find? key).isSome := by
  simp only [keys, find?, List.mem_map, List.lookup_isSome_iff, beq_iff_eq]
  constructor
  · rintro ⟨field, hmem, hkey⟩
    exact ⟨field, hmem, hkey.symm⟩
  · rintro ⟨field, hmem, hkey⟩
    exact ⟨field, hmem, hkey.symm⟩

/-! ## keys -/

/-- Putting a field in adds its key and no other. -/
theorem mem_keys_insert (key : String) (value : Json) (fields : Fields) (other : String) :
    other ∈ (fields.insert key value).keys ↔ other = key ∨ other ∈ fields.keys := by
  rw [mem_keys_iff, mem_keys_iff, find?_insert]
  by_cases h : other = key <;> simp [h]

/-- Sorted fields behind a first one: the first key is below all others. -/
theorem sorted_cons (field : String × Json) (fields : Fields) :
    Sorted (field :: fields) ↔ (∀ key ∈ fields.keys, field.1 < key) ∧ Sorted fields := by
  simp [Sorted, keys]

/-- Putting a field in keeps the fields sorted. -/
theorem sorted_insert (key : String) (value : Json) {fields : Fields} (h : fields.Sorted) :
    (fields.insert key value).Sorted := by
  induction fields with
  | nil => simp [insert, Sorted]
  | cons field rest ih =>
      obtain ⟨k, v⟩ := field
      obtain ⟨hbelow, hrest⟩ := (sorted_cons _ _).mp h
      rw [insert]
      split
      · next hlt =>
        refine (sorted_cons _ _).mpr ⟨?_, h⟩
        intro other hother
        rcases List.mem_cons.mp hother with rfl | hmem
        · exact hlt
        · exact String.lt_trans hlt (hbelow other hmem)
      · next hnlt =>
        split
        · next heq => exact (sorted_cons _ _).mpr ⟨by rw [heq]; exact hbelow, hrest⟩
        · next hne =>
          refine (sorted_cons _ _).mpr ⟨?_, ih hrest⟩
          intro other hother
          rcases (mem_keys_insert key value rest other).mp hother with rfl | hmem
          · -- the key is neither below nor equal to the first one
            exact String.not_le.mp fun hle => hne (String.le_antisymm hle (String.not_lt.mp hnlt))
          · exact hbelow other hmem

/-- Sorted keys occur once each. -/
theorem nodup_keys {fields : Fields} (h : fields.Sorted) : fields.keys.Nodup := by
  have hne : ∀ {a b : String}, a < b → a ≠ b := by
    rintro a b hlt rfl
    exact String.lt_irrefl a hlt
  exact List.Pairwise.imp hne h

/-! ## sorted fields as maps -/

/-- Of sorted fields each answers for its own key. -/
theorem find?_of_mem {fields : Fields} (h : fields.Sorted) {key : String} {value : Json}
    (hmem : (key, value) ∈ fields) : fields.find? key = some value := by
  induction fields with
  | nil => contradiction
  | cons field fields ih =>
      obtain ⟨hbelow, hfields⟩ := (sorted_cons _ _).mp h
      rcases List.mem_cons.mp hmem with rfl | hmem
      · rw [find?_cons, if_pos rfl]
      · have hkey : key ∈ keys fields := List.mem_map.mpr ⟨(key, value), hmem, rfl⟩
        have hne : key ≠ field.1 := by
          rintro rfl
          exact String.lt_irrefl _ (hbelow _ hkey)
        rw [← ih hfields hmem]
        exact (find?_cons field.1 field.2 fields key).trans (if_neg hne)

/-- Sorted fields do not answer for a key below their first one. -/
theorem find?_eq_none_of_lt {fields : Fields} {key : String} (h : ∀ k ∈ fields.keys, key < k) :
    fields.find? key = none := by
  cases hfound : fields.find? key with
  | none => rfl
  | some value =>
      have hmem : key ∈ fields.keys := (mem_keys_iff fields key).mpr (by simp [hfound])
      exact absurd (h key hmem) (String.lt_irrefl key)

/-! ## two fields in turn -/

/-- Of two fields of one key the later stays. -/
theorem insert_insert (key : String) (value second : Json) (fields : Fields) :
    (fields.insert key value).insert key second = fields.insert key second := by
  induction fields with
  | nil => simp [insert]
  | cons field rest ih =>
      obtain ⟨k, v⟩ := field
      grind [insert]

/-- Fields of different keys may be put in in any order. -/
theorem insert_comm {key other : String} (hne : key ≠ other) (value second : Json)
    (fields : Fields) :
    (fields.insert key value).insert other second =
      (fields.insert other second).insert key value := by
  induction fields with
  | nil => grind [insert]
  | cons field rest ih =>
      obtain ⟨k, v⟩ := field
      grind [insert]

end Fields

end SearchRelay.Json
