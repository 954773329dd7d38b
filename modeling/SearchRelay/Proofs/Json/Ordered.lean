import SearchRelay.Proofs.Json.Fields
import SearchRelay.Proofs.Json.Relabel

/-!
# SearchRelay.Proofs.Json.Ordered

Values in which the keys of every object stand in order, each once.

1. `ordered_of_parseBytes?` — every value that is read is such a value;
2. `meaning?_ofJson` — read as a document, it means itself;
3. `find?_ofList_mapFields` — when its strings are replaced, a key that is kept
   and that no other key becomes still leads to its own field.
-/

namespace SearchRelay.Json

mutual

/-- The keys of every object are in increasing order. -/
def Ordered : Json → Prop
  | .null | .bool _ | .number _ | .string _ => True
  | .array items => ItemsOrdered items
  | .object fields => Fields.Sorted fields ∧ FieldsOrdered fields

/-- Every item is ordered. -/
def ItemsOrdered : List Json → Prop
  | [] => True
  | v :: vs => v.Ordered ∧ ItemsOrdered vs

/-- The value of every field is ordered. -/
def FieldsOrdered : Fields → Prop
  | [] => True
  | (_, v) :: rest => v.Ordered ∧ FieldsOrdered rest

end

theorem itemsOrdered_iff (items : List Json) : ItemsOrdered items ↔ ∀ v ∈ items, v.Ordered := by
  induction items with
  | nil => simp [ItemsOrdered]
  | cons v vs ih => simp [ItemsOrdered, ih]

theorem fieldsOrdered_iff (fields : Fields) :
    FieldsOrdered fields ↔ ∀ field ∈ fields, field.2.Ordered := by
  induction fields with
  | nil => simp [FieldsOrdered]
  | cons field rest ih => simp [FieldsOrdered, ih]

/-! ## parts of ordered values -/

/-- A field that is found is an entry. -/
theorem Fields.mem_of_find? {fields : Fields} {key : String} {v : Json}
    (h : fields.find? key = some v) : (key, v) ∈ fields := by
  obtain ⟨before, after, rfl, _⟩ := List.lookup_eq_some_iff.mp h
  exact List.mem_append_right _ List.mem_cons_self

/-- A field of an ordered object is ordered. -/
theorem Ordered.field {fields : Fields} (h : (Json.object fields).Ordered) {key : String}
    {v : Json} (hv : Fields.find? fields key = some v) : v.Ordered :=
  (fieldsOrdered_iff fields).mp h.2 _ (Fields.mem_of_find? hv)

/-- An item of an ordered array is ordered. -/
theorem Ordered.item {items : List Json} (h : (Json.array items).Ordered) {v : Json}
    (hv : v ∈ items) : v.Ordered := (itemsOrdered_iff items).mp h v hv

/-! ## values that are read -/

/-- An entry after an insertion is the inserted one or was there before. -/
theorem Fields.mem_of_mem_insert {field : String × Json} {key : String} {value : Json}
    {fields : Fields}
    (h : field ∈ fields.insert key value) : field = (key, value) ∨ field ∈ fields := by
  induction fields with
  | nil => exact .inl (List.mem_singleton.mp h)
  | cons first rest ih =>
      obtain ⟨k, v⟩ := first
      rw [insert] at h
      split at h
      · exact List.mem_cons.mp h
      · split at h
        · rcases List.mem_cons.mp h with h | h
          · exact .inl h
          · exact .inr (List.mem_cons_of_mem _ h)
        · rcases List.mem_cons.mp h with h | h
          · exact .inr (h ▸ List.mem_cons_self)
          · exact (ih h).imp_right (List.mem_cons_of_mem _)

/-- Inserting an ordered value keeps an object ordered. -/
theorem ordered_insert {key : String} {value : Json} {fields : Fields} (hvalue : value.Ordered)
    (h : (Json.object fields).Ordered) : (Json.object (fields.insert key value)).Ordered := by
  refine ⟨Fields.sorted_insert key value h.1, (fieldsOrdered_iff _).mpr fun field hfield => ?_⟩
  rcases Fields.mem_of_mem_insert hfield with rfl | hmem
  · exact hvalue
  · exact (fieldsOrdered_iff fields).mp h.2 field hmem

/-- Fields put in one after the other make an ordered object. -/
theorem ordered_ofFields {fields : Fields} (h : FieldsOrdered fields) :
    (ofFields fields).Ordered := by
  suffices haux : ∀ acc : Fields, (Json.object acc).Ordered →
      (Json.object (fields.foldl (fun (out : Fields) f => out.insert f.1 f.2) acc)).Ordered from
    haux [] ⟨List.Pairwise.nil, trivial⟩
  induction fields with
  | nil => exact fun acc hacc => hacc
  | cons field rest ih => exact fun acc hacc => ih h.2 _ (ordered_insert h.1 hacc)

mutual

/-- The meaning of a document is ordered: each entry is inserted at its place. -/
theorem ordered_of_meaning? : (d : Document) → {v : Json} → d.meaning? = some v → v.Ordered
  | .null, v, h | .bool _, v, h => by
      cases h
      trivial
  | .number n, v, h => by
      obtain ⟨_, _, rfl⟩ := Option.map_eq_some_iff.mp h
      trivial
  | .string s, v, h => by
      obtain ⟨_, _, rfl⟩ := Option.map_eq_some_iff.mp h
      trivial
  | .array items, v, h => by
      obtain ⟨vs, hvs, rfl⟩ := Option.map_eq_some_iff.mp h
      exact itemsOrdered_of_itemMeanings? items hvs
  | .object fields, v, h => by
      obtain ⟨vs, hvs, rfl⟩ := Option.map_eq_some_iff.mp h
      exact ordered_ofFields (fieldsOrdered_of_fieldMeanings? fields hvs)

theorem itemsOrdered_of_itemMeanings? : (items : List Document) → {vs : List Json} →
    Document.itemMeanings? items = some vs → ItemsOrdered vs
  | [], vs, h => by
      cases h
      trivial
  | d :: ds, vs, h => by
      obtain ⟨v, hv, h⟩ := Option.bind_eq_some_iff.mp h
      obtain ⟨rest, hrest, h⟩ := Option.bind_eq_some_iff.mp h
      cases h
      exact ⟨ordered_of_meaning? d hv, itemsOrdered_of_itemMeanings? ds hrest⟩

theorem fieldsOrdered_of_fieldMeanings? : (fields : List (Option String × Document)) →
    {vs : Fields} → Document.fieldMeanings? fields = some vs → FieldsOrdered vs
  | [], vs, h => by
      cases h
      trivial
  | (key, d) :: ds, vs, h => by
      obtain ⟨k, _, h⟩ := Option.bind_eq_some_iff.mp h
      obtain ⟨v, hv, h⟩ := Option.bind_eq_some_iff.mp h
      obtain ⟨rest, hrest, h⟩ := Option.bind_eq_some_iff.mp h
      cases h
      exact ⟨ordered_of_meaning? d hv, fieldsOrdered_of_fieldMeanings? ds hrest⟩

end

/-- Every value that is read is ordered. -/
theorem ordered_of_parseBytes? {bytes : List UInt8} {v : Json} (h : parseBytes? bytes = some v) :
    v.Ordered := by
  obtain ⟨text, _, h⟩ := Option.bind_eq_some_iff.mp h
  obtain ⟨d, _, h⟩ := Option.bind_eq_some_iff.mp h
  unfold Document.value? at h
  split at h
  · exact ordered_of_meaning? d h
  · contradiction

/-! ## values as documents -/

/-- A key beyond all others goes to the end. -/
theorem Fields.insert_of_forall_lt {key : String} {value : Json} {fields : Fields}
    (h : ∀ k ∈ fields.keys, k < key) : fields.insert key value = fields ++ [(key, value)] := by
  induction fields with
  | nil => rfl
  | cons field rest ih =>
      obtain ⟨k, v⟩ := field
      obtain ⟨hlt, hrest⟩ := List.forall_mem_cons.mp h
      have hne : ¬ key = k := fun heq => String.lt_irrefl key (heq ▸ hlt)
      rw [insert, if_neg (String.lt_asymm hlt), if_neg hne, ih hrest, List.cons_append]

/-- Sorted fields are put in one behind the other. -/
theorem Fields.ofList_of_sorted {fields : Fields} (h : fields.Sorted) : ofList fields = fields := by
  suffices haux : ∀ acc : Fields, Sorted (acc ++ fields) →
      fields.foldl (fun (out : Fields) f => out.insert f.1 f.2) acc = acc ++ fields from haux [] h
  clear h
  induction fields with
  | nil => exact fun acc _ => (List.append_nil acc).symm
  | cons field rest ih =>
      intro acc hacc
      have hlast : ∀ k ∈ acc.keys, k < field.1 := by
        intro k hk
        rw [Sorted, List.map_append, List.map_cons, List.pairwise_append] at hacc
        exact hacc.2.2 k hk field.1 List.mem_cons_self
      have happend : acc ++ field :: rest = (acc ++ [field]) ++ rest := by simp
      rw [List.foldl_cons, insert_of_forall_lt hlast, ih _ (happend ▸ hacc), happend]

/-- Fields of different keys may be put in in any order. -/
theorem Fields.ofList_of_perm {fields others : Fields} (hperm : others.Perm fields)
    (h : fields.Sorted) : ofList others = fields := by
  suffices haux : ∀ {first second : Fields}, first.Perm second → first.keys.Nodup →
      ∀ acc : Fields,
        first.foldl (fun (out : Fields) f => out.insert f.1 f.2) acc =
          second.foldl (fun (out : Fields) f => out.insert f.1 f.2) acc by
    have hnodup : others.keys.Nodup := (hperm.map Prod.fst).nodup_iff.mpr (nodup_keys h)
    rw [ofList, haux hperm hnodup []]
    exact ofList_of_sorted h
  intro first second hperm
  induction hperm with
  | nil => exact fun _ _ => rfl
  | cons field _ ih => exact fun hnodup acc => ih (List.nodup_cons.mp hnodup).2 _
  | swap field other rest =>
      intro hnodup acc
      have hne : other.1 ≠ field.1 := by
        intro heq
        exact (List.nodup_cons.mp hnodup).1 (heq ▸ List.mem_cons_self)
      rw [List.foldl_cons, List.foldl_cons, List.foldl_cons, List.foldl_cons,
        insert_comm hne other.2 field.2 acc]
  | trans hfirst _ ih ihs =>
      intro hnodup acc
      rw [ih hnodup acc, ihs ((hfirst.map Prod.fst).nodup_iff.mp hnodup) acc]

mutual

/-- An ordered value means itself. -/
theorem meaning?_ofJson : (v : Json) → v.Ordered → (Document.ofJson v).meaning? = some v
  | .null, _ | .bool _, _ | .number _, _ | .string _, _ => rfl
  | .array items, h => by
      rw [Document.ofJson, Document.meaning?, itemMeanings?_ofItems items h]
      rfl
  | .object fields, h => by
      rw [Document.ofJson, Document.meaning?, fieldMeanings?_ofFields fields h.2, Option.map_some,
        ofFields, Fields.ofList_of_sorted h.1]

theorem itemMeanings?_ofItems : (items : List Json) → ItemsOrdered items →
    Document.itemMeanings? (Document.ofItems items) = some items
  | [], _ => rfl
  | v :: vs, h => by
      rw [Document.ofItems, Document.itemMeanings?, meaning?_ofJson v h.1,
        itemMeanings?_ofItems vs h.2]
      rfl

theorem fieldMeanings?_ofFields : (fields : Fields) → FieldsOrdered fields →
    Document.fieldMeanings? (Document.ofFields fields) = some fields
  | [], _ => rfl
  | (k, v) :: rest, h => by
      rw [Document.ofFields, Document.fieldMeanings?, meaning?_ofJson v h.1,
        fieldMeanings?_ofFields rest h.2]
      rfl

end

/-- The text of an ordered value with numbers that read back is the text of this
value only. -/
theorem parse?_bind_compact {v : Json} (hv : v.Ordered)
    (hnumbers : ∀ n ∈ v.numbers, n.readBack = some n) :
    (Document.parse? v.compact).bind Document.meaning? = some v ∧
      parse? v.compact =
        if (Document.ofJson v).depth ≤ nestingLimit then some v else none := by
  have hdocument : Document.parse? v.compact = some (Document.ofJson v) := by
    rw [parse?_compact, (reread_eq_ofJson_iff v).mpr hnumbers]
  constructor
  · rw [hdocument, Option.bind_some, meaning?_ofJson v hv]
  · rw [parse?, hdocument, Option.bind_some, Document.value?, meaning?_ofJson v hv, Document.fits]
    simp only [decide_eq_true_eq]

/-! ## replaced strings -/

/-- A key that is kept and that nothing else becomes. -/
def Spares (f : String → String) (key : String) : Prop := ∀ s, f s = key ↔ s = key

/-- A key that is spared leads to its own field, with the strings of its value
replaced. -/
theorem find?_ofList_mapFields {f : String → String} {key : String} (hkey : Spares f key)
    {fields : Fields} (h : fields.Sorted) :
    (Fields.ofList (mapFields f fields)).find? key = (fields.find? key).map (mapTexts f) := by
  suffices haux : ∀ acc : Fields, Fields.find? ((mapFields f fields).foldl
      (fun (out : Fields) f => out.insert f.1 f.2) acc) key =
        ((fields.find? key).map (mapTexts f)).or (acc.find? key) by
    rw [Fields.ofList, haux []]
    exact Option.or_none
  induction fields with
  | nil => exact fun acc => rfl
  | cons field rest ih =>
      obtain ⟨k, v⟩ := field
      obtain ⟨hbelow, hrest⟩ := (Fields.sorted_cons _ _).mp h
      intro acc
      rw [mapFields, List.foldl_cons, ih hrest, Fields.find?_insert, Fields.find?_cons]
      by_cases hk : key = k
      · subst hk
        -- the key stands first, so it does not stand anywhere behind
        have hnone : Fields.find? rest key = none := by
          cases hfound : Fields.find? rest key with
          | none => rfl
          | some w =>
              have hmem := (Fields.mem_keys_iff rest key).mpr (by rw [hfound]; rfl)
              exact absurd (hbelow key hmem) (String.lt_irrefl key)
        rw [hnone, if_pos ((hkey key).mpr rfl).symm, if_pos rfl]
        rfl
      · rw [if_neg fun heq => hk ((hkey k).mp heq.symm).symm, if_neg hk]

end SearchRelay.Json
