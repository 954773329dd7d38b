import SearchRelay.Hit
import SearchRelay.Proofs.Json.Decoder
import SearchRelay.Proofs.Json.Outline

/-!
# SearchRelay.Proofs.Hit

Which values are hits.

`Hit.places` lists what each field of a hit may hold.  A hit is refused because of
its first part that does not fit (`misfit?`), or because it is no record at all.

1. `failure?_read` — a field reads just what fits it;
2. `failure?_decode` — so a value is read as a hit if and only if it is an object
   or an array whose parts fit, and an array has no part too many; `refusal?` is
   the error otherwise.
-/

namespace SearchRelay

open Json

namespace Json

/-- What a value is called where something else was expected. -/
def Found.ofJson : Json → Found
  | .null => .null
  | .bool b => .bool b
  | .number n => .number n
  | .string s => .string s
  | .array _ => .array
  | .object _ => .object

/-- Every value can be read as one. -/
theorem any_ofJson {v : Json} (h : v.Ordered) : Decoder.any {} (.ofJson v) = .ok v :=
  Decoder.any_ofJson_of_fits rfl h rfl

end Json

namespace Hit

/-! ## what fits -/

/-- The error about a value where another kind is expected. -/
def wrongKind (expected : String) (v : Json) : DecodeError :=
  .invalidType (Found.ofJson v) expected

/-- A field of a hit: its name, the kinds of values that it may hold, and the error
about any other value. -/
structure Place where
  name : String
  kinds : List Kind
  refuse : Json → DecodeError

/-- The fields of a hit, in the order in which an array lists them. -/
def places : List Place := [
  ⟨"_index", [.null, .string], wrongKind "a string"⟩,
  ⟨"_id", [.null, .string, .number], .unfitId⟩,
  ⟨"_score", [.null, .number], wrongKind "f64"⟩,
  ⟨"_source", [.null, .object], wrongKind "a map"⟩,
  ⟨"highlight", [.null, .object], wrongKind "a map"⟩]

/-- The error about a value, if it does not fit a field. -/
def Place.misfit? (place : Place) (v : Json) : Option DecodeError :=
  if v.kind ∈ place.kinds then none else some (place.refuse v)

/-- The error about a value under a name, if it does not fit; under an unknown name
any value fits. -/
def partMisfit? (part : String × Json) : Option DecodeError :=
  (places.find? (·.name = part.1)).bind (·.misfit? part.2)

/-- The error about the first of some parts that does not fit. -/
def misfit? (parts : List (String × Json)) : Option DecodeError := parts.findSome? partMisfit?

/-- Why a value is no hit. -/
def refusal? : Json → Option DecodeError
  | .object fields => misfit? fields
  | .array items => (misfit? ((places.map Place.name).zip items)).or
      (if places.length < items.length then
        some (.invalidLength items.length "fewer elements in array")
      else none)
  | v => some (wrongKind "struct RawHit" v)

/-! ## the fields -/

/- A hit is read field by field, in the order in which they come. The first field that
does not fit is reported, so the error of the whole is a search over the fields. -/

/-- A field that holds an object reads an object or null. -/
theorem failure?_fieldsOrNull {v : Json} (hv : v.Ordered) :
    Except.failure? (fieldsOrNull {} (.ofJson v)) =
      if v.kind ∈ [Kind.null, Kind.object] then none else some (wrongKind "a map" v) := by
  cases v with
  | object fields =>
      have hany := any_ofJson hv
      rw [Document.ofJson] at hany
      simp only [fieldsOrNull, Document.ofJson, Decoder.nullable, Decoder.fields, hany]
      rfl
  | null | bool b | number n | string s | array items => rfl

/-- Each field reads just what fits it. -/
theorem failure?_read {field : Json.Field Hit} (hfield : field ∈ form.fields) {v : Json}
    (hv : v.Ordered) (hit : Hit) :
    Except.failure? (field.read {} (.ofJson v) hit) = partMisfit? (field.name, v) := by
  simp only [form, List.mem_cons, List.not_mem_nil, or_false] at hfield
  rcases hfield with rfl | rfl | rfl | rfl | rfl
  · -- the index
    cases v <;> rfl
  · -- the id
    rw [Json.Field.of, Except.failure?_map, idText, any_ofJson hv]
    cases v <;> rfl
  · -- the score
    cases v with
    | number n => cases n <;> rfl
    | null | bool b | string s | array items | object fields => rfl
  · -- the document
    rw [Json.Field.of, Except.failure?_map, failure?_fieldsOrNull hv]
    cases v <;> rfl
  · -- the snippets
    rw [Json.Field.of, Except.failure?_map, failure?_fieldsOrNull hv]
    cases v <;> rfl

theorem misfit?_cons (part : String × Json) (parts : List (String × Json)) :
    misfit? (part :: parts) = (partMisfit? part).or (misfit? parts) := by
  rw [misfit?, misfit?, List.findSome?_cons]
  cases partMisfit? part <;> rfl

/-- What is not a field of a hit may hold anything. -/
theorem partMisfit?_of_unknown {key : String} (h : form.fields.find? (·.name = key) = none)
    (v : Json) : partMisfit? (key, v) = none := by
  have hplace : places.find? (·.name = key) = none := by
    simpa [form, places, Json.Field.of] using h
  rw [partMisfit?, hplace]
  rfl

/-! ## objects -/

/-- The fields of an object are read up to the first that does not fit. -/
theorem failure?_foldlM_step {fields : Fields} (hfields : (Json.object fields).Ordered)
    {p : Record.Progress Hit} (hseen : ∀ key ∈ fields.keys, key ∉ p.seen) :
    Except.failure? ((Document.ofFields fields).foldlM (form.step {}) p) = misfit? fields := by
  induction fields generalizing p with
  | nil => rfl
  | cons field fields ih =>
      obtain ⟨key, v⟩ := field
      obtain ⟨hsorted, hv, hordered⟩ := hfields
      obtain ⟨hbelow, hsorted⟩ := (Fields.sorted_cons _ _).mp hsorted
      obtain ⟨hkey, hseen⟩ := List.forall_mem_cons.mp hseen
      rw [Document.ofFields, List.foldlM_cons, misfit?_cons]
      cases hfound : form.fields.find? (·.name = key) with
      | none =>
          have hstep : form.step {} p (some key, .ofJson v) = .ok p := by
            simp only [Record.step, hfound]
            rfl
          rw [hstep, partMisfit?_of_unknown hfound, Option.none_or]
          exact ih ⟨hsorted, hordered⟩ hseen
      | some field =>
          have hname : field.name = key := by simpa using List.find?_some hfound
          have hmore : ∀ k ∈ Fields.keys fields, k ∉ key :: p.seen := by
            intro k hk hmem
            rcases List.mem_cons.mp hmem with rfl | hmem
            · exact String.lt_irrefl k (hbelow k hk)
            · exact hseen k hk hmem
          have hstep : form.step {} p (some key, .ofJson v) =
              (field.read {} (.ofJson v) p.record).map fun hit => ⟨hit, key :: p.seen⟩ := by
            simp only [Record.step, hfound]
            rw [if_neg (by simpa using hkey)]
            cases field.read {} (.ofJson v) p.record <;> rfl
          have hread := failure?_read (List.mem_of_find?_eq_some hfound) hv p.record
          rw [hname] at hread
          rw [hstep, ← hread]
          cases field.read {} (.ofJson v) p.record with
          | error e => rfl
          | ok hit => exact ih ⟨hsorted, hordered⟩ hmore

/-- An object is no hit because of the first of its parts that does not fit. -/
theorem failure?_ofObject {fields : Fields} (hfields : (Json.object fields).Ordered) :
    Except.failure? (form.ofObject {} (Document.ofFields fields)) = misfit? fields := by
  have hoptional : ∀ seen : List String, form.fields.find? (fun f =>
      f.presence = .required ∧ !seen.contains f.name) = none := by
    intro seen
    simp [form, Json.Field.of]
  rw [Record.ofObject, Except.failure?_bind_of_forall,
    failure?_foldlM_step hfields fun key _ => List.not_mem_nil, Option.or_none]
  intro p
  rw [hoptional]
  rfl

/-! ## arrays -/

/- A hit may also be written as an array, with the fields by position. Fields that are
missing at the end are left out, and items that no field takes are refused after all
others were read. -/

/-- The items of an array are read up to the first that does not fit its field. -/
theorem failure?_ofItems {fields : List (Json.Field Hit)}
    (hfields : ∀ field ∈ fields, field ∈ form.fields) {items : List Json}
    (hitems : ItemsOrdered items) (place : Nat) (hit : Hit) :
    Except.failure? (form.ofItems {} place fields (Document.ofItems items) hit) =
      misfit? ((fields.map Json.Field.name).zip items) := by
  induction fields generalizing items place hit with
  | nil => rfl
  | cons field fields ih =>
      obtain ⟨hfield, hfields⟩ := List.forall_mem_cons.mp hfields
      cases items with
      | nil =>
          have hfree : field.presence = .free := by
            have hall : ∀ f ∈ form.fields, f.presence = .free := by simp [form, Json.Field.of]
            exact hall field hfield
          have hempty : ItemsOrdered [] := trivial
          have hnone : Except.failure? (form.ofItems {} (place + 1) fields (Document.ofItems [])
              hit) = misfit? ((fields.map Json.Field.name).zip []) :=
            ih hfields hempty (place + 1) hit
          rw [List.zip_nil_right] at hnone ⊢
          rw [Document.ofItems, Record.ofItems, if_pos hfree]
          exact hnone
      | cons v items =>
          have hread := failure?_read hfield hitems.1 hit
          rw [Document.ofItems, Record.ofItems, List.map_cons, List.zip_cons_cons, misfit?_cons,
            ← hread, Except.failure?_bind_of_forall]
          exact fun next => ih hfields hitems.2 (place + 1) next

/-! ## hits -/

theorem length_ofItems (items : List Json) : (Document.ofItems items).length = items.length := by
  induction items with
  | nil => rfl
  | cons v items ih => rw [Document.ofItems, List.length_cons, List.length_cons, ih]

/-- **Why a value is no hit**, if it is none. -/
theorem failure?_decode {v : Json} (hv : v.Ordered) :
    Except.failure? (decodeAs decode v) = refusal? v := by
  cases v with
  | null | bool b | number n | string s => rfl
  | object fields => exact failure?_ofObject hv
  | array items =>
      have hsurplus : Except.failure? (Decoder.refuseSurplus {} form.fields.length
          (Document.ofItems items)) = if places.length < items.length then
            some (.invalidLength items.length "fewer elements in array") else none := by
        rw [Decoder.refuseSurplus, length_ofItems]
        by_cases hlength : places.length < items.length
        · rw [if_pos hlength, if_pos ⟨hlength, rfl⟩]
          rfl
        · rw [if_neg hlength, if_neg fun h => hlength h.1]
          rfl
      have hitems : Except.failure? (form.ofItems {} 0 form.fields (Document.ofItems items) {}) =
          misfit? ((places.map Place.name).zip items) := failure?_ofItems (fun _ h => h) hv 0 {}
      have hdecode : decodeAs decode (.array items) = do
          let hit ← form.ofItems {} 0 form.fields (Document.ofItems items) {}
          Decoder.refuseSurplus {} form.fields.length (Document.ofItems items)
          return hit := rfl
      have hrest : ∀ hit : Hit, Except.failure? (do
          Decoder.refuseSurplus {} form.fields.length (Document.ofItems items)
          return hit) = Except.failure? (Decoder.refuseSurplus {} form.fields.length
            (Document.ofItems items)) := fun hit => Except.failure?_bind_pure _ _
      rw [hdecode, Except.failure?_bind_of_forall hrest, hitems, hsurplus, refusal?]

end Hit

end SearchRelay
