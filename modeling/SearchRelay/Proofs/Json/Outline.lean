import SearchRelay.Proofs.Json.Ordered

/-!
# SearchRelay.Proofs.Json.Outline

Values up to their texts and numbers.

`outline` keeps the kind of every value, the keys of every object and the length
of every array, and forgets what the strings and the numbers say.  Two values have
the same shape if they have the same outline.

1. `kind_outline` — the kind of a value is that of its outline;
2. `find?_outlineFields` — looking a key up commutes with taking outlines.
-/

namespace SearchRelay.Json

/-! ## kinds -/

/-- The kind of a value. -/
inductive Kind where
  | null
  | bool
  | number
  | string
  | array
  | object
  deriving DecidableEq

/-- The kind of a value. -/
def kind : Json → Kind
  | .null => .null
  | .bool _ => .bool
  | .number _ => .number
  | .string _ => .string
  | .array _ => .array
  | .object _ => .object

/-! ## outlines -/

mutual

/-- A value without the texts of its strings and the values of its numbers. -/
def outline : Json → Json
  | .null => .null
  | .bool b => .bool b
  | .number _ => .ofNat 0
  | .string _ => .string ""
  | .array items => .array (outlineItems items)
  | .object fields => .object (outlineFields fields)

/-- Items without their texts and numbers. -/
def outlineItems : List Json → List Json
  | [] => []
  | v :: vs => outline v :: outlineItems vs

/-- Fields, with their keys, but without the texts and numbers of their values. -/
def outlineFields : Fields → Fields
  | [] => []
  | (k, v) :: rest => (k, outline v) :: outlineFields rest

end

/-- The same keys in all objects, the same lengths of all arrays, the same truth
values, and the same kind of value everywhere. -/
def SameShape (v w : Json) : Prop := v.outline = w.outline

instance (v w : Json) : Decidable (SameShape v w) := inferInstanceAs (Decidable (_ = _))

/-- The outline of a value is of the kind of the value. -/
theorem kind_outline (v : Json) : v.outline.kind = v.kind := by
  cases v <;> rfl

theorem outlineItems_eq_map (items : List Json) : outlineItems items = items.map outline := by
  induction items with
  | nil => rfl
  | cons v vs ih => rw [outlineItems, ih, List.map_cons]

theorem outlineFields_eq_map (fields : Fields) :
    outlineFields fields = fields.map fun field => (field.1, field.2.outline) := by
  induction fields with
  | nil => rfl
  | cons field rest ih => rw [outlineFields, ih, List.map_cons]

/-- The field of an outline is the outline of the field. -/
theorem find?_outlineFields (fields : Fields) (key : String) :
    Fields.find? (outlineFields fields) key = (fields.find? key).map outline := by
  induction fields with
  | nil => rfl
  | cons field rest ih =>
      obtain ⟨k, v⟩ := field
      rw [outlineFields, Fields.find?_cons, Fields.find?_cons, ih]
      split
      · rfl
      · rfl

end SearchRelay.Json
