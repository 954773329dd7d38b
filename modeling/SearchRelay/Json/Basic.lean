import SearchRelay.Binary64.Decimal

/-!
# SearchRelay.Json.Basic

JSON values.

1. A number is an integer of the 64-bit range, signed or unsigned, or a
   binary64 number.
2. The fields of an object are kept in increasing order of their keys, each
   key once.  `WellFormed` states this for a whole value together with the
   range of its integers; `insert` keeps it.
-/

namespace SearchRelay

/-- A JSON number. -/
inductive Json.Number where
  | integer (value : Int)
  | double (value : Binary64)
  deriving DecidableEq

/-- A JSON value. -/
inductive Json where
  | null
  | bool (value : Bool)
  | number (value : Json.Number)
  | string (value : String)
  | array (items : List Json)
  | object (fields : List (String × Json))

namespace Json

instance : Inhabited Json := ⟨.null⟩

/-- The fields of an object. -/
abbrev Fields := List (String × Json)

/-! ## Equality -/

mutual

/-- Equality of values. -/
def decEq : (a b : Json) → Decidable (a = b)
  | .null, b => match b with
    | .null => .isTrue rfl
    | .bool _ | .number _ | .string _ | .array _ | .object _ => .isFalse (by simp)
  | .bool x, b => match b with
    | .bool y => if h : x = y then .isTrue (by rw [h]) else .isFalse (by simp [h])
    | .null | .number _ | .string _ | .array _ | .object _ => .isFalse (by simp)
  | .number x, b => match b with
    | .number y => if h : x = y then .isTrue (by rw [h]) else .isFalse (by simp [h])
    | .null | .bool _ | .string _ | .array _ | .object _ => .isFalse (by simp)
  | .string x, b => match b with
    | .string y => if h : x = y then .isTrue (by rw [h]) else .isFalse (by simp [h])
    | .null | .bool _ | .number _ | .array _ | .object _ => .isFalse (by simp)
  | .array xs, b => match b with
    | .array ys => match decEqItems xs ys with
      | .isTrue h => .isTrue (by rw [h])
      | .isFalse h => .isFalse (by simp [h])
    | .null | .bool _ | .number _ | .string _ | .object _ => .isFalse (by simp)
  | .object xs, b => match b with
    | .object ys => match decEqFields xs ys with
      | .isTrue h => .isTrue (by rw [h])
      | .isFalse h => .isFalse (by simp [h])
    | .null | .bool _ | .number _ | .string _ | .array _ => .isFalse (by simp)

/-- Equality of lists of values. -/
def decEqItems : (xs ys : List Json) → Decidable (xs = ys)
  | [], [] => .isTrue rfl
  | [], _ :: _ | _ :: _, [] => .isFalse (by simp)
  | x :: xs, y :: ys => match decEq x y, decEqItems xs ys with
    | .isTrue h, .isTrue hs => .isTrue (by rw [h, hs])
    | .isFalse h, _ => .isFalse (by simp [h])
    | _, .isFalse hs => .isFalse (by simp [hs])

/-- Equality of lists of fields. -/
def decEqFields : (xs ys : Fields) → Decidable (xs = ys)
  | [], [] => .isTrue rfl
  | [], _ :: _ | _ :: _, [] => .isFalse (by simp)
  | (k, x) :: xs, (l, y) :: ys =>
    if hk : k = l then
      match decEq x y, decEqFields xs ys with
      | .isTrue h, .isTrue hs => .isTrue (by rw [hk, h, hs])
      | .isFalse h, _ => .isFalse (by simp [h])
      | _, .isFalse hs => .isFalse (by simp [hs])
    else .isFalse (by simp [hk])

end

instance : DecidableEq Json := decEq

/-! ## Numbers -/

/-- The least integer that a number may hold: that of the signed 64-bit range,
`-2 ^ 63`. -/
def leastInteger : Int := -9223372036854775808

/-- The first integer beyond those that a number may hold, which is that beyond
the unsigned 64-bit range, `2 ^ 64`. -/
def integerEnd : Int := 18446744073709551616

/-- The integers that a number may hold. -/
def Number.InRange : Number → Prop
  | .integer value => leastInteger ≤ value ∧ value < integerEnd
  | .double _ => True

def ofNat (n : Nat) : Json := .number (.integer n)

/-! ## Objects -/

def Fields.find? (fields : Fields) (key : String) : Option Json := fields.lookup key

def Fields.has (fields : Fields) (key : String) : Bool := (fields.find? key).isSome

/-- Puts a field into its place, over the field of the same key if there is
one. -/
def Fields.insert (key : String) (value : Json) : Fields → Fields
  | [] => [(key, value)]
  | (k, v) :: rest =>
    if key < k then (key, value) :: (k, v) :: rest
    else if key = k then (key, value) :: rest
    else (k, v) :: Fields.insert key value rest

/-- The object of a list of fields; of two fields of one key the later
counts. -/
def Fields.ofList (fields : Fields) : Fields :=
  fields.foldl (fun acc field => acc.insert field.1 field.2) []

/-- The object of a list of fields; of two fields of one key the later
counts. -/
def ofFields (fields : Fields) : Json := .object (Fields.ofList fields)

/-- A field that is there only if it has a value. -/
def optional (key : String) : Option Json → Fields
  | none => []
  | some value => [(key, value)]

def ofDouble? (x : Option Binary64) : Json := x.elim .null fun x => .number (.double x)

def ofText? (text : Option String) : Json := text.elim .null .string

/-- What is put in is found. -/
theorem Fields.find?_insert_self (key : String) (value : Json) (fields : Fields) :
    (fields.insert key value).find? key = some value := by
  induction fields with
  | nil => simp [Fields.insert, Fields.find?]
  | cons field rest ih =>
    obtain ⟨k, v⟩ := field
    simp only [Fields.insert]
    split
    · simp [Fields.find?]
    · split
      · simp [Fields.find?]
      · next hne =>
        simp only [Fields.find?] at ih ⊢
        rw [List.lookup_cons]
        have : (key == k) = false := by simpa using hne
        simp [this, ih]

/-- Other keys are not touched by what is put in. -/
theorem Fields.find?_insert_of_ne {key other : String} (h : other ≠ key) (value : Json)
    (fields : Fields) : (fields.insert key value).find? other = fields.find? other := by
  have ho : (other == key) = false := by simpa using h
  induction fields with
  | nil => simp [Fields.insert, Fields.find?, List.lookup_cons, ho]
  | cons field rest ih =>
    obtain ⟨k, v⟩ := field
    simp only [Fields.insert, Fields.find?] at ih ⊢
    split
    · simp [List.lookup_cons, ho]
    · split
      · next hk => subst hk; simp [List.lookup_cons, ho]
      · simp [List.lookup_cons, ih]

/-! ## Well-formed values -/

/-- The keys are in increasing order, each once. -/
def Fields.Sorted (fields : Fields) : Prop := (fields.map Prod.fst).Pairwise (· < ·)

mutual

/-- The fields of every object are sorted and every integer is in range. -/
def WellFormed : Json → Prop
  | .null | .bool _ | .string _ => True
  | .number n => n.InRange
  | .array items => ItemsWellFormed items
  | .object fields => Fields.Sorted fields ∧ FieldsWellFormed fields

/-- Every item is well-formed. -/
def ItemsWellFormed : List Json → Prop
  | [] => True
  | v :: vs => v.WellFormed ∧ ItemsWellFormed vs

/-- The value of every field is well-formed. -/
def FieldsWellFormed : Fields → Prop
  | [] => True
  | (_, v) :: rest => v.WellFormed ∧ FieldsWellFormed rest

end

theorem fieldsWellFormed_iff (fields : Fields) :
    FieldsWellFormed fields ↔ ∀ field ∈ fields, field.2.WellFormed := by
  induction fields with
  | nil => simp [FieldsWellFormed]
  | cons field rest ih => simp [FieldsWellFormed, ih]

/-! ## Views -/

def string? : Json → Option String
  | .string s => some s
  | _ => none

def array? : Json → Option (List Json)
  | .array items => some items
  | _ => none

def object? : Json → Option Fields
  | .object fields => some fields
  | _ => none

end Json

end SearchRelay
