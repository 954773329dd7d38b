import SearchRelay.Proofs.Json.Text

/-!
# SearchRelay.Proofs.Json.Relabel

Values with other strings in them.

`relabel f` replaces every string and every key where it stands; `mapTexts f`
also puts the fields of an object back in order, and of keys that have become
one the last counts.

1. `tokens_relabel` — the tokens are those of the value with other strings;
2. `meaning?_ofJson_relabel` — read as a document, `relabel f` means
   `mapTexts f`;
3. `reread_relabel_iff` — the text of `relabel f` reads as `relabel g` if and
   only if `f` and `g` agree on the strings of the value and all its numbers
   read back.
-/

namespace SearchRelay.Json

/-! ## strings and numbers -/

mutual

/-- The strings and keys of a value. -/
def strings : Json → List String
  | .null | .bool _ | .number _ => []
  | .string s => [s]
  | .array items => itemsStrings items
  | .object fields => fieldsStrings fields

/-- The strings and keys of items. -/
def itemsStrings : List Json → List String
  | [] => []
  | v :: vs => strings v ++ itemsStrings vs

/-- The keys of fields, and the strings and keys of their values. -/
def fieldsStrings : Fields → List String
  | [] => []
  | (k, v) :: rest => k :: (strings v ++ fieldsStrings rest)

end

mutual

/-- The numbers of a value. -/
def numbers : Json → List Number
  | .null | .bool _ | .string _ => []
  | .number n => [n]
  | .array items => itemsNumbers items
  | .object fields => fieldsNumbers fields

/-- The numbers of items. -/
def itemsNumbers : List Json → List Number
  | [] => []
  | v :: vs => numbers v ++ itemsNumbers vs

/-- The numbers of fields. -/
def fieldsNumbers : Fields → List Number
  | [] => []
  | (_, v) :: rest => numbers v ++ fieldsNumbers rest

end

/-! ## replaced strings -/

mutual

/-- A value with its strings and keys replaced, each where it stands. -/
def relabel (f : String → String) : Json → Json
  | .null => .null
  | .bool b => .bool b
  | .number n => .number n
  | .string s => .string (f s)
  | .array items => .array (relabelItems f items)
  | .object fields => .object (relabelFields f fields)

/-- Items with their strings and keys replaced. -/
def relabelItems (f : String → String) : List Json → List Json
  | [] => []
  | v :: vs => relabel f v :: relabelItems f vs

/-- Fields with their strings and keys replaced. -/
def relabelFields (f : String → String) : Fields → Fields
  | [] => []
  | (k, v) :: rest => (f k, relabel f v) :: relabelFields f rest

end

mutual

/-- A value with its strings and keys replaced.  Of keys that become one the
last counts. -/
def mapTexts (f : String → String) : Json → Json
  | .null => .null
  | .bool b => .bool b
  | .number n => .number n
  | .string s => .string (f s)
  | .array items => .array (mapItems f items)
  | .object fields => ofFields (mapFields f fields)

/-- Items with their strings and keys replaced. -/
def mapItems (f : String → String) : List Json → List Json
  | [] => []
  | v :: vs => mapTexts f v :: mapItems f vs

/-- Fields with their strings and keys replaced, before they are put in
order. -/
def mapFields (f : String → String) : Fields → Fields
  | [] => []
  | (k, v) :: rest => (f k, mapTexts f v) :: mapFields f rest

end

/-! ## tokens -/

/-- A token with its string replaced. -/
def Token.relabel (f : String → String) : Token → Token
  | .string (some s) => .string (some (f s))
  | token => token

section

open Document

variable (f : String → String)

mutual

/-- The tokens of a relabelled value are the relabelled tokens. -/
theorem tokens_relabel : (v : Json) →
    (ofJson (v.relabel f)).tokens = (ofJson v).tokens.map (Token.relabel f)
  | .null | .bool _ | .number _ | .string _ | .array [] | .object [] => rfl
  | .array (v :: vs) => by
      have hitem := tokens_relabel v
      have hitems := itemsTokens_relabel vs
      simp only [relabel, relabelItems, ofJson, ofItems, tokens, List.map_cons, List.map_append,
        hitem, hitems]
      rfl
  | .object ((k, v) :: fields) => by
      have hfield := tokens_relabel v
      have hfields := fieldsTokens_relabel fields
      simp only [relabel, relabelFields, ofJson, Document.ofFields, tokens, List.map_cons,
        List.map_append, hfield, hfields]
      rfl

theorem itemsTokens_relabel : (vs : List Json) →
    itemsTokens (ofItems (relabelItems f vs)) = (itemsTokens (ofItems vs)).map (Token.relabel f)
  | [] => rfl
  | v :: vs => by
      have hitem := tokens_relabel v
      have hitems := itemsTokens_relabel vs
      simp only [relabelItems, ofItems, itemsTokens, List.map_cons, List.map_append, hitem, hitems]
      rfl

theorem fieldsTokens_relabel : (fields : Fields) →
    fieldsTokens (Document.ofFields (relabelFields f fields)) =
      (fieldsTokens (Document.ofFields fields)).map (Token.relabel f)
  | [] => rfl
  | (k, v) :: fields => by
      have hfield := tokens_relabel v
      have hfields := fieldsTokens_relabel fields
      simp only [relabelFields, Document.ofFields, fieldsTokens, List.map_cons, List.map_append,
        hfield, hfields]
      rfl

end

/-! ## meaning and depth -/

mutual

/-- A relabelled value means the value with its strings replaced. -/
theorem meaning?_ofJson_relabel : (v : Json) →
    (ofJson (v.relabel f)).meaning? = some (v.mapTexts f)
  | .null | .bool _ | .number _ | .string _ => rfl
  | .array vs => by
      rw [relabel, ofJson, meaning?, itemMeanings?_relabel vs]
      rfl
  | .object fields => by
      rw [relabel, ofJson, meaning?, fieldMeanings?_relabel fields]
      rfl

theorem itemMeanings?_relabel : (vs : List Json) →
    itemMeanings? (ofItems (relabelItems f vs)) = some (mapItems f vs)
  | [] => rfl
  | v :: vs => by
      rw [relabelItems, ofItems, itemMeanings?, meaning?_ofJson_relabel v,
        itemMeanings?_relabel vs]
      rfl

theorem fieldMeanings?_relabel : (fields : Fields) →
    fieldMeanings? (Document.ofFields (relabelFields f fields)) = some (mapFields f fields)
  | [] => rfl
  | (k, v) :: fields => by
      rw [relabelFields, Document.ofFields, fieldMeanings?, meaning?_ofJson_relabel v,
        fieldMeanings?_relabel fields]
      rfl

end

mutual

/-- Relabelling leaves the depth as it is. -/
theorem depth_relabel : (v : Json) → (ofJson (v.relabel f)).depth = (ofJson v).depth
  | .null | .bool _ | .number _ | .string _ => rfl
  | .array vs => by rw [relabel, ofJson, ofJson, depth, depth, depthOfItems_relabel vs]
  | .object fields => by rw [relabel, ofJson, ofJson, depth, depth, depthOfFields_relabel fields]

theorem depthOfItems_relabel : (vs : List Json) →
    depthOfItems (ofItems (relabelItems f vs)) = depthOfItems (ofItems vs)
  | [] => rfl
  | v :: vs => by
      rw [relabelItems, ofItems, ofItems, depthOfItems, depthOfItems, depth_relabel v,
        depthOfItems_relabel vs]

theorem depthOfFields_relabel : (fields : Fields) →
    depthOfFields (Document.ofFields (relabelFields f fields)) =
      depthOfFields (Document.ofFields fields)
  | [] => rfl
  | (k, v) :: fields => by
      rw [relabelFields, Document.ofFields, Document.ofFields, depthOfFields, depthOfFields,
        depth_relabel v, depthOfFields_relabel fields]

end

/-! ## two replacements -/

/- The text of a value is read as a value with the same strings, and with numbers that
were read back. Replacing strings by two functions gives the same text if and only if
the functions agree on all the strings there are. -/

variable (g : String → String)

mutual

/-- The text of a relabelled value reads as another relabelling of it if and
only if both agree on its strings and its numbers read back. -/
theorem reread_relabel_iff : (v : Json) →
    (reread (v.relabel f) = ofJson (v.relabel g) ↔
      (∀ s ∈ v.strings, f s = g s) ∧ ∀ n ∈ v.numbers, n.readBack = some n)
  | .null | .bool _ => by simp [relabel, reread, ofJson, strings, numbers]
  | .number n => by simp [relabel, reread, ofJson, strings, numbers]
  | .string s => by simp [relabel, reread, ofJson, strings, numbers]
  | .array vs => by
      simp only [relabel, reread, ofJson, strings, numbers, Document.array.injEq]
      exact rereadItems_relabel_iff vs
  | .object fields => by
      simp only [relabel, reread, ofJson, strings, numbers, Document.object.injEq]
      exact rereadFields_relabel_iff fields

theorem rereadItems_relabel_iff : (vs : List Json) →
    (rereadItems (relabelItems f vs) = ofItems (relabelItems g vs) ↔
      (∀ s ∈ itemsStrings vs, f s = g s) ∧ ∀ n ∈ itemsNumbers vs, n.readBack = some n)
  | [] => by simp [relabelItems, rereadItems, ofItems, itemsStrings, itemsNumbers]
  | v :: vs => by
      simp only [relabelItems, rereadItems, ofItems, itemsStrings, itemsNumbers,
        List.cons.injEq, reread_relabel_iff v, rereadItems_relabel_iff vs, List.forall_mem_append]
      exact and_and_and_comm

theorem rereadFields_relabel_iff : (fields : Fields) →
    (rereadFields (relabelFields f fields) = Document.ofFields (relabelFields g fields) ↔
      (∀ s ∈ fieldsStrings fields, f s = g s) ∧
        ∀ n ∈ fieldsNumbers fields, n.readBack = some n)
  | [] => by simp [relabelFields, rereadFields, Document.ofFields, fieldsStrings, fieldsNumbers]
  | (k, v) :: fields => by
      simp only [relabelFields, rereadFields, Document.ofFields, fieldsStrings, fieldsNumbers,
        List.cons.injEq, Prod.mk.injEq, Option.some.injEq, reread_relabel_iff v,
        rereadFields_relabel_iff fields, List.forall_mem_cons, List.forall_mem_append]
      constructor
      · rintro ⟨⟨hkey, hstrings, hnumbers⟩, hothers, hmore⟩
        exact ⟨⟨hkey, hstrings, hothers⟩, hnumbers, hmore⟩
      · rintro ⟨⟨hkey, hstrings, hothers⟩, hnumbers, hmore⟩
        exact ⟨⟨hkey, hstrings, hnumbers⟩, hothers, hmore⟩

end

end

/-! ## no replacement -/

section

open Document

mutual

/-- Relabelling by nothing changes nothing. -/
theorem relabel_id : (v : Json) → v.relabel id = v
  | .null | .bool _ | .number _ | .string _ => rfl
  | .array vs => by rw [relabel, relabelItems_id vs]
  | .object fields => by rw [relabel, relabelFields_id fields]

theorem relabelItems_id : (vs : List Json) → relabelItems id vs = vs
  | [] => rfl
  | v :: vs => by rw [relabelItems, relabel_id v, relabelItems_id vs]

theorem relabelFields_id : (fields : Fields) → relabelFields id fields = fields
  | [] => rfl
  | (k, v) :: fields => by rw [relabelFields, relabel_id v, relabelFields_id fields, id]

end

/-- The text of a value reads as the value if and only if its numbers read
back. -/
theorem reread_eq_ofJson_iff (v : Json) :
    reread v = ofJson v ↔ ∀ n ∈ v.numbers, n.readBack = some n := by
  have hiff := reread_relabel_iff id id v
  rw [relabel_id] at hiff
  simpa using hiff

end

end SearchRelay.Json
