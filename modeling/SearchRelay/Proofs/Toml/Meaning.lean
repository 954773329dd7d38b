import SearchRelay.Proofs.Except
import SearchRelay.Proofs.Json.Range
import SearchRelay.Proofs.Toml.Document

/-!
# SearchRelay.Proofs.Toml.Meaning

JSON values as values of a TOML document.

1. `wellFormed_ofJson` — the value for a well-formed JSON value is well-formed;
2. `meaning?_ofJson` — read as a JSON document it means the JSON value;
3. `meaning?_nodeOf` — also when the plain entries of each table under headers
   stand in front.
-/

namespace SearchRelay.Toml

open Json (Document ItemsOrdered FieldsOrdered Fields)
open Json.Document (itemMeanings? fieldMeanings? filledItems filledFields)

namespace Value

/-- The JSON value that a value stands for. -/
def meaning? (v : Value) : Option Json := v.document.filled.meaning?

/-- The fields that entries stand for. -/
def fieldsOf? (entries : Table) : Option Fields :=
  fieldMeanings? (filledFields (entryDocuments entries))

/-! ## the cases of the conversion -/

theorem ofItems_cons_eq_ok {j : Json} {js : List Json} {vs : List Value} :
    ofItems (j :: js) = .ok vs ↔
      ∃ v rest, ofJson j = .ok v ∧ ofItems js = .ok rest ∧ vs = v :: rest := by
  simp only [ofItems, Except.bind_eq_ok, Except.pure_eq_ok]
  constructor
  · rintro ⟨v, hv, rest, hrest, rfl⟩
    exact ⟨v, rest, hv, hrest, rfl⟩
  · rintro ⟨v, rest, hv, hrest, rfl⟩
    exact ⟨v, hv, rest, hrest, rfl⟩

theorem ofFields_cons_eq_ok {key : String} {j : Json} {fields : Fields} {entries : Table} :
    ofFields ((key, j) :: fields) = .ok entries ↔
      ∃ v rest, ofJson j = .ok v ∧ ofFields fields = .ok rest ∧ entries = (key, v) :: rest := by
  simp only [ofFields, Except.bind_eq_ok, Except.pure_eq_ok]
  constructor
  · rintro ⟨v, hv, rest, hrest, rfl⟩
    exact ⟨v, rest, hv, hrest, rfl⟩
  · rintro ⟨v, rest, hv, hrest, rfl⟩
    exact ⟨v, hv, rest, hrest, rfl⟩

theorem ofJson_array_eq_ok {items : List Json} {v : Value} :
    ofJson (.array items) = .ok v ↔ ∃ vs, ofItems items = .ok vs ∧ .array vs = v := by
  simp only [ofJson, Except.bind_eq_ok, Except.pure_eq_ok]

theorem ofJson_object_eq_ok {fields : Fields} {v : Value} :
    ofJson (.object fields) = .ok v ↔
      ∃ entries, ofFields fields = .ok entries ∧ .table entries = v := by
  simp only [ofJson, Except.bind_eq_ok, Except.pure_eq_ok]

theorem ofInt_eq_ok {i : Int} {v : Value} :
    ofInt i = .ok v ↔ i < integerEnd ∧ v = .integer i := by
  unfold ofInt
  split
  · next h => simp [h, eq_comm]
  · next h => simp [h]

/-- A table has the keys of the object it was made from. -/
theorem keys_of_ofFields {fields : Fields} {entries : Table} (h : ofFields fields = .ok entries) :
    entries.map Prod.fst = fields.keys := by
  induction fields generalizing entries with
  | nil =>
      cases h
      rfl
  | cons field rest ih =>
      obtain ⟨v, more, -, hmore, rfl⟩ := ofFields_cons_eq_ok.mp h
      rw [List.map_cons, ih hmore]
      rfl

/-! ## well-formed values -/

mutual

/-- The value for a well-formed JSON value is well-formed. -/
theorem wellFormed_ofJson :
    (j : Json) → j.WellFormed → {v : Value} → ofJson j = .ok v → v.WellFormed
  | .null, _, v, h => nomatch h
  | .bool _, _, v, h | .number (.double _), _, v, h | .string _, _, v, h => by
      cases h
      trivial
  | .number (.integer i), hj, v, h => by
      obtain ⟨hend, rfl⟩ := ofInt_eq_ok.mp h
      exact ⟨hj.1, hend⟩
  | .array items, hj, v, h => by
      obtain ⟨vs, hvs, rfl⟩ := ofJson_array_eq_ok.mp h
      exact wellFormed_ofItems items hj hvs
  | .object fields, hj, v, h => by
      obtain ⟨entries, hentries, rfl⟩ := ofJson_object_eq_ok.mp h
      refine ⟨?_, wellFormed_ofFields fields hj.2 hentries⟩
      rw [keys_of_ofFields hentries]
      exact Fields.nodup_keys hj.1

theorem wellFormed_ofItems : (items : List Json) → Json.ItemsWellFormed items → {vs : List Value} →
    ofItems items = .ok vs → ItemsWellFormed vs
  | [], _, vs, h => by
      cases h
      trivial
  | j :: js, hj, vs, h => by
      obtain ⟨v, rest, hv, hrest, rfl⟩ := ofItems_cons_eq_ok.mp h
      exact ⟨wellFormed_ofJson j hj.1 hv, wellFormed_ofItems js hj.2 hrest⟩

theorem wellFormed_ofFields : (fields : Fields) → Json.FieldsWellFormed fields → {entries : Table} →
    ofFields fields = .ok entries → EntriesWellFormed entries
  | [], _, entries, h => by
      cases h
      trivial
  | (key, j) :: rest, hj, entries, h => by
      obtain ⟨v, more, hv, hmore, rfl⟩ := ofFields_cons_eq_ok.mp h
      exact ⟨wellFormed_ofJson j hj.1 hv, wellFormed_ofFields rest hj.2 hmore⟩

end

/-! ## meaning -/

mutual

/-- The value for an ordered JSON value means it. -/
theorem meaning?_ofJson : (j : Json) → j.Ordered → {v : Value} → ofJson j = .ok v →
    v.meaning? = some j
  | .null, _, v, h => nomatch h
  | .bool _, _, v, h | .number (.double _), _, v, h | .string _, _, v, h => by
      cases h
      rfl
  | .number (.integer i), _, v, h => by
      obtain ⟨-, rfl⟩ := ofInt_eq_ok.mp h
      rfl
  | .array items, hj, v, h => by
      obtain ⟨vs, hvs, rfl⟩ := ofJson_array_eq_ok.mp h
      have hitems := itemMeanings?_ofItems items hj hvs
      rw [meaning?, document, Document.filled, Document.meaning?, hitems, Option.map_some]
  | .object fields, hj, v, h => by
      obtain ⟨entries, hentries, rfl⟩ := ofJson_object_eq_ok.mp h
      have hfields : fieldMeanings? (filledFields (entryDocuments entries)) = some fields :=
        fieldsOf?_ofFields fields hj.2 hentries
      rw [meaning?, document, Document.filled, Document.meaning?, hfields, Option.map_some,
        Json.ofFields, Fields.ofList_of_sorted hj.1]

theorem itemMeanings?_ofItems : (items : List Json) → ItemsOrdered items → {vs : List Value} →
    ofItems items = .ok vs → itemMeanings? (filledItems (documents vs)) = some items
  | [], _, vs, h => by
      cases h
      rfl
  | j :: js, hj, vs, h => by
      obtain ⟨v, rest, hv, hrest, rfl⟩ := ofItems_cons_eq_ok.mp h
      have hfirst : v.document.filled.meaning? = some j := meaning?_ofJson j hj.1 hv
      rw [documents, filledItems, itemMeanings?, hfirst, itemMeanings?_ofItems js hj.2 hrest]
      rfl

theorem fieldsOf?_ofFields : (fields : Fields) → FieldsOrdered fields → {entries : Table} →
    ofFields fields = .ok entries → fieldsOf? entries = some fields
  | [], _, entries, h => by
      cases h
      rfl
  | (key, j) :: rest, hj, entries, h => by
      obtain ⟨v, more, hv, hmore, rfl⟩ := ofFields_cons_eq_ok.mp h
      have hfirst : v.document.filled.meaning? = some j := meaning?_ofJson j hj.1 hv
      have hrest : fieldMeanings? (filledFields (entryDocuments more)) = some rest :=
        fieldsOf?_ofFields rest hj.2 hmore
      rw [fieldsOf?, entryDocuments, filledFields, fieldMeanings?, hfirst, hrest]
      rfl

end

theorem fieldsOf?_cons (key : String) (v : Value) (entries : Table) :
    fieldsOf? ((key, v) :: entries) =
      v.meaning?.bind fun j => (fieldsOf? entries).map ((key, j) :: ·) := by
  rw [fieldsOf?, entryDocuments, filledFields, fieldMeanings?, meaning?, fieldsOf?]
  cases v.document.filled.meaning? with
  | none => rfl
  | some j => cases fieldMeanings? (filledFields (entryDocuments entries)) <;> rfl

theorem fieldsOf?_append {front behind : Table} {fields others : Fields}
    (hfront : fieldsOf? front = some fields) (hbehind : fieldsOf? behind = some others) :
    fieldsOf? (front ++ behind) = some (fields ++ others) := by
  induction front generalizing fields with
  | nil =>
      cases hfront
      exact hbehind
  | cons entry front ih =>
      rw [fieldsOf?_cons] at hfront
      obtain ⟨j, hj, hfront⟩ := Option.bind_eq_some_iff.mp hfront
      obtain ⟨more, hmore, rfl⟩ := Option.map_eq_some_iff.mp hfront
      rw [List.cons_append, fieldsOf?_cons, hj, ih hmore]
      rfl

/-- A table means the object of its fields, in whatever order they stand. -/
theorem meaning?_table {entries : Table} {fields others : Fields}
    (h : fieldsOf? entries = some others) (hperm : others.Perm fields) (hsorted : fields.Sorted) :
    (Value.table entries).meaning? = some (.object fields) := by
  have hfields : fieldMeanings? (filledFields (entryDocuments entries)) = some others := h
  rw [meaning?, document, Document.filled, Document.meaning?, hfields, Option.map_some,
    Json.ofFields, Fields.ofList_of_perm hperm hsorted]

end Value

/-! ## arranged tables -/

/- Writing moves the entries under headers behind the others, and reading an object
sorts its keys. So it is enough that the two lists of entries are permutations of one
another. -/

namespace Block

open Value (meaning? fieldsOf? fieldsOf?_cons fieldsOf?_append meaning?_table ofItems_cons_eq_ok
  ofFields_cons_eq_ok ofJson_array_eq_ok ofJson_object_eq_ok)

/-- The fields of a table are those of its entries on lines, and those of its
entries under headers. -/
def Splits (entries : Table) (fields : Fields) : Prop :=
  ∃ front behind, fieldsOf? (plain entries) = some front ∧
    fieldsOf? (entriesToTable (headedNodes entries)) = some behind ∧ (front ++ behind).Perm fields

/-- The fields of a table are those of the object, in another order perhaps. -/
theorem fieldsOf?_nodes {entries : Table} {fields : Fields} (h : Splits entries fields) :
    ∃ others, fieldsOf? (entriesToTable (nodes entries)) = some others ∧ others.Perm fields := by
  obtain ⟨front, behind, hfront, hbehind, hperm⟩ := h
  refine ⟨front ++ behind, ?_, hperm⟩
  rw [nodes, entriesToTable_append, entriesToTable_plainNodes]
  exact fieldsOf?_append hfront hbehind

mutual

/-- What stands under the headers of a value means the same. -/
theorem meaning?_nodeOf : (j : Json) → j.Ordered → {v : Value} → Value.ofJson j = .ok v →
    v.hasHeaders = true → (nodeOf v).toValue.meaning? = some j
  | .null, _, v, h, _ => nomatch h
  | .bool _, _, v, h, hheaders | .number (.double _), _, v, h, hheaders
  | .string _, _, v, h, hheaders => by
      cases h
      cases hheaders
  | .number (.integer i), _, v, h, hheaders => by
      obtain ⟨-, rfl⟩ := Value.ofInt_eq_ok.mp h
      cases hheaders
  | .array items, hj, v, h, hheaders => by
      obtain ⟨vs, hvs, rfl⟩ := ofJson_array_eq_ok.mp h
      have htables := (Bool.and_eq_true_iff.mp hheaders).2
      have hitems := itemMeanings?_itemNodes items hj hvs (List.all_eq_true.mp htables)
      rw [nodeOf, Node.toValue, meaning?, Value.document, Document.filled, Document.meaning?,
        hitems]
      rfl
  | .object fields, hj, v, h, _ => by
      obtain ⟨entries, hentries, rfl⟩ := ofJson_object_eq_ok.mp h
      obtain ⟨others, hothers, hperm⟩ := fieldsOf?_nodes (splits_ofFields fields hj.2 hentries)
      rw [nodeOf, Node.toValue]
      exact meaning?_table hothers hperm hj.1

/-- A table made from an object splits into entries on lines and entries under headers. -/
theorem splits_ofFields : (fields : Fields) → FieldsOrdered fields → {entries : Table} →
    Value.ofFields fields = .ok entries → Splits entries fields
  | [], _, entries, h => by
      cases h
      exact ⟨[], [], rfl, rfl, .nil⟩
  | (key, j) :: rest, hj, entries, h => by
      obtain ⟨v, more, hv, hmore, rfl⟩ := ofFields_cons_eq_ok.mp h
      obtain ⟨front, behind, hfront, hbehind, hperm⟩ := splits_ofFields rest hj.2 hmore
      -- a value with headers is the first one behind, any other the first one in front
      by_cases hheaders : v.hasHeaders = true
      · have hnode := meaning?_nodeOf j hj.1 hv hheaders
        refine ⟨front, (key, j) :: behind, ?_, ?_, List.perm_middle.trans (hperm.cons _)⟩
        · rw [plain, List.filter_cons_of_neg (by simpa using hheaders)]
          exact hfront
        · rw [headedNodes, if_pos hheaders, List.singleton_append, entriesToTable, fieldsOf?_cons,
            hnode, hbehind]
          rfl
      · have hvalue := Value.meaning?_ofJson j hj.1 hv
        refine ⟨(key, j) :: front, behind, ?_, ?_, hperm.cons _⟩
        · rw [plain, List.filter_cons_of_pos (by simpa using hheaders), fieldsOf?_cons, hvalue]
          exact congrArg (Option.map _) hfront
        · rw [headedNodes, if_neg hheaders]
          exact hbehind

theorem itemMeanings?_itemNodes : (items : List Json) → ItemsOrdered items → {vs : List Value} →
    Value.ofItems items = .ok vs → (∀ v ∈ vs, v.isTable = true) →
    itemMeanings? (filledItems (Value.documents (tablesToValues (itemNodes vs)))) = some items
  | [], _, vs, h, _ => by
      cases h
      rfl
  | j :: js, hj, vs, h, htables => by
      obtain ⟨v, rest, hv, hrest, rfl⟩ := ofItems_cons_eq_ok.mp h
      obtain ⟨htable, htables⟩ := List.forall_mem_cons.mp htables
      have hmore := itemMeanings?_itemNodes js hj.2 hrest htables
      have hfirst := meaning?_nodeOf j hj.1 hv (hasHeaders_of_isTable htable)
      cases v with
      | table entries =>
          have hmeaning : (Value.table (entriesToTable
              (plainNodes entries ++ headedNodes entries))).document.filled.meaning? = some j :=
                hfirst
          rw [itemNodes, tablesToValues, Value.documents, filledItems, itemMeanings?, hmeaning,
            hmore]
          rfl
      | string | integer | double | notFinite | boolean | moment | array => cases htable

end

end Block

end SearchRelay.Toml
