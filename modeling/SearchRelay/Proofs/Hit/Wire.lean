import SearchRelay.Hit
import SearchRelay.Proofs.Query.Wire

/-!
# SearchRelay.Proofs.Hit.Wire

Hits that are written and read again.

1. `ordered_of_decode` — the document and the snippets of a hit that is read are ordered
   objects;
2. `decode_toJson` — a hit with such parts is read from what is written of it, and no
   other one is (`decodeAs_toJson_iff`).

`decodeAs_toJson` puts queries and hits together.
-/

namespace SearchRelay

open Json

namespace Hit

open Record (FillsAfter decode_object_of_enter read_of)

/-! ## hits that are read -/

/-- The document and the snippets are objects whose keys stand in order. -/
structure Ordered (h : Hit) : Prop where
  source : (Json.object h.source).Ordered
  highlight : (Json.object h.highlight).Ordered

/-- Objects that are read have their keys in order. -/
theorem ordered_of_fields {r : Reading} {d : Document} {fields : Fields}
    (h : Decoder.fields r d = .ok fields) : (Json.object fields).Ordered := by
  cases d with
  | object entries =>
      obtain ⟨v, hany, h⟩ := Except.bind_eq_ok.mp h
      cases v with
      | object found =>
          cases h
          exact Decoder.ordered_of_any hany
      | null | bool | number | string | array => exact absurd h Except.throw_ne_ok
  | null | bool | number | string | array => exact absurd h Decoder.mismatch_ne_ok

theorem ordered_of_fieldsOrNull {r : Reading} {d : Document} {fields : Fields}
    (h : fieldsOrNull r d = .ok fields) : (Json.object fields).Ordered := by
  obtain ⟨found, hfound, h⟩ := Except.bind_eq_ok.mp h
  cases h
  cases found with
  | none => exact ⟨List.Pairwise.nil, trivial⟩
  | some fields => exact ordered_of_fields (Decoder.eq_ok_of_nullable hfound)

theorem keepsWhere_form : form.KeepsWhere (fun _ _ => True) Ordered := by
  simp only [Record.KeepsWhere, form, List.forall_mem_cons]
  refine ⟨?index, ?id, ?score, ?source, ?highlight, List.forall_mem_nil _⟩
  all_goals
    intro r d hit next _ hhit h
    obtain ⟨v, hv, rfl⟩ := Except.map_eq_ok.mp h
  case source => exact { hhit with source := ordered_of_fieldsOrNull hv }
  case highlight => exact { hhit with highlight := ordered_of_fieldsOrNull hv }
  all_goals exact ⟨hhit.source, hhit.highlight⟩

/-- The parts of a hit that is read are in order. -/
theorem ordered_of_decode {r : Reading} {d : Document} {h : Hit} (hread : decode r d = .ok h) :
    h.Ordered := by
  have hparts : Record.Inherited fun _ _ => True :=
    ⟨fun _ _ _ _ => trivial, fun _ _ _ _ => trivial⟩
  have hempty : (Json.object []).Ordered := ⟨List.Pairwise.nil, trivial⟩
  exact Record.inv_of_decode_where hparts keepsWhere_form ⟨hempty, hempty⟩ trivial hread

/-! ## hits that are written -/

section

variable {r : Reading} (hr : r.filling = false)
include hr

/-- An id is read from what is written of it. -/
theorem idText_ofText? (id : Option String)
    (hfits : (Document.ofJson (ofText? id)).fits r.nesting) :
    idText r (.ofJson (ofText? id)) = .ok id := by
  have hordered : (ofText? id).Ordered := by cases id <;> trivial
  rw [idText, Decoder.any_ofJson_of_fits hr hordered hfits]
  cases id <;> rfl

/-- A document is read from what is written of it. -/
theorem fieldsOrNull_object {fields : Fields} (hfields : (Json.object fields).Ordered)
    (hfits : (Document.ofJson (.object fields)).fits r.nesting) :
    fieldsOrNull r (.ofJson (.object fields)) = .ok fields := by
  have hany := Decoder.any_ofJson_of_fits hr hfields hfits
  rw [Document.ofJson] at hany
  simp only [fieldsOrNull, Document.ofJson, Decoder.nullable, Decoder.fields, hany]
  rfl

/-- A hit with ordered parts is read from what is written of it. -/
theorem decode_toJson {h : Hit} (hh : h.Ordered)
    (hfits : (Document.ofJson h.toJson).fits r.nesting) : decode r (.ofJson h.toJson) = .ok h := by
  have hindex : ∀ r, Decoder.nullable Decoder.text r (.ofJson (ofText? h.index)) = .ok h.index := by
    cases h.index <;> exact fun _ => rfl
  have hscore : ∀ r, Decoder.nullable Decoder.double r (.ofJson (ofDouble? h.score)) =
      .ok h.score := by
    cases h.score <;> exact fun _ => rfl
  rw [toJson, Document.ofJson] at hfits ⊢
  obtain ⟨inner, henter, hparts⟩ := Decoder.exists_enter_object hfits
  have hinner := (Decoder.filling_of_enter henter).trans hr
  have hfree : ∀ field ∈ form.fields, field.presence ≠ .required := by decide
  refine decode_object_of_enter henter
    (fun field hfield hrequired => absurd hrequired (hfree field hfield))
    (FillsAfter.fills ?_ hparts)
  refine .cons rfl (by simp) (fun hid => read_of (idText_ofText? hinner h.id hid) _) ?_
  refine .cons rfl (by simp) (fun _ => read_of (hindex _) _) ?_
  refine .cons rfl (by simp) (fun _ => read_of (hscore _) _) ?_
  refine .cons rfl (by simp)
    (fun hsource => read_of (fieldsOrNull_object hinner hh.source hsource) _) ?_
  refine .cons rfl (by simp)
    (fun hhighlight => read_of (fieldsOrNull_object hinner hh.highlight hhighlight) _) ?_
  exact .nil

end

/-- Just the hits with ordered parts are read from what is written of them. -/
theorem decodeAs_toJson_iff (h : Hit) : decodeAs decode h.toJson = .ok h ↔ h.Ordered :=
  ⟨ordered_of_decode, fun hh => decode_toJson rfl hh rfl⟩

/-- A hit with ordered parts is read from its text, if the numbers of the text read back. -/
theorem decodeBytes_toJson {h : Hit} (hh : h.Ordered)
    (hnumbers : ∀ n ∈ h.toJson.numbers, n.readBack = some n)
    (hdepth : (Document.ofJson h.toJson).depth ≤ nestingLimit) :
    decodeBytes decode (Text.Utf8.encode h.toJson.compact.toList) = .ok h := by
  rw [decodeBytes_compact decode hnumbers]
  exact decode_toJson rfl hh (decide_eq_true hdepth)

end Hit

/-! ## queries and hits -/

/-- **The same again**: every value that is read as a query, or as a hit, is read as one that
is read from what is written of it. -/
theorem decodeAs_toJson (v : Json) :
    (∀ q, decodeAs Query.decode v = .ok q → decodeAs Query.decode q.toJson = .ok q) ∧
    (∀ h, decodeAs Hit.decode v = .ok h → decodeAs Hit.decode h.toJson = .ok h) :=
  ⟨fun q hq => (Query.decodeAs_toJson_iff q).mpr (Query.expressible_of_decode rfl hq),
    fun h hh => (Hit.decodeAs_toJson_iff h).mpr (Hit.ordered_of_decode hh)⟩

/-- A query as an array of its fields: the kind in a form of its own, an option that is null,
fields with and without a weight, and no field behind the data fields. -/
def Query.listedJson : Json := .array [
  .string "titles",
  .object [("suggestion", .null)],
  .null,
  .string "ap",
  .array [.string "title", .object [("field", .string "name"), ("weight", .ofNat 3)],
    .object [("field", .string "brand")]]]

/-- The query that it is. -/
def Query.listed : Query where
  id := "titles"
  kind := .suggestion
  value := some (.string "ap")
  dataField := some (.many [.plain "title", .weighted "name" (Binary64.ofInt? 3),
    .weighted "brand" none])

/-- A hit with a number for an id, null for a document, and no snippets. -/
def Hit.numberedJson : Json :=
  .object [("_id", .ofNat 42), ("_score", .ofNat 2), ("_source", .null)]

/-- The hit that it is. -/
def Hit.numbered : Hit where
  id := some "42"
  score := Binary64.ofInt? 2

/-- A query in the form of a list, and a hit with a number for an id. -/
theorem decodeAs_toJson_listed :
    decodeAs Query.decode Query.listedJson = .ok Query.listed ∧
      decodeAs Query.decode Query.listed.toJson = .ok Query.listed ∧
      decodeAs Hit.decode Hit.numberedJson = .ok Hit.numbered ∧
      decodeAs Hit.decode Hit.numbered.toJson = .ok Hit.numbered := by
  have hquery : decodeAs Query.decode Query.listedJson = .ok Query.listed :=
    Except.toOption_eq_some.mp (by decide +kernel)
  have hhit : decodeAs Hit.decode Hit.numberedJson = .ok Hit.numbered :=
    Except.toOption_eq_some.mp (by decide +kernel)
  exact ⟨hquery, (decodeAs_toJson Query.listedJson).1 _ hquery, hhit,
    (decodeAs_toJson Hit.numberedJson).2 _ hhit⟩

end SearchRelay
