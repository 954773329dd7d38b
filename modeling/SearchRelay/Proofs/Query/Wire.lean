import SearchRelay.Proofs.Json.Record
import SearchRelay.Query.Wire

/-!
# SearchRelay.Proofs.Query.Wire

Queries that are written and read again.

1. `expressible_of_decode` — a query that is read holds nothing that JSON cannot say;
2. `decode_toJson` — such a query is read from what is written of it, and no other one
   is (`decodeAs_toJson_iff`);
3. `decodeBytes_toJson` — so it is from the text, whose numbers are rounded when they are
   read.
-/

namespace SearchRelay.Query

open Json (Decoder Document Reading optional)
open Json.Record (FillsAfter Unfilled decode_object_of_enter inherited_unfilled
  inv_of_decode_where read_of)

/-! ## what JSON can say -/

/-- A query that JSON can express: its count is a machine word, and what may be any value is
an ordered one other than null, since null is what is written for no value. -/
structure Expressible (q : Query) : Prop where
  words : ∀ n ∈ q.maxPredictedWords, n < UInt64.size
  value : ∀ v ∈ q.value, v.Ordered ∧ v ≠ .null
  body : ∀ v ∈ q.body, v.Ordered ∧ v ≠ .null

/-- Whatever field of a query is read, the query can still be written. -/
theorem keepsWhere_form : form.KeepsWhere Unfilled Expressible := by
  simp only [Json.Record.KeepsWhere, form, List.forall_mem_cons]
  refine ⟨?id, ?kind, ?index, ?value, ?dataField, ?distinct, ?predictive, ?words, ?synonyms,
    ?applyStopwords, ?stopwords, ?urlField, ?categoryField, ?body, List.forall_mem_nil _⟩
  all_goals
    intro r d q next hr hq h
    obtain ⟨v, hv, rfl⟩ := Except.map_eq_ok.mp h
  case value => exact { hq with value := Decoder.ordered_of_nullable_any hr hv }
  case body => exact { hq with body := Decoder.ordered_of_nullable_any hr hv }
  case words =>
    have hwords : ∀ n ∈ v, n < UInt64.size := by
      rintro n rfl
      exact Decoder.lt_of_natBelow (Decoder.eq_ok_of_nullable hv)
    exact { hq with words := hwords }
  all_goals exact ⟨hq.words, hq.value, hq.body⟩

/-- A query that is read holds nothing that JSON cannot say. -/
theorem expressible_of_decode {r : Reading} (hr : r.filling = false) {d : Document} {q : Query}
    (h : decode r d = .ok q) : q.Expressible :=
  inv_of_decode_where inherited_unfilled keepsWhere_form ⟨nofun, nofun, nofun⟩ hr h

/-! ## the parts of a query -/

/-- A kind is read from its name. -/
theorem Kind.decode_name (r : Reading) (kind : Kind) :
    Kind.decode r (.string (some kind.name)) = .ok kind := by
  cases kind <;> rfl

theorem ordered_toJson_fieldSpec (spec : FieldSpec) : spec.toJson.Ordered := by
  cases spec with
  | plain field => trivial
  | weighted field weight =>
      have hsorted : Json.Fields.Sorted
          [("field", .string field), ("weight", Json.ofDouble? weight)] := by
        show ["field", "weight"].Pairwise (· < ·)
        decide +kernel
      cases weight <;> exact ⟨hsorted, trivial, trivial, trivial⟩

theorem ordered_toJson_dataField (fields : DataField) : fields.toJson.Ordered := by
  cases fields with
  | single field => trivial
  | many specs =>
      refine (Json.itemsOrdered_iff _).mpr fun v hv => ?_
      obtain ⟨spec, -, rfl⟩ := List.mem_map.mp hv
      exact ordered_toJson_fieldSpec spec

/-- The fields of one part of a suggestion are read as they were written. -/
theorem FieldSpec.ofDocument?_toJson (spec : FieldSpec) :
    FieldSpec.ofDocument? (.ofJson spec.toJson) = some spec := by
  cases spec with
  | plain field => rfl
  | weighted field weight => cases weight <;> rfl

/-- The choice of fields is read as it was written. -/
theorem DataField.ofDocument?_toJson (fields : DataField) :
    DataField.ofDocument? (.ofJson fields.toJson) = some fields := by
  cases fields with
  | single field => rfl
  | many specs =>
      have hspecs : (Document.ofItems (specs.map FieldSpec.toJson)).mapM FieldSpec.ofDocument? =
          some specs := by
        induction specs with
        | nil => rfl
        | cons spec specs ih =>
            rw [List.map_cons, Document.ofItems, List.mapM_cons, FieldSpec.ofDocument?_toJson, ih]
            rfl
      rw [DataField.toJson, Document.ofJson, DataField.ofDocument?, hspecs]
      rfl

/-- The decoder of the choice of fields recovers it. -/
theorem recovers_dataField {r : Reading} (hr : r.filling = false) (fields : DataField) :
    DataField.decode.Recovers r DataField.toJson fields := by
  refine ⟨by cases fields <;> exact nofun, fun hfits => ?_⟩
  have hany := Decoder.any_ofJson_of_fits hr (ordered_toJson_dataField fields) hfits
  rw [DataField.decode, hany, DataField.ofDocument?_toJson]
  rfl

/-- A list of texts is recovered. -/
theorem recovers_texts {r : Reading} (texts : List String) :
    (Decoder.list Decoder.text).Recovers r textsToJson texts := by
  refine ⟨nofun, fun hfits => ?_⟩
  obtain ⟨inner, henter, -⟩ := Decoder.exists_enter_array hfits
  refine Decoder.list_of_enter henter ?_
  clear hfits
  induction texts with
  | nil => rfl
  | cons text texts ih =>
      rw [List.map_cons, Document.ofItems, List.mapM_cons, ih]
      rfl

/-! ## queries -/

/-- Only the id is required. -/
theorem name_of_required :
    ∀ field ∈ form.fields, field.presence = .required → field.name = "id" := by
  decide

/-- A query that JSON can express is read from what is written of it. -/
theorem decode_toJson {q : Query} (hq : q.Expressible) {r : Reading} (hr : r.filling = false)
    (hfits : (Document.ofJson q.toJson).fits r.nesting) : decode r (.ofJson q.toJson) = .ok q := by
  have hvalue : optional "value" q.value = optional "value" (q.value.map fun v => v) := by
    rw [Option.map_id']
  have hbody : optional "body" q.body = optional "body" (q.body.map fun v => v) := by
    rw [Option.map_id']
  rw [toJson, Document.ofJson] at hfits ⊢
  obtain ⟨inner, henter, hparts⟩ := Decoder.exists_enter_object hfits
  have hinner := (Decoder.filling_of_enter henter).trans hr
  refine decode_object_of_enter henter (fun field hfield hrequired => ?_)
    (FillsAfter.fills ?_ hparts)
  · rw [name_of_required field hfield hrequired]
    exact Document.mem_keys_ofFields (by simp : ("id", Json.string q.id) ∈ _)
  rw [hvalue, hbody]
  simp only [List.flatten_cons, List.flatten_nil, Document.ofFields_append]
  -- the fields from here on in the order of their names
  refine .optional rfl (by simp) (fun _ _ => Decoder.recovers_bool _) rfl ?_
  refine .optional rfl (by simp) (fun v hv => Decoder.recovers_any hinner (hq.body v hv)) rfl ?_
  refine .optional rfl (by simp) (fun _ _ => Decoder.recovers_text _) rfl ?_
  refine .optional rfl (by simp) (fun _ _ => recovers_dataField hinner _) rfl ?_
  refine .optional rfl (by simp) (fun _ _ => Decoder.recovers_bool _) rfl ?_
  refine .optional rfl (by simp) (fun _ _ => Decoder.recovers_bool _) rfl ?_
  refine .cons rfl (by simp) (fun _ => read_of rfl _) ?_
  refine .optional rfl (by simp) (fun _ _ => Decoder.recovers_text _) rfl ?_
  refine .optional rfl (by simp) (fun n hn => Decoder.recovers_natBelow (hq.words n hn) _) rfl ?_
  refine .optional rfl (by simp) (fun _ _ => Decoder.recovers_bool _) rfl ?_
  refine .optional rfl (by simp) (fun _ _ => recovers_texts _) rfl ?_
  refine .cons rfl (by simp) (fun _ => read_of (Kind.decode_name _ _) _) ?_
  refine .optional rfl (by simp) (fun _ _ => Decoder.recovers_text _) rfl ?_
  refine .optional rfl (by simp) (fun v hv => Decoder.recovers_any hinner (hq.value v hv)) rfl ?_
  exact .nil

/-- Just the queries that JSON can express are read from what is written of them. -/
theorem decodeAs_toJson_iff (q : Query) :
    Json.decodeAs decode q.toJson = .ok q ↔ q.Expressible :=
  ⟨expressible_of_decode rfl, fun hq => decode_toJson hq rfl rfl⟩

/-- A query that JSON can express is read from its text, if the numbers of the text read
back. -/
theorem decodeBytes_toJson {q : Query} (hq : q.Expressible)
    (hnumbers : ∀ n ∈ q.toJson.numbers, n.readBack = some n)
    (hdepth : (Document.ofJson q.toJson).depth ≤ Json.nestingLimit) :
    Json.decodeBytes decode (Text.Utf8.encode q.toJson.compact.toList) = .ok q := by
  rw [Json.decodeBytes_compact decode hnumbers]
  exact decode_toJson hq rfl (decide_eq_true hdepth)

end SearchRelay.Query
