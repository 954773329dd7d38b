import SearchRelay.Proofs.Envelope.Fault

/-!
# SearchRelay.Proofs.Envelope.Disclosure

What the error about a reply tells of the documents in it.

Whether a reply makes an envelope is a matter of its shape alone, and so is which
fault it has otherwise (`fault?_outline`).  The wording of a fault, however, writes
out a part of the first hit that cannot be read: a string or a number that stands
where something else is expected, and under `_id` whatever is no id.  `disclosed?`
is the text that is written out.

`message_eq_iff_disclosed?_eq` states that nothing else in the message depends on
what the reply says: of two replies of the same shape both fail or none does, and
the messages are the same if and only if they write out the same.
-/

namespace SearchRelay

open Json

/-! ## what errors write out -/

/- An error about a value names its kind, and of strings and numbers it writes out the
value too. The outline of an error keeps the first and drops the second. -/

namespace Json

/-- What was found, without its text or number. -/
def Found.outline : Found → Found
  | .number _ => .number (.integer 0)
  | .string _ => .string ""
  | found => found

/-- The text or number that is written out of what was found. -/
def Found.written? : Found → Option String
  | .number n => some (Found.number n).text
  | .string s => some (Found.string s).text
  | _ => none

/-- A decoding error without the texts and numbers that it writes out. -/
def DecodeError.outline : DecodeError → DecodeError
  | .invalidType found expected => .invalidType found.outline expected
  | .invalidValue found expected => .invalidValue found.outline expected
  | .unfitId value => .unfitId value.outline
  | e => e

/-- The part of a document that a decoding error writes out. -/
def DecodeError.written? : DecodeError → Option String
  | .invalidType found _ | .invalidValue found _ => found.written?
  | .unfitId value => some value.compact
  | _ => none

/-- What is found keeps its kind when a value is outlined. -/
theorem outline_ofJson (v : Json) : Found.ofJson v.outline = (Found.ofJson v).outline := by
  cases v <;> rfl

/-- Of the same kind of values the same words are used just for the same texts and
numbers. -/
theorem Found.text_eq_iff {found other : Found} (h : found.outline = other.outline) :
    found.text = other.text ↔ found.written? = other.written? := by
  cases found with
  | number n => cases other <;> simp [outline] at h; simp [written?]
  | string s => cases other <;> simp [outline] at h; simp [written?]
  | null | bool b | array | object => cases other <;> simp_all [outline, written?]

/-- A sentence about what was found. -/
theorem Found.sentence_eq_iff {found other : Found} (h : found.outline = other.outline)
    (front expected : String) :
    front ++ found.text ++ ", expected " ++ expected =
        front ++ other.text ++ ", expected " ++ expected ↔ found.written? = other.written? := by
  rw [String.append_left_inj, String.append_left_inj, String.append_right_inj, text_eq_iff h]

/-- Errors of one shape read alike just if they write the same value out. -/
theorem DecodeError.message_eq_iff {e other : DecodeError} (h : e.outline = other.outline) :
    e.message = other.message ↔ e.written? = other.written? := by
  cases e with
  | invalidType found expected =>
      cases other with
      | invalidType otherFound otherExpected =>
          obtain ⟨hfound, rfl⟩ := DecodeError.invalidType.inj h
          exact Found.sentence_eq_iff hfound "invalid type: " expected
      | _ => cases h
  | invalidValue found expected =>
      cases other with
      | invalidValue otherFound otherExpected =>
          obtain ⟨hfound, rfl⟩ := DecodeError.invalidValue.inj h
          exact Found.sentence_eq_iff hfound "invalid value: " expected
      | _ => cases h
  | unfitId value =>
      cases other with
      | unfitId otherValue =>
          exact (String.append_right_inj _).trans Option.some_inj.symm
      | _ => cases h
  | invalidLength n expected | unknownVariant name variants | missingField name
  | duplicateField name | noForm type | noValue =>
      cases other <;> cases h
      exact iff_of_true rfl rfl

end Json

/-! ## hits -/

namespace Hit

/-- Of a value of the wrong kind an error says as much as its outline. -/
theorem wrongKind_outline (expected : String) (v : Json) :
    wrongKind expected v.outline = (wrongKind expected v).outline := by
  rw [wrongKind, outline_ofJson]
  rfl

theorem refuse_outline {place : Place} (h : place ∈ places) (v : Json) :
    place.refuse v.outline = (place.refuse v).outline := by
  simp only [places, List.mem_cons, List.not_mem_nil, or_false] at h
  rcases h with rfl | rfl | rfl | rfl | rfl
  · exact wrongKind_outline "a string" v
  · rfl
  · exact wrongKind_outline "f64" v
  · exact wrongKind_outline "a map" v
  · exact wrongKind_outline "a map" v

/-- Whether a part of a hit fits shows in its outline. -/
theorem partMisfit?_outline (key : String) (v : Json) :
    partMisfit? (key, v.outline) = (partMisfit? (key, v)).map DecodeError.outline := by
  rw [partMisfit?, partMisfit?]
  cases hplace : places.find? (·.name = key) with
  | none => rfl
  | some place =>
      rw [Option.bind_some, Option.bind_some, Place.misfit?, Place.misfit?, kind_outline,
        refuse_outline (List.mem_of_find?_eq_some hplace)]
      split <;> rfl

/-- So does which part is the first that does not fit. -/
theorem misfit?_outline (parts : List (String × Json)) :
    misfit? (parts.map fun part => (part.1, part.2.outline)) =
      (misfit? parts).map DecodeError.outline := by
  have hpart : partMisfit? ∘ (fun part : String × Json => (part.1, part.2.outline)) =
      Option.map DecodeError.outline ∘ partMisfit? :=
    funext fun part => partMisfit?_outline part.1 part.2
  rw [misfit?, misfit?, List.findSome?_map, hpart, List.map_findSome?]

/-- Whether a value is a hit is a matter of its shape. -/
theorem refusal?_outline (v : Json) :
    refusal? v.outline = (refusal? v).map DecodeError.outline := by
  cases v with
  | null | bool b | number n | string s => rfl
  | object fields =>
      rw [outline, refusal?, refusal?, outlineFields_eq_map, misfit?_outline]
  | array items =>
      have hparts : (places.map Place.name).zip (outlineItems items) =
          ((places.map Place.name).zip items).map fun part => (part.1, part.2.outline) := by
        rw [outlineItems_eq_map, List.zip_map_right]
        rfl
      rw [outline, refusal?, refusal?, hparts, misfit?_outline, outlineItems_eq_map,
        List.length_map, Option.map_or]
      by_cases hlength : places.length < items.length
      · rw [if_pos hlength]
        rfl
      · rw [if_neg hlength]
        rfl

end Hit

/-! ## replies -/

/- Which fault a reply has is a matter of its outline. So two replies of one shape have
faults of one outline, which differ in what is written out or not at all. -/

namespace Envelope

/-- A fault without the texts and numbers that it writes out. -/
def Fault.outline : Fault → Fault
  | .undecodableHit id cause => .undecodableHit id cause.outline
  | fault => fault

/-- The part of a reply that a fault writes out. -/
def Fault.written? : Fault → Option String
  | .undecodableHit _ cause => cause.written?
  | _ => none

/-- Faults of one shape are worded alike just if they write the same value out. -/
theorem Fault.reason_eq_iff {fault other : Fault} (h : fault.outline = other.outline) :
    fault.reason = other.reason ↔ fault.written? = other.written? := by
  cases fault with
  | undecodableHit id cause =>
      cases other with
      | undecodableHit otherId otherCause =>
          obtain ⟨rfl, hcause⟩ := Fault.undecodableHit.inj h
          exact (String.append_right_inj _).trans (DecodeError.message_eq_iff hcause)
      | _ => cases h
  | replyNotObject | noResponses | responsesNotArray | responseCount expected found
  | responseNotObject id | noHits id | noHitList id =>
      cases other <;> cases h
      exact iff_of_true rfl rfl

/-- Which hit is at fault shows in the outlines of the hits. -/
theorem hitFault?_outline (q : Query) (raw : List Json) :
    hitFault? q (raw.map Json.outline) = (hitFault? q raw).map Fault.outline := by
  have hrefusal : Hit.refusal? ∘ Json.outline =
      Option.map DecodeError.outline ∘ Hit.refusal? := funext Hit.refusal?_outline
  have hfault : Fault.undecodableHit q.id ∘ DecodeError.outline =
      Fault.outline ∘ Fault.undecodableHit q.id := rfl
  rw [hitFault?, hitFault?]
  split
  · rw [List.findSome?_map, hrefusal, ← List.map_findSome?, Option.map_map, Option.map_map, hfault]
  · rfl

theorem isFailure_outline (response : Fields) :
    isFailure (outlineFields response) = isFailure response := by
  simp [isFailure, Fields.has, find?_outlineFields]

/-- What is wrong with a response shows in its outline. -/
theorem responseFault?_outline (q : Query) (response : Json) :
    responseFault? q response.outline = (responseFault? q response).map Fault.outline := by
  cases response with
  | null | bool b | number n | string s | array items => rfl
  | object fields =>
      rw [Json.outline, responseFault?, responseFault?, isFailure_outline, find?_outlineFields]
      by_cases hread : q.kind = .suggestion ∧ ¬ isFailure fields = true
      · rw [if_pos hread, if_pos hread]
        cases hhits : Fields.find? fields "hits" with
        | none => rfl
        | some found =>
            cases found with
            | null | bool b | number n | string s | array items => rfl
            | object hits =>
                dsimp only [Option.map_some, Json.outline]
                rw [find?_outlineFields]
                cases hlist : Fields.find? hits "hits" with
                | none => rfl
                | some list =>
                    cases list with
                    | null | bool b | number n | string s | object fields => rfl
                    | array raw =>
                        dsimp only [Option.map_some, Json.outline]
                        rw [outlineItems_eq_map, hitFault?_outline]
      · rw [if_neg hread, if_neg hread]
        rfl

/-- Which fault a reply has is a matter of its shape. -/
theorem fault?_outline (batch : Batch) (reply : Json) :
    fault? batch reply.outline = (fault? batch reply).map Fault.outline := by
  cases reply with
  | null | bool b | number n | string s | array items => rfl
  | object top =>
      rw [Json.outline, fault?, fault?, find?_outlineFields]
      cases hfound : Fields.find? top "responses" with
      | none => rfl
      | some found =>
          cases found with
          | null | bool b | number n | string s | object fields => rfl
          | array items =>
              have hresponse : (fun pair : Query × Json => responseFault? pair.1 pair.2) ∘
                  Prod.map id Json.outline = Option.map Fault.outline ∘
                    fun pair => responseFault? pair.1 pair.2 :=
                funext fun pair => responseFault?_outline pair.1 pair.2
              dsimp only [Option.map_some, Json.outline]
              rw [outlineItems_eq_map, List.length_map]
              by_cases hlength : items.length ≠ batch.queries.length
              · rw [if_pos hlength, if_pos hlength]
                rfl
              · rw [if_neg hlength, if_neg hlength, List.zip_map_right, List.findSome?_map,
                  hresponse, List.map_findSome?]

/-- What the error about a reply writes out of a hit: the text of the string, of
the number or of the id that keeps the first unreadable hit from being read. -/
def disclosed? (batch : Batch) (reply : Json) : Option String :=
  (fault? batch reply).bind Fault.written?

/-- Replies of one shape have the same fault up to what is written out of them. -/
theorem outline_fault?_eq (batch : Batch) {reply other : Json} (hshape : SameShape reply other) :
    (fault? batch reply).map Fault.outline = (fault? batch other).map Fault.outline := by
  rw [← fault?_outline, ← fault?_outline, hshape]

section

variable (common : Stopwords) {queries : List Query} {batch : Batch} {reply other : Json}

/-- Replies of one shape fail together. -/
theorem exists_error_of_sameShape (hbatch : Batch.ofQueries queries = .ok batch)
    (hreply : reply.Ordered) (hother : other.Ordered) (hshape : SameShape reply other)
    (h : ∃ e, ofReply common batch reply = .error e) :
    ∃ e, ofReply common batch other = .error e := by
  obtain ⟨e, he⟩ := h
  obtain ⟨fault, hfault, _⟩ := (ofReply_eq_error_iff hbatch hreply).mp he
  have houtline := outline_fault?_eq batch hshape
  rw [hfault, Option.map_some] at houtline
  obtain ⟨otherFault, hotherFault, _⟩ := Option.map_eq_some_iff.mp houtline.symm
  exact ⟨_, (ofReply_eq_error_iff hbatch hother).mpr ⟨otherFault, hotherFault, rfl⟩⟩

/-- **What errors tell of documents**: of two replies of the same shape to a batch
both fail or none does.  If both do, their messages are the same if and only if
the errors write out the same part of a hit, or none. -/
theorem message_eq_iff_disclosed?_eq (hbatch : Batch.ofQueries queries = .ok batch)
    (hreply : reply.Ordered) (hother : other.Ordered) (hshape : SameShape reply other) :
    ((∃ e, ofReply common batch reply = .error e) ↔
        ∃ e, ofReply common batch other = .error e) ∧
      ∀ e f, ofReply common batch reply = .error e → ofReply common batch other = .error f →
        (e.message = f.message ↔ disclosed? batch reply = disclosed? batch other) := by
  constructor
  · exact ⟨exists_error_of_sameShape common hbatch hreply hother hshape,
      exists_error_of_sameShape common hbatch hother hreply hshape.symm⟩
  · intro e f he hf
    obtain ⟨fault, hfault, rfl⟩ := (ofReply_eq_error_iff hbatch hreply).mp he
    obtain ⟨otherFault, hotherFault, rfl⟩ := (ofReply_eq_error_iff hbatch hother).mp hf
    have houtline : fault.outline = otherFault.outline := by
      have houtlines := outline_fault?_eq batch hshape
      rw [hfault, hotherFault] at houtlines
      exact Option.some_inj.mp houtlines
    rw [disclosed?, disclosed?, hfault, hotherFault, Option.bind_some, Option.bind_some,
      ← Fault.reason_eq_iff houtline]
    exact String.append_right_inj "partial response: "

end

/-! ### replies about names -/

/-- A query for suggestions. -/
def namesQuery : Query where
  id := "names"
  kind := .suggestion
  value := some (.string "al")
  body := some (.object [])

/-- The batch of this query. -/
def namesBatch : Batch where
  queries := [namesQuery]
  payload := "\x7b\x7d\n\x7b\x7d\n"

/-- The reply to it with these hits. -/
def namesReply (hits : List Json) : Json :=
  .object [("responses", .array [.object [("hits", .object [("hits", .array hits)])]])]

/-- A hit whose id is an array. -/
def listedUnder (name : String) : Json :=
  .object [("_id", .array [.ofNat 7]), ("_source", .object [("name", .string name)])]

/-- A hit whose document is a string. -/
def bareName (name : String) : Json := .object [("_source", .string name)]

theorem ordered_namesReply {hit : Json} (h : hit.Ordered) : (namesReply [hit]).Ordered := by
  simp [namesReply, Ordered, ItemsOrdered, FieldsOrdered, Fields.Sorted, h]

theorem ordered_listedUnder (name : String) : (listedUnder name).Ordered := by
  have hsorted : List.Pairwise (· < ·) ["_id", "_source"] := by decide +kernel
  refine ⟨hsorted, ?_⟩
  simp [FieldsOrdered, Ordered, ItemsOrdered, Fields.Sorted, Json.ofNat]

theorem ordered_bareName (name : String) : (bareName name).Ordered := by
  simp [bareName, Ordered, FieldsOrdered, Fields.Sorted]

/-- A list where a document belongs is refused without a word of what it holds. -/
theorem message_eq_iff_disclosed?_eq_listedUnder :
    Batch.ofQueries [namesQuery] = .ok namesBatch ∧
      (namesReply [listedUnder "alice"]).Ordered ∧ (namesReply [listedUnder "bob"]).Ordered ∧
      SameShape (namesReply [listedUnder "alice"]) (namesReply [listedUnder "bob"]) ∧
      ∃ e f, ofReply .english namesBatch (namesReply [listedUnder "alice"]) = .error e ∧
        ofReply .english namesBatch (namesReply [listedUnder "bob"]) = .error f ∧
        e.message = f.message := by
  have hbatch : Batch.ofQueries [namesQuery] = .ok namesBatch := rfl
  have halice := ordered_namesReply (ordered_listedUnder "alice")
  have hbob := ordered_namesReply (ordered_listedUnder "bob")
  have hshape : SameShape (namesReply [listedUnder "alice"]) (namesReply [listedUnder "bob"]) := by
    decide
  have hsame : disclosed? namesBatch (namesReply [listedUnder "alice"]) =
      disclosed? namesBatch (namesReply [listedUnder "bob"]) := by decide +kernel
  obtain ⟨hfails, hmessages⟩ :=
    message_eq_iff_disclosed?_eq .english hbatch halice hbob hshape
  obtain ⟨e, he⟩ : ∃ e, ofReply .english namesBatch (namesReply [listedUnder "alice"]) = .error e :=
    ⟨_, (ofReply_eq_error_iff hbatch halice).mpr ⟨_, rfl, rfl⟩⟩
  obtain ⟨f, hf⟩ := hfails.mp ⟨e, he⟩
  exact ⟨hbatch, halice, hbob, hshape, e, f, he, hf, (hmessages e f he hf).mpr hsame⟩

/-- Two replies that differ in a text of a document only, and the error about each
tells this text. -/
theorem bareName_disclosed :
    Batch.ofQueries [namesQuery] = .ok namesBatch ∧
      (namesReply [bareName "alice"]).Ordered ∧ (namesReply [bareName "bob"]).Ordered ∧
      SameShape (namesReply [bareName "alice"]) (namesReply [bareName "bob"]) ∧
      ∃ e f, ofReply .english namesBatch (namesReply [bareName "alice"]) = .error e ∧
        ofReply .english namesBatch (namesReply [bareName "bob"]) = .error f ∧
        e.message = "partial response: undecodable hit for `names`: " ++
          "invalid type: string \"alice\", expected a map" ∧
        f.message = "partial response: undecodable hit for `names`: " ++
          "invalid type: string \"bob\", expected a map" := by
  have hbatch : Batch.ofQueries [namesQuery] = .ok namesBatch := rfl
  have halice := ordered_namesReply (ordered_bareName "alice")
  have hbob := ordered_namesReply (ordered_bareName "bob")
  exact ⟨hbatch, halice, hbob, by decide, _, _,
    (ofReply_eq_error_iff hbatch halice).mpr ⟨_, rfl, rfl⟩,
    (ofReply_eq_error_iff hbatch hbob).mpr ⟨_, rfl, rfl⟩, by decide +kernel, by decide +kernel⟩

end Envelope

end SearchRelay
