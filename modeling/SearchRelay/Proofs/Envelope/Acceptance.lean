import SearchRelay.Proofs.Envelope

/-!
# SearchRelay.Proofs.Envelope.Acceptance

Which replies of the backend make an envelope, and what is reported about the
others.

1. `Fits` says which response a query may have, `Offends` what is wrong with
   any other: a response that does not fit offends in one way or another
   (`fits_or_offends`).
2. A response that fits makes an entry (`exists_entry_of_fits`), and one that
   offends is refused for its offence (`entry_of_offends`).
3. `Acceptable` and `FirstFault` say the same of a whole reply, where the first
   query with an offence counts.

`ofReply_ok_iff_acceptable` puts these together.
-/

namespace SearchRelay.Envelope

open Json

/-! ## what the backend may reply -/

def IsHit (v : Json) : Prop := ∃ hit, decodeAs Hit.decode v = .ok hit

def HasText (q : Query) : Prop := ∃ text, q.value = some (.string text)

/-- The list of hits in a response. -/
def HitList (response : Fields) (raw : List Json) : Prop :=
  ∃ hits : Fields, response.find? "hits" = some (.object hits) ∧
    hits.find? "hits" = some (.array raw)

/-- A response that a query may have. -/
def Fits (q : Query) (response : Json) : Prop :=
  ∃ fields : Fields, response = .object fields ∧
    (q.kind = .suggestion → (fields.has "error" ∧ ¬ fields.has "hits") ∨
      ∃ raw, HitList fields raw ∧ (HasText q → ∀ v ∈ raw, IsHit v))

/-- A reply that makes an envelope. -/
def Acceptable (queries : List Query) (reply : Json) : Prop :=
  ∃ (fields : Fields) (items : List Json), reply = .object fields ∧
    fields.find? "responses" = some (.array items) ∧ items.length = queries.length ∧
    ∀ pair ∈ queries.zip items, Fits pair.1 pair.2

/-! ## what else it may reply -/

/-- What is wrong with the response to a query. -/
inductive Offends (q : Query) : (response : Json) → Fault → Prop
  | notObject {response : Json} (hresponse : response.object? = none) :
      Offends q response (.responseNotObject q.id)
  | noHits {fields : Fields} (hkind : q.kind = .suggestion)
      (hfailure : ¬ (fields.has "error" ∧ ¬ fields.has "hits"))
      (hhits : (fields.find? "hits").bind object? = none) :
      Offends q (.object fields) (.noHits q.id)
  | noHitList {fields hits : Fields} (hkind : q.kind = .suggestion)
      (hhits : fields.find? "hits" = some (.object hits))
      (hlist : (Fields.find? hits "hits").bind array? = none) :
      Offends q (.object fields) (.noHitList q.id)
  /-- The first hit that cannot be read counts. -/
  | undecodableHit {fields : Fields} {before after : List Json} {v : Json} {cause : DecodeError}
      (hkind : q.kind = .suggestion) (htext : HasText q)
      (hlist : HitList fields (before ++ v :: after)) (hbefore : ∀ w ∈ before, IsHit w)
      (hcause : decodeAs Hit.decode v = .error cause) :
      Offends q (.object fields) (.undecodableHit q.id cause)

/-- What is reported about a reply to queries. -/
inductive FirstFault (queries : List Query) : (reply : Json) → Fault → Prop
  | replyNotObject {reply : Json} (hreply : reply.object? = none) :
      FirstFault queries reply .replyNotObject
  | noResponses {fields : Fields} (hfields : fields.find? "responses" = none) :
      FirstFault queries (.object fields) .noResponses
  | responsesNotArray {fields : Fields} {found : Json}
      (hfields : fields.find? "responses" = some found) (hfound : found.array? = none) :
      FirstFault queries (.object fields) .responsesNotArray
  | responseCount {fields : Fields} {items : List Json}
      (hfields : fields.find? "responses" = some (.array items))
      (hlength : items.length ≠ queries.length) :
      FirstFault queries (.object fields) (.responseCount queries.length items.length)
  /-- The first query whose response does not fit counts. -/
  | response {fields : Fields} {items : List Json} {before after : List (Query × Json)}
      {q : Query} {response : Json} {fault : Fault}
      (hfields : fields.find? "responses" = some (.array items))
      (hlength : items.length = queries.length)
      (hpairs : queries.zip items = before ++ (q, response) :: after)
      (hbefore : ∀ pair ∈ before, Fits pair.1 pair.2) (hoffends : Offends q response fault) :
      FirstFault queries (.object fields) fault

/-! ## one response -/

/- Each response fits its query or offends in exactly one way. The entry is made in the
first case and the fault is reported in the second, by the same cases. -/

/-- Either all values of a list have a property, or there is a first one that
has not. -/
theorem forall_or_exists_first {α : Type} (P : α → Prop) (xs : List α) :
    (∀ x ∈ xs, P x) ∨
      ∃ before x after, xs = before ++ x :: after ∧ (∀ y ∈ before, P y) ∧ ¬ P x := by
  induction xs with
  | nil => exact .inl (fun _ h => nomatch h)
  | cons x xs ih =>
      by_cases hx : P x
      · rcases ih with hall | ⟨before, y, after, rfl, hbefore, hy⟩
        · exact .inl (List.forall_mem_cons.mpr ⟨hx, hall⟩)
        · exact .inr ⟨x :: before, y, after, rfl, List.forall_mem_cons.mpr ⟨hx, hbefore⟩, hy⟩
      · exact .inr ⟨[], x, xs, rfl, (fun _ h => nomatch h), hx⟩

/-- A response fits its query, or something is wrong with it. -/
theorem fits_or_offends (q : Query) (response : Json) :
    Fits q response ∨ ∃ fault, Offends q response fault := by
  cases hobject : response.object? with
  | none => exact .inr ⟨_, .notObject hobject⟩
  | some fields =>
      obtain rfl : response = .object fields := object?_eq_some_iff.mp hobject
      by_cases hkind : q.kind = .suggestion
      · by_cases hfailure : fields.has "error" ∧ ¬ fields.has "hits"
        · exact .inl ⟨fields, rfl, fun _ => .inl hfailure⟩
        · cases hhits : (fields.find? "hits").bind object? with
          | none => exact .inr ⟨_, .noHits hkind hfailure hhits⟩
          | some hits =>
              obtain ⟨_, hhits, hinner⟩ := Option.bind_eq_some_iff.mp hhits
              rw [object?_eq_some_iff.mp hinner] at hhits
              cases hlist : (Fields.find? hits "hits").bind array? with
              | none => exact .inr ⟨_, .noHitList hkind hhits hlist⟩
              | some raw =>
                  obtain ⟨_, hlist, hraw⟩ := Option.bind_eq_some_iff.mp hlist
                  rw [array?_eq_some_iff.mp hraw] at hlist
                  have hfound : HitList fields raw := ⟨hits, hhits, hlist⟩
                  rcases forall_or_exists_first IsHit raw with
                    hall | ⟨before, v, after, rfl, hbefore, hv⟩
                  · exact .inl ⟨fields, rfl, fun _ => .inr ⟨raw, hfound, fun _ => hall⟩⟩
                  · by_cases htext : HasText q
                    · cases hcause : decodeAs Hit.decode v with
                      | ok hit => exact absurd ⟨hit, hcause⟩ hv
                      | error cause =>
                          exact .inr ⟨_, .undecodableHit hkind htext hfound hbefore hcause⟩
                    · exact .inl ⟨fields, rfl, fun _ =>
                        .inr ⟨_, hfound, fun h => absurd h htext⟩⟩
      · exact .inl ⟨fields, rfl, fun h => absurd h hkind⟩

section

variable (common : Stopwords) {q : Query}

/-- Where every hit can be read, there are suggestions, if only none. -/
theorem exists_suggestionsFor (hoptions : ∀ fault, q.suggestionOptions ≠ .error fault)
    {raw : List Json} (hraw : HasText q → ∀ v ∈ raw, IsHit v) :
    ∃ suggestions, suggestionsFor common q raw = .ok suggestions := by
  cases hgiven : q.suggestionOptions with
  | error fault => exact absurd hgiven (hoptions fault)
  | ok given =>
      cases given with
      | none => exact ⟨[], by rw [suggestionsFor, hgiven]⟩
      | some options =>
          obtain ⟨hits, hhits⟩ :=
            Except.exists_mapM_eq_ok_iff.mpr (hraw (text_of_suggestionOptions hgiven))
          exact ⟨_, by rw [suggestionsFor, hgiven]; simp only [hhits]; rfl⟩

/-- The first hit that cannot be read is the one that is reported. -/
theorem suggestionsFor_of_error (hoptions : ∀ fault, q.suggestionOptions ≠ .error fault)
    (htext : HasText q) {before after : List Json} {v : Json} {cause : DecodeError}
    (hbefore : ∀ w ∈ before, IsHit w) (hcause : decodeAs Hit.decode v = .error cause) :
    suggestionsFor common q (before ++ v :: after) =
      .error (Fault.undecodableHit q.id cause).error := by
  obtain ⟨text, htext⟩ := htext
  have hmap : (before ++ v :: after).mapM (decodeAs Hit.decode) = .error cause :=
    Except.mapM_of_error hbefore hcause
  cases hgiven : q.suggestionOptions with
  | error fault => exact absurd hgiven (hoptions fault)
  | ok given =>
      cases given with
      | none => rcases value_of_suggestionOptions hgiven with h | h <;> simp [htext] at h
      | some options => simp only [suggestionsFor, hgiven, hmap, fail]

/-- A response that fits makes an entry. -/
theorem exists_entry_of_fits
    (hoptions : q.kind = .suggestion → ∀ fault, q.suggestionOptions ≠ .error fault)
    {response : Json} (h : Fits q response) : ∃ e, entry common q response = .ok e := by
  obtain ⟨fields, rfl, hfits⟩ := h
  by_cases hkind : q.kind = .suggestion
  · rw [entry, if_pos hkind]
    rcases hfits hkind with hfailure | ⟨raw, ⟨hits, hhits, hlist⟩, hraw⟩
    · rw [suggestionResult, if_pos ((isFailure_iff fields).mpr hfailure)]
      exact ⟨_, rfl⟩
    · obtain ⟨suggestions, hsuggestions⟩ := exists_suggestionsFor common (hoptions hkind) hraw
      have hnot : ¬ isFailure fields = true := by simp [isFailure, Fields.has, hhits]
      rw [suggestionResult, if_neg hnot]
      simp only [hhits, hlist, hsuggestions]
      exact ⟨_, rfl⟩
  · exact ⟨_, by rw [entry, if_neg hkind]⟩

/-- A response with which something is wrong is refused for that. -/
theorem entry_of_offends
    (hoptions : q.kind = .suggestion → ∀ fault, q.suggestionOptions ≠ .error fault)
    {response : Json} {fault : Fault} (h : Offends q response fault) :
    entry common q response = .error fault.error := by
  cases h with
  | notObject hresponse =>
      cases response with
      | object fields => contradiction
      | null | bool b | number n | string s | array items => rfl
  | noHits hkind hfailure hhits =>
      rw [entry, if_pos hkind, suggestionResult, if_neg (mt (isFailure_iff _).mp hfailure)]
      split
      · next found => simp [found, object?] at hhits
      · rfl
  | noHitList hkind hhits hlist =>
      rw [entry, if_pos hkind, suggestionResult, if_neg (by simp [isFailure, Fields.has, hhits])]
      simp only [hhits]
      split
      · next found => simp [found, array?] at hlist
      · rfl
  | undecodableHit hkind htext hfound hbefore hcause =>
      obtain ⟨hits, hhits, hlist⟩ := hfound
      rw [entry, if_pos hkind, suggestionResult, if_neg (by simp [isFailure, Fields.has, hhits])]
      simp only [hhits, hlist,
        suggestionsFor_of_error common (hoptions hkind) htext hbefore hcause]
      rfl

end

/-! ## the reply -/

/-- A reply is acceptable, or there is something to report. -/
theorem acceptable_or_firstFault (queries : List Query) (reply : Json) :
    Acceptable queries reply ∨ ∃ fault, FirstFault queries reply fault := by
  cases hobject : reply.object? with
  | none => exact .inr ⟨_, .replyNotObject hobject⟩
  | some fields =>
      obtain rfl : reply = .object fields := object?_eq_some_iff.mp hobject
      cases hfields : fields.find? "responses" with
      | none => exact .inr ⟨_, .noResponses hfields⟩
      | some found =>
          cases hfound : found.array? with
          | none => exact .inr ⟨_, .responsesNotArray hfields hfound⟩
          | some items =>
              rw [array?_eq_some_iff.mp hfound] at hfields
              by_cases hlength : items.length = queries.length
              · rcases forall_or_exists_first (fun pair : Query × Json => Fits pair.1 pair.2)
                    (queries.zip items) with
                  hall | ⟨before, ⟨q, response⟩, after, hpairs, hbefore, hnot⟩
                · exact .inl ⟨fields, items, rfl, hfields, hlength, hall⟩
                · obtain ⟨fault, hoffends⟩ := (fits_or_offends q response).resolve_left hnot
                  exact .inr ⟨fault, .response hfields hlength hpairs hbefore hoffends⟩
              · exact .inr ⟨_, .responseCount hfields hlength⟩

variable {common : Stopwords} {queries : List Query} {batch : Batch} {reply : Json}

/-- An acceptable reply makes an envelope. -/
theorem exists_ofReply_of_acceptable (hbatch : Batch.ofQueries queries = .ok batch)
    (h : Acceptable queries reply) : ∃ envelope, ofReply common batch reply = .ok envelope := by
  obtain ⟨fields, items, rfl, hfields, hlength, hfits⟩ := h
  have hqueries := Batch.queries_of_ofQueries hbatch
  rw [← hqueries] at hlength hfits
  obtain ⟨envelope, hadd⟩ := exists_addEntries (fun pair hpair => exists_entry_of_fits common
    (Batch.suggestionOptions_ne_error hbatch (List.of_mem_zip hpair).1) (hfits pair hpair))
    (frame fields)
  exact ⟨envelope, ofReply_of_addEntries hfields hlength hadd⟩

/-- The fault to report is the one that is reported. -/
theorem ofReply_of_firstFault (hbatch : Batch.ofQueries queries = .ok batch) {fault : Fault}
    (h : FirstFault queries reply fault) : ofReply common batch reply = .error fault.error := by
  have hqueries := Batch.queries_of_ofQueries hbatch
  cases h with
  | replyNotObject hreply =>
      cases reply with
      | object fields => contradiction
      | null | bool b | number n | string s | array items => rfl
  | noResponses hfields =>
      rw [ofReply, responses, hfields]
      rfl
  | responsesNotArray hfields hfound =>
      rw [ofReply, responses, hfields]
      rename_i found
      cases found with
      | array items => contradiction
      | null | bool b | number n | string s | object fields => rfl
  | responseCount hfields hlength =>
      rw [ofReply_of_responses common batch hfields, hqueries, if_neg hlength]
      rfl
  | @response fields items before after q response _ hfields hlength hpairs hbefore hoffends =>
      have hoptions : ∀ pair ∈ before ++ (q, response) :: after, pair.1.kind = .suggestion →
          ∀ fault, pair.1.suggestionOptions ≠ .error fault := by
        intro pair hpair
        rw [← hpairs] at hpair
        exact Batch.suggestionOptions_ne_error hbatch (hqueries ▸ (List.of_mem_zip hpair).1)
      rw [ofReply_of_responses common batch hfields, hqueries, if_pos hlength, hpairs]
      refine addEntries_of_error (fun pair hpair => ?_)
        (entry_of_offends common (hoptions (q, response) (by simp)) hoffends) _
      exact exists_entry_of_fits common (hoptions pair (List.mem_append_left _ hpair))
        (hbefore pair hpair)

/-- **A reply makes an envelope exactly if it is acceptable**: it has one object
for each query in its list of responses, and the one of a suggestion query is a
failure, or has a list of hits all of which can be read if the query has a text.
Any other reply is refused with its first fault, query by query. -/
theorem ofReply_ok_iff_acceptable (common : Stopwords)
    (hbatch : Batch.ofQueries queries = .ok batch) (reply : Json) :
    ((∃ envelope, ofReply common batch reply = .ok envelope) ↔ Acceptable queries reply) ∧
      (¬ Acceptable queries reply → ∃ fault, FirstFault queries reply fault ∧
        ofReply common batch reply = .error (.partialResponse fault.reason)) := by
  have hrefused : ¬ Acceptable queries reply → ∃ fault, FirstFault queries reply fault ∧
      ofReply common batch reply = .error (.partialResponse fault.reason) := by
    intro hnot
    obtain ⟨fault, hfault⟩ := (acceptable_or_firstFault queries reply).resolve_left hnot
    exact ⟨fault, hfault, ofReply_of_firstFault hbatch hfault⟩
  refine ⟨⟨fun ⟨envelope, henvelope⟩ => ?_, exists_ofReply_of_acceptable hbatch⟩, hrefused⟩
  refine Classical.byContradiction fun hnot => ?_
  obtain ⟨fault, -, herror⟩ := hrefused hnot
  rw [herror] at henvelope
  contradiction

/-- A plain search and a query for suggestions. -/
def shelfQueries : List Query := [
  { id := "all", body := some (.object []) },
  { id := "names", kind := .suggestion, value := some (.string "al"), body := some (.object []) }]

/-- The batch of these queries. -/
def shelfBatch : Batch := ⟨shelfQueries, "\x7b\x7d\n\x7b\x7d\n\x7b\x7d\n\x7b\x7d\n"⟩

/-- A reply that has no hits for the search, and these for the suggestions. -/
def shelfReply (raw : List Json) : Json :=
  .object [("responses", .array [.object [], .object [("hits", .object [("hits", .array raw)])]])]

theorem ofReply_ok_iff_acceptable_shelf :
    Batch.ofQueries shelfQueries = .ok shelfBatch ∧
      (∃ envelope, ofReply .english shelfBatch (shelfReply [.object []]) = .ok envelope) ∧
      ¬ Acceptable shelfQueries (shelfReply [.object [], .bool true, .null]) ∧
      ofReply .english shelfBatch (shelfReply [.object [], .bool true, .null]) =
        .error (.partialResponse
          "undecodable hit for `names`: invalid type: boolean `true`, expected struct RawHit") := by
  have hbatch : Batch.ofQueries shelfQueries = .ok shelfBatch := by rfl
  have hhit : IsHit (.object []) := ⟨{}, rfl⟩
  have hplain : Fits shelfQueries[0] (.object []) := ⟨[], rfl, fun h => nomatch h⟩
  have hrefused : FirstFault shelfQueries (shelfReply [.object [], .bool true, .null])
      (.undecodableHit "names" (.invalidType (.bool true) "struct RawHit")) :=
    @FirstFault.response _ _ _ [(shelfQueries[0], .object [])] [] _ _ _ rfl rfl rfl
      (by simpa using hplain)
      (@Offends.undecodableHit _ _ [.object []] [.null] (.bool true) _ rfl ⟨"al", rfl⟩
        ⟨_, rfl, rfl⟩ (by simpa using hhit) rfl)
  have herror : ofReply .english shelfBatch _ = _ := ofReply_of_firstFault hbatch hrefused
  have hiff := fun reply => (ofReply_ok_iff_acceptable .english hbatch reply).1
  refine ⟨hbatch, (hiff _).mpr ?_, fun hacceptable => ?_, ?_⟩
  · have hnames : Fits shelfQueries[1]
        (.object [("hits", .object [("hits", .array [.object []])])]) :=
      ⟨_, rfl, fun _ => .inr ⟨_, ⟨_, rfl, rfl⟩, fun _ => by simpa using hhit⟩⟩
    exact ⟨_, _, rfl, rfl, rfl, List.forall_mem_cons.mpr
      ⟨hplain, List.forall_mem_singleton.mpr hnames⟩⟩
  · obtain ⟨envelope, henvelope⟩ := (hiff _).mpr hacceptable
    rw [herror] at henvelope
    contradiction
  · rw [herror, Fault.error]
    congr 1

end SearchRelay.Envelope
