import SearchRelay.Proofs.Batch

/-!
# SearchRelay.Proofs.Batch.Acceptance

Which lists of queries make a batch, and what is reported about the others.

1. `Usable` ids, `Resolvable` options and a body that is an object make a query
   `WellFormed`; `Offends` says what is wrong with any other, given the ids
   before it, where an earlier check counts before a later one.
2. The checks of one query decide just that (`exists_checked_iff`,
   `checked_eq_error_iff`).
3. The check of a list fails as its first query that offends
   (`payloadFrom_eq_error_iff`).

`ofQueries_iff_acceptable` puts these together.
-/

namespace SearchRelay.Batch

/-! ## queries that may be asked -/

/-- An id that a query may have. -/
structure Usable (id : String) : Prop where
  notBlank : ¬ Text.allBlank id
  notSettings : id ≠ "settings"
  notError : id ≠ "error"

/-- The options of a query for suggestions make sense: it has no value, or a text
and neither a blank data field nor a blank stopword. -/
def Resolvable (q : Query) : Prop :=
  q.value = none ∨ q.value = some .null ∨
    (∃ text, q.value = some (.string text)) ∧
      (∀ field ∈ q.fieldNames, ¬ Text.allBlank field) ∧
      ∀ word ∈ q.stopwords.getD [], ¬ Text.allBlank word

/-- A query that may be asked. -/
structure WellFormed (q : Query) : Prop where
  id : Usable q.id
  options : q.kind = .suggestion → Resolvable q
  body : ∃ fields, q.body = some (.object fields)

/-- A list of queries that makes a batch. -/
structure Acceptable (queries : List Query) : Prop where
  nonempty : queries ≠ []
  wellFormed : ∀ q ∈ queries, WellFormed q
  nodup : (queries.map Query.id).Nodup

/-! ## what else there may be -/

/- The faults of a query are listed in the order of the checks, so each later one says
that the earlier checks passed. This makes the fault of a query unique. -/

/-- What is wrong with the options of a query for suggestions. -/
inductive OptionsOffend (q : Query) : RequestFault → Prop
  | valueNotText {v : Json} (hvalue : q.value = some v) (hnull : v ≠ .null)
      (htext : ∀ text, v ≠ .string text) : OptionsOffend q (.valueNotText q.id)
  | blankDataField {text : String} (hvalue : q.value = some (.string text))
      (hfield : ∃ field ∈ q.fieldNames, Text.allBlank field) :
      OptionsOffend q (.blankDataField q.id)
  | blankStopword {text : String} (hvalue : q.value = some (.string text))
      (hfields : ∀ field ∈ q.fieldNames, ¬ Text.allBlank field)
      (hword : ∃ word ∈ q.stopwords.getD [], Text.allBlank word) :
      OptionsOffend q (.blankStopword q.id)

/-- What is wrong with the body of a query. -/
inductive BodyOffends (q : Query) : RequestFault → Prop
  | bodyNotObject {v : Json} (hbody : q.body = some v) (hobject : ∀ fields, v ≠ .object fields) :
      BodyOffends q (.bodyNotObject q.id)
  | noBody (hbody : q.body = none) : BodyOffends q (.noBody q.id)

/-- What is wrong with a query, given the ids before it.  Each fault counts only
where the checks before it find none. -/
inductive Offends (earlier : List String) (q : Query) : RequestFault → Prop
  | blankId (hid : Text.allBlank q.id) : Offends earlier q .blankId
  | reservedId (hid : ¬ Text.allBlank q.id) (hreserved : q.id = "settings" ∨ q.id = "error") :
      Offends earlier q (.reservedId q.id)
  | duplicateId (hid : Usable q.id) (hearlier : q.id ∈ earlier) :
      Offends earlier q (.duplicateId q.id)
  | options {fault : RequestFault} (hid : Usable q.id) (hearlier : q.id ∉ earlier)
      (hkind : q.kind = .suggestion) (hoptions : OptionsOffend q fault) : Offends earlier q fault
  | body {fault : RequestFault} (hid : Usable q.id) (hearlier : q.id ∉ earlier)
      (hoptions : q.kind = .suggestion → Resolvable q) (hbody : BodyOffends q fault) :
      Offends earlier q fault

/-- What is reported about a list of queries. -/
inductive FirstFault (queries : List Query) : RequestFault → Prop
  | noQueries (hqueries : queries = []) : FirstFault queries .noQueries
  /-- The first query with a fault counts. -/
  | query {before after : List Query} {q : Query} {fault : RequestFault}
      (hqueries : queries = before ++ q :: after) (hbefore : ∀ p ∈ before, WellFormed p)
      (hnodup : (before.map Query.id).Nodup) (hoffends : Offends (before.map Query.id) q fault) :
      FirstFault queries fault

/-! ## the checks of one query -/

section

variable {earlier : List String} {q : Query} {fault : RequestFault}

theorem contains_reservedIds_iff {id : String} :
    reservedIds.contains id = true ↔ id = "settings" ∨ id = "error" := by
  simp [reservedIds]

/-- An id can be used just if it is not blank and not reserved. -/
theorem usable_iff {id : String} :
    Usable id ↔ ¬ Text.allBlank id ∧ ¬ reservedIds.contains id = true := by
  rw [contains_reservedIds_iff, not_or]
  exact ⟨fun h => ⟨h.notBlank, h.notSettings, h.notError⟩, fun h => ⟨h.1, h.2.1, h.2.2⟩⟩

theorem idFault?_eq_none_iff_usable {id : String} :
    idFault? earlier id = none ↔ Usable id ∧ id ∉ earlier := by
  rw [idFault?, usable_iff, ← List.contains_iff_mem]
  split
  · next hblank => exact iff_of_false nofun fun h => h.1.1 hblank
  · next hblank =>
    split
    · next hreserved => exact iff_of_false nofun fun h => h.1.2 hreserved
    · next hreserved =>
      split
      · next hearlier => exact iff_of_false nofun fun h => h.2 hearlier
      · next hearlier => exact iff_of_true rfl ⟨⟨hblank, hreserved⟩, hearlier⟩

/-- The fault that is reported of the options of a query for suggestions. -/
theorem suggestionOptions_eq_error_iff :
    q.suggestionOptions = .error fault ↔ OptionsOffend q fault := by
  unfold Query.suggestionOptions
  constructor
  · intro h
    split at h
    · contradiction
    · contradiction
    · next text hvalue =>
      split at h
      · next hfield =>
        cases h
        exact .blankDataField hvalue (by simpa using hfield)
      · next hfields =>
        split at h
        · next hword =>
          cases h
          exact .blankStopword hvalue (by simpa using hfields) (by simpa using hword)
        · contradiction
    · next v hnull htext hvalue =>
      cases h
      exact .valueNotText hvalue (by simpa using hnull) htext
  · intro h
    cases h with
    | valueNotText hvalue hnull htext =>
        rename_i v
        rw [hvalue]
        cases v with
        | null => contradiction
        | string text => exact absurd rfl (htext text)
        | bool b | number n | array items | object fields => rfl
    | blankDataField hvalue hfield =>
        rw [hvalue]
        exact if_pos (by simpa using hfield)
    | blankStopword hvalue hfields hword =>
        rw [hvalue]
        dsimp only
        rw [if_neg (by simpa using hfields), if_pos (by simpa using hword)]

theorem exists_suggestionOptions_iff :
    (∃ options, q.suggestionOptions = .ok options) ↔ Resolvable q := by
  unfold Query.suggestionOptions Resolvable
  constructor
  · rintro ⟨options, h⟩
    split at h
    · next hvalue => exact .inl hvalue
    · next hvalue => exact .inr (.inl hvalue)
    · next text hvalue =>
      split at h
      · contradiction
      · next hfields =>
        split at h
        · contradiction
        · next hwords =>
          exact .inr (.inr ⟨⟨text, hvalue⟩, by simpa using hfields, by simpa using hwords⟩)
    · contradiction
  · rintro (hvalue | hvalue | ⟨⟨text, hvalue⟩, hfields, hwords⟩)
    · exact ⟨none, by rw [hvalue]⟩
    · exact ⟨none, by rw [hvalue]⟩
    · rw [hvalue]
      dsimp only
      rw [if_neg (by simpa using hfields), if_neg (by simpa using hwords)]
      exact ⟨_, rfl⟩

/-- The fault that is reported of the body of a query. -/
theorem body_eq_error_iff : body q = .error fault ↔ BodyOffends q fault := by
  unfold body
  constructor
  · intro h
    split at h
    · contradiction
    · next v hobject hbody =>
      cases h
      exact .bodyNotObject hbody hobject
    · next hbody =>
      cases h
      exact .noBody hbody
  · intro h
    cases h with
    | bodyNotObject hbody hobject =>
        rename_i v
        rw [hbody]
        cases v with
        | object fields => exact absurd rfl (hobject fields)
        | null | bool b | number n | string s | array items => rfl
    | noBody hbody => rw [hbody]

/-- Just the objects are bodies. -/
theorem exists_body_iff : (∃ v, body q = .ok v) ↔ ∃ fields, q.body = some (.object fields) := by
  unfold body
  constructor
  · rintro ⟨v, h⟩
    split at h
    · next fields hbody => exact ⟨fields, hbody⟩
    · contradiction
    · contradiction
  · rintro ⟨fields, hbody⟩
    rw [hbody]
    exact ⟨_, rfl⟩

/-- The checks behind that of the id. -/
theorem checked_of_idFault?_eq_none (h : idFault? earlier q.id = none) :
    checked earlier q =
      (if q.kind = .suggestion then q.suggestionOptions.map fun _ => () else .ok ()) >>=
        fun _ => (body q).map (lines q) := by
  rw [checked, h]
  dsimp only
  by_cases hkind : q.kind = .suggestion
  · rw [if_pos hkind, if_pos hkind]
    cases q.suggestionOptions with
    | error fault => rfl
    | ok options => cases body q <;> rfl
  · rw [if_neg hkind, if_neg hkind]
    cases body q <;> rfl

/-- A query passes its checks if and only if it may be asked and its id is a new
one. -/
theorem exists_checked_iff :
    (∃ text, checked earlier q = .ok text) ↔ WellFormed q ∧ q.id ∉ earlier := by
  constructor
  · rintro ⟨text, h⟩
    have hnone := idFault?_of_checked h
    obtain ⟨hid, hearlier⟩ := idFault?_eq_none_iff_usable.mp hnone
    rw [checked_of_idFault?_eq_none hnone] at h
    obtain ⟨_, hoptions, h⟩ := Except.bind_eq_ok.mp h
    obtain ⟨v, hv, -⟩ := Except.map_eq_ok.mp h
    refine ⟨⟨hid, fun hkind => ?_, exists_body_iff.mp ⟨v, hv⟩⟩, hearlier⟩
    rw [if_pos hkind] at hoptions
    obtain ⟨options, hoptions, -⟩ := Except.map_eq_ok.mp hoptions
    exact exists_suggestionOptions_iff.mp ⟨options, hoptions⟩
  · rintro ⟨⟨hid, hoptions, hbody⟩, hearlier⟩
    obtain ⟨v, hv⟩ := exists_body_iff.mpr hbody
    rw [checked_of_idFault?_eq_none (idFault?_eq_none_iff_usable.mpr ⟨hid, hearlier⟩)]
    refine ⟨lines q v, Except.bind_eq_ok.mpr ⟨(), ?_, Except.map_eq_ok.mpr ⟨v, hv, rfl⟩⟩⟩
    split
    · next hkind =>
      obtain ⟨options, hoptions⟩ := exists_suggestionOptions_iff.mpr (hoptions hkind)
      exact Except.map_eq_ok.mpr ⟨options, hoptions, rfl⟩
    · rfl

/-- What is wrong with a query is reported. -/
theorem checked_of_offends (h : Offends earlier q fault) : checked earlier q = .error fault := by
  cases h with
  | blankId hid => rw [checked, idFault?, if_pos hid]; rfl
  | reservedId hid hreserved =>
      rw [checked, idFault?, if_neg hid, if_pos (contains_reservedIds_iff.mpr hreserved)]
      rfl
  | duplicateId hid hearlier =>
      rw [checked, idFault?, if_neg hid.notBlank, if_neg (usable_iff.mp hid).2,
        if_pos (List.contains_iff_mem.mpr hearlier)]
      rfl
  | options hid hearlier hkind hoptions =>
      rw [checked_of_idFault?_eq_none (idFault?_eq_none_iff_usable.mpr ⟨hid, hearlier⟩),
        if_pos hkind, suggestionOptions_eq_error_iff.mpr hoptions]
      rfl
  | body hid hearlier hoptions hbody =>
      rw [checked_of_idFault?_eq_none (idFault?_eq_none_iff_usable.mpr ⟨hid, hearlier⟩),
        body_eq_error_iff.mpr hbody]
      split
      · next hkind =>
        obtain ⟨options, hoptions⟩ := exists_suggestionOptions_iff.mpr (hoptions hkind)
        rw [hoptions]
        rfl
      · rfl

/-- What is reported of a query is wrong with it. -/
theorem offends_of_checked (h : checked earlier q = .error fault) : Offends earlier q fault := by
  cases hid : idFault? earlier q.id with
  | some found =>
      have hfound : found = fault := by
        rw [checked, hid] at h
        exact Except.error.inj h
      rw [idFault?] at hid
      split at hid
      · next hblank =>
        cases hid
        exact hfound ▸ .blankId hblank
      · next hblank =>
        split at hid
        · next hreserved =>
          cases hid
          exact hfound ▸ .reservedId hblank (contains_reservedIds_iff.mp hreserved)
        · next hreserved =>
          split at hid
          · next hearlier =>
            cases hid
            exact hfound ▸ .duplicateId (usable_iff.mpr ⟨hblank, hreserved⟩)
              (List.contains_iff_mem.mp hearlier)
          · contradiction
  | none =>
      obtain ⟨husable, hearlier⟩ := idFault?_eq_none_iff_usable.mp hid
      rw [checked_of_idFault?_eq_none hid, Except.bind_eq_error] at h
      rcases h with h | ⟨_, hoptions, h⟩
      · split at h
        · next hkind =>
          exact .options husable hearlier hkind
            (suggestionOptions_eq_error_iff.mp (Except.map_eq_error.mp h))
        · contradiction
      · refine .body husable hearlier (fun hkind => ?_)
          (body_eq_error_iff.mp (Except.map_eq_error.mp h))
        rw [if_pos hkind] at hoptions
        obtain ⟨options, hoptions, -⟩ := Except.map_eq_ok.mp hoptions
        exact exists_suggestionOptions_iff.mp ⟨options, hoptions⟩

theorem checked_eq_error_iff : checked earlier q = .error fault ↔ Offends earlier q fault :=
  ⟨offends_of_checked, checked_of_offends⟩

/-- Of the ids before a query it only matters whether its own is one of them. -/
theorem checked_congr (others : List String) (h : q.id ∈ earlier ↔ q.id ∈ others) :
    checked earlier q = checked others q := by
  have hfault : idFault? earlier q.id = idFault? others q.id := by
    simp only [idFault?, List.contains_iff_mem, h]
  rw [checked, checked, hfault]

end

/-! ## the check of a list -/

/- The list is checked from the front, and the ids seen so far are part of the state. A
fault is reported of the first query that has one. -/

/-- Just the well-formed queries are accepted. -/
theorem accepted_iff_wellFormed {q : Query} : Accepted q ↔ WellFormed q :=
  exists_checked_iff.trans (and_iff_left List.not_mem_nil)

/-- The queries of a list are checked one after the other; the first one that
fails ends it. -/
theorem payloadFrom_eq_error_iff {seen : List String} {queries : List Query}
    {fault : RequestFault} :
    payloadFrom seen queries = .error fault ↔
      ∃ before q after, queries = before ++ q :: after ∧
        (∃ text, payloadFrom seen before = .ok text) ∧
        checked ((before.map Query.id).reverse ++ seen) q = .error fault := by
  induction queries generalizing seen with
  | nil => simp [payloadFrom]
  | cons first queries ih =>
      rw [payloadFrom, Except.bind_eq_error]
      simp only [Except.bind_eq_error, Except.pure_ne_error, and_false, exists_false, or_false]
      constructor
      · rintro (hfirst | ⟨text, hfirst, hrest⟩)
        · exact ⟨[], first, queries, rfl, ⟨"", rfl⟩, hfirst⟩
        · obtain ⟨before, q, after, rfl, ⟨payload, hbefore⟩, hq⟩ := ih.mp hrest
          refine ⟨first :: before, q, after, rfl, ⟨text ++ payload, ?_⟩, by simpa using hq⟩
          rw [payloadFrom, hfirst, hbefore]
          rfl
      · rintro ⟨before, q, after, hqueries, ⟨payload, hbefore⟩, hq⟩
        cases before with
        | nil =>
            obtain ⟨rfl, rfl⟩ := List.cons.inj hqueries
            exact .inl hq
        | cons other before =>
            obtain ⟨rfl, rfl⟩ := List.cons.inj hqueries
            rw [payloadFrom, Except.bind_eq_ok] at hbefore
            obtain ⟨text, hfirst, hbefore⟩ := hbefore
            obtain ⟨payload, hbefore, -⟩ := Except.bind_eq_ok.mp hbefore
            exact .inr ⟨text, hfirst, ih.mpr ⟨before, q, after, rfl, ⟨payload, hbefore⟩,
              by simpa using hq⟩⟩

/-- A payload is made of well-formed queries with distinct ids. -/
theorem exists_payloadFrom_nil_iff {queries : List Query} :
    (∃ text, payloadFrom [] queries = .ok text) ↔
      (∀ q ∈ queries, WellFormed q) ∧ (queries.map Query.id).Nodup := by
  simp [payloadFrom_ok_iff, accepted_iff_wellFormed]

/-- The fault that is reported of a list of queries is the first one. -/
theorem ofQueries_eq_error_iff {queries : List Query} {fault : RequestFault} :
    ofQueries queries = .error fault ↔ FirstFault queries fault := by
  have hquery : payloadFrom [] queries = .error fault ↔
      ∃ before q after, queries = before ++ q :: after ∧
        ((∀ p ∈ before, WellFormed p) ∧ (before.map Query.id).Nodup) ∧
        Offends (before.map Query.id) q fault := by
    simp only [payloadFrom_eq_error_iff, exists_payloadFrom_nil_iff, ← checked_eq_error_iff]
    refine exists_congr fun before => exists_congr fun q => exists_congr fun after => ?_
    rw [checked_congr (before.map Query.id) (by simp)]
  cases hempty : queries with
  | nil =>
      constructor
      · intro h
        cases h
        exact .noQueries rfl
      · intro h
        cases h with
        | noQueries => rfl
        | query hqueries => simp at hqueries
  | cons first rest =>
      rw [← hempty, ofQueries, if_neg (by simp [hempty]), Except.map_eq_error, hquery]
      constructor
      · rintro ⟨before, q, after, hqueries, ⟨hbefore, hnodup⟩, hoffends⟩
        exact .query hqueries hbefore hnodup hoffends
      · intro h
        cases h with
        | noQueries hqueries => rw [hqueries] at hempty; contradiction
        | query hqueries hbefore hnodup hoffends =>
            exact ⟨_, _, _, hqueries, ⟨hbefore, hnodup⟩, hoffends⟩

/-- Just the acceptable lists of queries make a batch. -/
theorem exists_ofQueries_iff {queries : List Query} :
    (∃ batch, ofQueries queries = .ok batch) ↔ Acceptable queries := by
  constructor
  · rintro ⟨batch, h⟩
    obtain ⟨hwellFormed, hnodup⟩ :=
      exists_payloadFrom_nil_iff.mp ⟨_, (payloadFrom_of_ofQueries h).1⟩
    refine ⟨?_, hwellFormed, hnodup⟩
    rintro rfl
    contradiction
  · rintro ⟨hnonempty, hwellFormed, hnodup⟩
    obtain ⟨payload, hpayload⟩ := exists_payloadFrom_nil_iff.mpr ⟨hwellFormed, hnodup⟩
    exact ⟨⟨queries, payload⟩, by simp [ofQueries, hnonempty, hpayload, Except.map]⟩

/-- **A list of queries makes a batch exactly if it is acceptable**: there is a
query, no two have the same id, and each has a usable id, an object for its body
and, if it asks for suggestions, options that make sense.  The batch holds the
same queries in the same order.  Any other list is refused as invalid, for the
first fault of its first query that has one. -/
theorem ofQueries_iff_acceptable (queries : List Query) :
    ((∃ batch, ofQueries queries = .ok batch) ↔ Acceptable queries) ∧
      (∀ batch, ofQueries queries = .ok batch → batch.queries = queries) ∧
      ∀ error, (ofQueries queries).mapError RequestFault.error = .error error ↔
        ∃ fault, FirstFault queries fault ∧ error = .validation fault.reason := by
  refine ⟨exists_ofQueries_iff, fun batch => queries_of_ofQueries, fun error => ?_⟩
  rw [Except.mapError_eq_error]
  simp only [ofQueries_eq_error_iff]
  exact exists_congr fun fault => and_congr_right fun _ => eq_comm

/-- A search and a query for suggestions that makes sense. -/
def phoneQueries : List Query := [
  { id := "all", body := some (.object []) },
  { id := "names", kind := .suggestion, value := some (.string "iph"),
    dataField := some (.single "title"), body := some (.object []) }]

/-- Behind these, a query with the id of the first and no body, and one with a
blank id: it is the second use of the id that counts. -/
theorem ofQueries_iff_acceptable_phones :
    (∃ batch, ofQueries phoneQueries = .ok batch ∧ batch.queries = phoneQueries) ∧
      (ofQueries (phoneQueries ++ [{ id := "all" }, { id := " " }])).mapError RequestFault.error =
        .error (.validation "duplicate query id `all`") := by
  have hfirst : WellFormed phoneQueries[0] :=
    ⟨⟨by decide, by decide, by decide⟩, nofun, ⟨[], rfl⟩⟩
  have hsecond : WellFormed phoneQueries[1] :=
    ⟨⟨by decide, by decide, by decide⟩,
      fun _ => .inr (.inr ⟨⟨"iph", rfl⟩, by decide, by decide⟩), ⟨[], rfl⟩⟩
  have hwellFormed : ∀ q ∈ phoneQueries, WellFormed q :=
    List.forall_mem_cons.mpr ⟨hfirst, List.forall_mem_singleton.mpr hsecond⟩
  obtain ⟨hiff, hsame, -⟩ := ofQueries_iff_acceptable phoneQueries
  obtain ⟨batch, hbatch⟩ := hiff.mpr ⟨by decide, hwellFormed, by decide⟩
  refine ⟨⟨batch, hbatch, hsame batch hbatch⟩, ?_⟩
  exact ((ofQueries_iff_acceptable _).2.2 _).mpr ⟨.duplicateId "all",
    .query rfl hwellFormed (by decide)
      (.duplicateId ⟨by decide, by decide, by decide⟩ (by decide)), rfl⟩

end SearchRelay.Batch
