import SearchRelay.Proofs.Batch
import SearchRelay.Proofs.Envelope
import SearchRelay.Proofs.Hiding
import SearchRelay.Proofs.Rule
import SearchRelay.Proofs.Search

/-!
# SearchRelay.Proofs.Frame

What the rules leave alone in a whole search.

1. `kept_applyFrom` — a list of rules changes a result at `promoted`, and takes
   documents out of its hits and counts them, and does nothing else;
2. `find?_foldlM_applyTo_of_ne` — of the entries of an envelope only those of
   plain searches are changed;
3. `rulesFrame_of_run` — so a search that succeeds under some rules succeeds
   without rules as well, and the two envelopes differ at most in these places.
-/

namespace SearchRelay.Rule

open Json

/-! ## one result -/

/- What a rule may change is named once, field by field, so that the frame of a list of
rules follows by induction. -/

/-- An object of hits before and after rules: documents may be missing from the
list, and the total may be another one. -/
structure HitsKept (before after : Fields) : Prop where
  other : ∀ key, key ≠ "hits" → key ≠ "total" → after.find? key = before.find? key
  documents : after.find? "hits" = before.find? "hits" ∨
    ∃ documents kept, before.find? "hits" = some (.array documents) ∧
      after.find? "hits" = some (.array kept) ∧ kept.Sublist documents

/-- A result before and after rules: the value under `promoted` may be another
one, and its hits are kept but for what `HitsKept` allows. -/
structure Kept (before after : Fields) : Prop where
  other : ∀ key, key ≠ "promoted" → key ≠ "hits" → after.find? key = before.find? key
  hits : after.find? "hits" = before.find? "hits" ∨
    ∃ hits left, before.find? "hits" = some (.object hits) ∧
      after.find? "hits" = some (.object left) ∧ HitsKept hits left

/-- A result under no rule is kept. -/
theorem Kept.refl (fields : Fields) : Kept fields fields := ⟨fun _ _ _ => rfl, .inl rfl⟩

/-- Promoting a value keeps the rest of a result. -/
theorem kept_withPromoted (value : Option Json) {before after : Fields} (h : Kept before after) :
    Kept before (withPromoted value after) where
  other key hpromoted hhits :=
    (find?_withPromoted_of_ne value after hpromoted).trans (h.other key hpromoted hhits)
  hits := by
    rw [find?_withPromoted_of_ne value after (by decide)]
    exact h.hits

/-- Leaving hidden documents out keeps the other hits in their order, and counts them. -/
theorem hitsKept_counted {hits : Fields} {documents : List Json}
    (hlist : hits.find? "hits" = some (.array documents)) (ids : List String) :
    HitsKept hits (counted (unhidden ids documents) hits) where
  other _ hhits htotal := find?_counted_of_ne _ hits hhits htotal
  documents := .inr ⟨documents, unhidden ids documents, hlist, find?_counted_hits _ hits,
    List.filter_sublist⟩

/-- Hiding documents keeps the rest of a result. -/
theorem kept_withoutHidden {result hits : Fields} {documents : List Json}
    (h : hitsOf result = .ok (hits, documents)) (rules : List Rule) :
    Kept result (withoutHidden rules result) := by
  obtain ⟨hfound, hlist, -⟩ := hitsOf_eq_ok_iff.mp h
  by_cases hany : rules.any (·.hide.isSome)
  · rw [withoutHidden_of_any hany h]
    exact ⟨fun key _ hkey => Fields.find?_insert_of_ne hkey _ _,
      .inr ⟨hits, _, hfound, Fields.find?_insert_self _ _ _, hitsKept_counted hlist _⟩⟩
  · rw [withoutHidden_of_not hany]
    exact Kept.refl result

/-- A list of rules leaves the rest alone, whether it goes through or not. -/
theorem kept_applyFrom (rules : List Rule) (result : Fields) :
    Kept result (applyFrom result rules).1 := by
  cases hhits : hitsOf result with
  | error fault =>
      rw [applyFrom_of_fault hhits]
      exact kept_withPromoted _ (Kept.refl result)
  | ok found =>
      obtain ⟨hits, documents⟩ := found
      rw [applyFrom_of_hitsOf hhits]
      exact kept_withPromoted _ (kept_withoutHidden hhits rules)

/-- A value before and after rules; a value that is no object stays as it
is. -/
def Touched : Json → Json → Prop
  | .object before, .object after => Kept before after
  | before, after => after = before

theorem Touched.refl (value : Json) : Touched value value := by
  cases value with
  | object fields => exact Kept.refl fields
  | null | bool | number | string | array => rfl

/-- Rules that fail half way have changed no more than rules that succeed. -/
theorem touched_applyAll (rules : List Rule) (result : Json) :
    Touched result (applyAll rules result).1 := by
  cases result with
  | object fields => exact kept_applyFrom rules fields
  | null | bool | number | string | array => rfl

end SearchRelay.Rule

namespace SearchRelay.Search

open Json Rule

/-! ## the entries -/

/-- Entries of other keys than the ids of plain searches are left alone. -/
theorem find?_foldlM_applyTo_of_ne {rules : List Rule} {queries : List Query}
    {envelope out : Fields} (h : queries.foldlM (applyTo rules) envelope = .ok out) {key : String}
    (hkey : ∀ q ∈ queries, q.kind = .search → key ≠ q.id) :
    out.find? key = envelope.find? key := by
  induction queries generalizing envelope with
  | nil =>
      cases Except.pure_eq_ok.mp h
      rfl
  | cons q queries ih =>
      rw [List.foldlM_cons, Except.bind_eq_ok] at h
      obtain ⟨changed, hstep, h⟩ := h
      obtain ⟨hq, hqueries⟩ := List.forall_mem_cons.mp hkey
      rw [ih h hqueries]
      rcases applyTo_eq_ok_iff.mp hstep with ⟨hkind, _, after, _, _, rfl⟩ | ⟨_, rfl⟩
      · exact Fields.find?_insert_of_ne (hq hkind) _ _
      · rfl

/-- Two envelopes of the same search, without rules and with them. -/
structure RulesFrame (queries : List Query) (plain ruled : Fields) : Prop where
  keys : ∀ key, key ∈ ruled.keys ↔ key ∈ plain.keys
  settings : ruled.find? "settings" = plain.find? "settings"
  error : ruled.find? "error" = plain.find? "error"
  /-- The entries of other queries than plain searches are the same. -/
  other : ∀ q ∈ queries, q.kind ≠ .search → ruled.find? q.id = plain.find? q.id
  /-- The entries of plain searches have been touched by the rules only. -/
  entry : ∀ q ∈ queries, q.kind = .search → ∃ before after,
    plain.find? q.id = some before ∧ ruled.find? q.id = some after ∧ Touched before after

/-- Only the entries of plain searches are changed, each by the rules alone. -/
theorem entry_of_applyRules {rules : List Rule} {queries : List Query} {plain ruled : Fields}
    (hnodup : (queries.map Query.id).Nodup) (h : applyRules rules queries plain = .ok ruled) :
    (∀ key, (∀ q ∈ queries, q.kind = .search → key ≠ q.id) →
        ruled.find? key = plain.find? key) ∧
      ∀ q ∈ queries, q.kind = .search → ∀ before, plain.find? q.id = some before →
        ∃ after, ruled.find? q.id = some after ∧ Touched before after := by
  unfold applyRules at h
  split at h
  · cases h
    exact ⟨fun _ _ => rfl, fun q _ _ before hbefore => ⟨before, hbefore, Touched.refl before⟩⟩
  · refine ⟨fun key hkey => find?_foldlM_applyTo_of_ne h hkey, ?_⟩
    intro q hq hkind before hbefore
    obtain ⟨after, hafter, hfound⟩ := (find?_foldlM_applyTo hnodup h).2 q hq hkind before hbefore
    have htouched := touched_applyAll rules before
    rw [hafter] at htouched
    exact ⟨after, hfound, htouched⟩

/-- So the entries of queries that are no plain searches are left alone. -/
theorem find?_applyRules_of_kind_ne {rules : List Rule} {queries : List Query}
    {plain ruled : Fields} (hnodup : (queries.map Query.id).Nodup)
    (h : applyRules rules queries plain = .ok ruled) {q : Query} (hq : q ∈ queries)
    (hkind : q.kind ≠ .search) : ruled.find? q.id = plain.find? q.id := by
  refine (entry_of_applyRules hnodup h).1 q.id fun p hp hsearch heq => hkind ?_
  rw [List.inj_on_of_nodup_map hnodup hq hp heq]
  exact hsearch

/-- Every query of a batch has an entry. -/
theorem exists_find?_of_ofReply {common : Stopwords} {queries : List Query} {batch : Batch}
    {reply : Json} {entries : Fields} (hbatch : Batch.ofQueries queries = .ok batch)
    (hentries : Envelope.ofReply common batch reply = .ok entries) {q : Query} (hq : q ∈ queries) :
    ∃ before, entries.find? q.id = some before := by
  obtain ⟨top, items, _, _, _, hanswers⟩ := Envelope.ownAnswers_of_ofReply hbatch hentries
  have hid : q.id ∈ queries.map Query.id := List.mem_map_of_mem hq
  have hkey : q.id ∈ entries.keys := by
    rw [hanswers.keys.mem_iff, Envelope.expectedKeys]
    exact List.mem_cons_of_mem _ (List.mem_append_right _ hid)
  exact Option.isSome_iff_exists.mp ((Fields.mem_keys_iff entries q.id).mp hkey)

/-! ## the whole search -/

/-- Rules change an envelope within the frame. -/
theorem rulesFrame_of_applyRules {rules : List Rule} {queries : List Query} {plain ruled : Fields}
    (hnodup : (queries.map Query.id).Nodup)
    (hfree : ∀ id ∈ queries.map Query.id, id ≠ "settings" ∧ id ≠ "error")
    (hplain : ∀ q ∈ queries, ∃ before, plain.find? q.id = some before)
    (h : applyRules rules queries plain = .ok ruled) : RulesFrame queries plain ruled := by
  obtain ⟨hothers, hentries⟩ := entry_of_applyRules hnodup h
  have hids : ∀ q ∈ queries, q.id ∈ queries.map Query.id := fun q hq => List.mem_map_of_mem hq
  have hentry : ∀ q ∈ queries, q.kind = .search → ∃ before after,
      plain.find? q.id = some before ∧ ruled.find? q.id = some after ∧ Touched before after := by
    intro q hq hkind
    obtain ⟨before, hbefore⟩ := hplain q hq
    obtain ⟨after, hafter, htouched⟩ := hentries q hq hkind before hbefore
    exact ⟨before, after, hbefore, hafter, htouched⟩
  constructor
  case keys =>
    intro key
    rw [Fields.mem_keys_iff, Fields.mem_keys_iff]
    by_cases hkey : ∃ q ∈ queries, q.kind = .search ∧ key = q.id
    · obtain ⟨q, hq, hkind, rfl⟩ := hkey
      obtain ⟨before, after, hbefore, hafter, _⟩ := hentry q hq hkind
      rw [hbefore, hafter]
      exact iff_of_true rfl rfl
    · rw [hothers key fun q hq hkind heq => hkey ⟨q, hq, hkind, heq⟩]
  case settings => exact hothers _ fun q hq _ heq => (hfree q.id (hids q hq)).1 heq.symm
  case error => exact hothers _ fun q hq _ heq => (hfree q.id (hids q hq)).2 heq.symm
  case other => exact fun q hq hkind => find?_applyRules_of_kind_ne hnodup h hq hkind
  case entry => exact hentry

/-- **The frame of the rules**: a search that gives a text gives one without
rules as well.  The envelopes behind the two texts have the same keys and
differ in the entries of plain searches only, and there only in the promoted
value, in the total, and in documents that are missing under the rules. -/
theorem rulesFrame_of_run {service : Service} {pauses : Nat → Nat} {script : Backend.Script}
    {rules : Option String → Except Error (List Rule)} {queries : List Query} {text : String}
    (h : (run service pauses script rules queries).result = .ok text) :
    ∃ batch found reply plain ruled, Batch.ofQueries queries = .ok batch ∧
      rules batch.indices.head? = .ok found ∧
      (service.backend.exchange pauses script batch).result = .ok reply ∧
      envelopeOf service.common service.aliases found batch reply = .ok ruled ∧
      (Json.object ruled).compact = text ∧
      envelopeOf service.common service.aliases [] batch reply = .ok plain ∧
      (run service pauses script (fun _ => .ok []) queries).result =
        .ok (Json.object plain).compact ∧
      RulesFrame queries plain ruled := by
  obtain ⟨batch, found, reply, ruled, hbatch, hfound, hreply, hruled, rfl⟩ := run_eq_ok.mp h
  obtain ⟨entries, plain, hentries, hplain, hrules⟩ := envelopeOf_eq_ok.mp hruled
  have hwithout : envelopeOf service.common service.aliases [] batch reply = .ok plain :=
    envelopeOf_eq_ok.mpr ⟨entries, plain, hentries, hplain, rfl⟩
  refine ⟨batch, found, reply, plain, ruled, hbatch, hfound, hreply, hruled, rfl, hwithout,
    run_eq_ok.mpr ⟨batch, [], reply, plain, hbatch, rfl, hreply, hwithout, rfl⟩, ?_⟩
  have hnodup := Batch.nodup_queries hbatch
  have hfree : ∀ id ∈ batch.ids, id ≠ "settings" ∧ id ≠ "error" :=
    fun _ hid => Batch.not_mem_reservedIds hbatch hid
  rw [Batch.ids, Batch.queries_of_ofQueries hbatch] at hfree
  rw [Batch.queries_of_ofQueries hbatch] at hrules
  refine rulesFrame_of_applyRules hnodup hfree (fun q hq => ?_) hrules
  obtain ⟨entry, hentry⟩ := exists_find?_of_ofReply hbatch hentries hq
  obtain ⟨before, _, hbefore⟩ := renamedEntry_of_translateEntries hplain hentry
  exact ⟨before, hbefore⟩

/-! ### phones, one of them hidden -/

/-- A plain search, and a query for suggestions in the same index. -/
def phonesAndTitles : List Query := [
  { id := "phones", index := some "products", body := some (.object []) },
  { id := "titles", kind := .suggestion, index := some "products", body := some (.object []) }]

/-- The search for them under rules, if the backend has two documents. -/
def phonesUnder (rules : List Rule) : Outcome :=
  run catalogService (fun _ => 0)
    (fun _ => .complete 200 (Alias.utf8 (Json.object [("responses", .array [
      resultOf [documentOf "42", documentOf "43"],
      resultOf [documentOf "42", documentOf "43"]])]).compact))
    (fun _ => .ok rules) phonesAndTitles

/-- A rule that promotes a value, and one that hides a document. -/
def showAndHide : List Rule := [{ promote := some (.bool true) }, { hide := some ["42"] }]

/-- A value is promoted and a document hidden in one entry of two. -/
theorem rulesFrame_of_run_phones :
    ∃ (text : String) (plain ruled : Fields), (phonesUnder showAndHide).result = .ok text ∧
      (Json.object ruled).compact = text ∧
      (phonesUnder []).result = .ok (Json.object plain).compact ∧
      RulesFrame phonesAndTitles plain ruled := by
  cases h : (phonesUnder showAndHide).result with
  | error e =>
      have hok : (phonesUnder showAndHide).result.isOk = true := by decide +kernel
      rw [h] at hok
      cases hok
  | ok text =>
      obtain ⟨_, _, _, plain, ruled, _, _, _, _, htext, _, hplain, hframe⟩ := rulesFrame_of_run h
      exact ⟨text, plain, ruled, rfl, htext, hplain, hframe⟩

end SearchRelay.Search
