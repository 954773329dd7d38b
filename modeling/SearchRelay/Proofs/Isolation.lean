import SearchRelay.Proofs.Frame
import SearchRelay.Proofs.Json.Object
import SearchRelay.Proofs.Translation

/-!
# SearchRelay.Proofs.Isolation

Whether a failure of the backend at one query stays its own.

The backend may answer a query with a failure, or with a list of hits.  If it
answers every query of a batch in one of these ways (`Itemized`), there is an
envelope (`exists_ofReply`), and the failures stand in it as they are.  What
may still end the search comes later:

1. `exists_translateEntries_iff` — names can be replaced if and only if every
   entry is still JSON afterwards;
2. `exists_applyRules_iff` — the rules go through if and only if none of them
   hides, or the entry of every plain search has a list of documents;
3. `run_ok_iff_of_items` — so a search of which one query has failed succeeds
   if and only if its names can be replaced and no plain search has failed
   under a rule that hides.
-/

namespace SearchRelay.Envelope

open Json

/-- A response that tells of a failure at its query only. -/
def Failed (response : Json) : Prop := ∃ fields, response = .object fields ∧ isFailure fields = true

/-- A response with a list of hits that can be read. -/
def Answered (response : Json) : Prop :=
  ∃ documents, Rule.documents? response = some documents ∧
    ∀ d ∈ documents, (∃ fields, d = .object fields) ∧ ∃ hit, decodeAs Hit.decode d = .ok hit

/-- A reply with one response for each query, all of them failures or
answers. -/
structure Itemized (queries : List Query) (reply : Fields) (items : List Json) : Prop where
  responses : reply.find? "responses" = some (.array items)
  length : items.length = queries.length
  item : ∀ response ∈ items, Failed response ∨ Answered response

theorem Answered.listed {response : Json} (h : Answered response) : Rule.Listed response := by
  obtain ⟨documents, hdocuments, hhits⟩ := h
  exact ⟨documents, hdocuments, fun d hd => (hhits d hd).1⟩

/-- A failure holds no documents. -/
theorem documents?_of_failed {response : Json} (h : Failed response) :
    Rule.documents? response = none := by
  obtain ⟨fields, rfl, hfailure⟩ := h
  have hhits : Fields.find? fields "hits" = none := by
    simpa [isFailure, Fields.has] using ((isFailure_iff fields).mp hfailure).2
  simp [Rule.documents?, Rule.hitsFields?, object?, hhits]

/-- So rules that hide find no list in it. -/
theorem Failed.not_listed {response : Json} (h : Failed response) : ¬ Rule.Listed response := by
  rintro ⟨documents, hdocuments, _⟩
  rw [documents?_of_failed h] at hdocuments
  contradiction

/-! ## the entries -/

/- A failed query leaves its response as it is, and an answered one has the shape that
suggestions are made from; neither is a fault of the reply. So the envelope is there in
any case, and what may still go wrong comes later. -/

/-- A failure is the entry of its query, whatever the query asks for. -/
theorem entry_of_failed {common : Stopwords} {q : Query} {response : Json} (h : Failed response) :
    entry common q response = .ok response := by
  obtain ⟨fields, rfl, hfailure⟩ := h
  by_cases hkind : q.kind = .suggestion
  · rw [entry, if_pos hkind, suggestionResult, if_pos hfailure]
    rfl
  · rw [entry, if_neg hkind]

/-- An answer makes an entry of a query whose options are without fault. -/
theorem exists_entry_of_answered {common : Stopwords} {q : Query} {response : Json}
    (hoptions : q.kind = .suggestion → ∀ fault, q.suggestionOptions ≠ .error fault)
    (h : Answered response) : ∃ e, entry common q response = .ok e := by
  obtain ⟨documents, hdocuments, hhits⟩ := h
  obtain ⟨fields, hits, rfl, hfound, hlist⟩ := Rule.documents?_eq_some hdocuments
  by_cases hkind : q.kind = .suggestion
  · have hsuggestions : ∃ suggestions, suggestionsFor common q documents = .ok suggestions := by
      cases hq : q.suggestionOptions with
      | error fault => exact absurd hq (hoptions hkind fault)
      | ok options =>
          cases options with
          | none => exact ⟨[], by rw [suggestionsFor, hq]⟩
          | some options =>
              obtain ⟨read, hread⟩ :=
                Except.exists_mapM_eq_ok_iff.mpr fun d hd => (hhits d hd).2
              exact ⟨_, by rw [suggestionsFor, hq]; simp only [hread]; rfl⟩
    obtain ⟨suggestions, hsuggestions⟩ := hsuggestions
    have hnot : ¬ isFailure fields = true := by simp [isFailure, Fields.has, hfound]
    rw [entry, if_pos hkind, suggestionResult, if_neg hnot]
    simp only [hfound, hlist, hsuggestions]
    exact ⟨_, rfl⟩
  · exact ⟨.object fields, by rw [entry, if_neg hkind]⟩

variable {common : Stopwords} {queries : List Query} {batch : Batch} {reply : Fields}
  {items : List Json}

/-- A reply of failures and answers makes an envelope. -/
theorem exists_ofReply (hbatch : Batch.ofQueries queries = .ok batch)
    (h : Itemized queries reply items) :
    ∃ entries, ofReply common batch (.object reply) = .ok entries := by
  have hqueries := Batch.queries_of_ofQueries hbatch
  have hentries : ∀ pair ∈ batch.queries.zip items,
      ∃ e, entry common pair.1 pair.2 = .ok e := by
    intro pair hpair
    obtain ⟨hq, hresponse⟩ := List.of_mem_zip hpair
    rcases h.item pair.2 hresponse with hfailed | hanswered
    · exact ⟨_, entry_of_failed hfailed⟩
    · exact exists_entry_of_answered
        (fun hkind => Batch.suggestionOptions_ne_error hbatch hq hkind) hanswered
  obtain ⟨entries, hadd⟩ := exists_addEntries hentries (frame reply)
  exact ⟨entries, ofReply_of_addEntries h.responses (by rw [hqueries, h.length]) hadd⟩

/-- A response that is not read for suggestions is the entry of its query. -/
theorem find?_of_ofReply (hbatch : Batch.ofQueries queries = .ok batch)
    (hitems : reply.find? "responses" = some (.array items)) {entries : Fields}
    (hentries : ofReply common batch (.object reply) = .ok entries) {i : Nat} {q : Query}
    {response : Json} (hq : queries[i]? = some q) (hresponse : items[i]? = some response)
    (hraw : q.kind ≠ .suggestion ∨ Failed response) : entries.find? q.id = some response := by
  obtain ⟨top, found, htop, hfound, _, hanswers⟩ := ownAnswers_of_ofReply hbatch hentries
  cases htop
  rw [hitems] at hfound
  cases hfound
  obtain ⟨fields, changed, rfl, hentry, hchanged⟩ := hanswers.entry i q response hq hresponse
  rw [EntryOf, if_pos] at hchanged
  · rw [hentry, hchanged]
  · refine hraw.imp_right ?_
    rintro ⟨_, hfields, hfailure⟩
    cases hfields
    exact (isFailure_iff fields).mp hfailure

end SearchRelay.Envelope

namespace SearchRelay.Search

open Json Rule Alias Envelope Text.Utf8

/-! ## the names -/

/- Names are replaced in the text of an entry, which is parsed afterwards. A replacement
that brings a quotation mark with it may leave a text that is no JSON. -/

/-- Every entry is still JSON when names are replaced in its text. -/
def Renamable (subs : List (Substitution UInt8)) (entries : Fields) : Prop :=
  ∀ key before, entries.find? key = some before → ∃ after, RenamedEntry subs key before after

/-- Names are replaced in an envelope if they are in every entry of it. -/
theorem exists_translateEntries_iff {subs : List (Substitution UInt8)} {entries : Fields}
    (hsorted : entries.Sorted) :
    (∃ out, translateEntries subs entries = .ok out) ↔ Renamable subs entries := by
  by_cases hempty : subs.isEmpty
  · simp [translateEntries, Renamable, RenamedEntry, hempty]
  · simp only [translateEntries, Renamable, RenamedEntry, if_neg hempty,
      Except.exists_mapM_eq_ok_iff]
    constructor
    · intro h key before hbefore
      obtain ⟨⟨key', after⟩, hafter⟩ := h (key, before) (Fields.mem_of_find? hbefore)
      have hkey : key' = key := translateEntry_key hafter
      exact ⟨after, hkey ▸ hafter⟩
    · rintro h ⟨key, before⟩ hmem
      obtain ⟨after, hafter⟩ := h key before (Fields.find?_of_mem hsorted hmem)
      exact ⟨_, hafter⟩

/-- Replacing names in an entry has one outcome. -/
theorem renamedEntry_unique {subs : List (Substitution UInt8)} {key : String}
    {before after other : Json} (h : RenamedEntry subs key before after)
    (h' : RenamedEntry subs key before other) : after = other := by
  unfold RenamedEntry at h h'
  by_cases hempty : subs.isEmpty
  · rw [if_pos hempty] at h h'
    exact h.trans h'.symm
  · rw [if_neg hempty] at h h'
    have hpair := Except.ok.inj (h.symm.trans h')
    exact congrArg Prod.snd hpair

/-- An object is still one when names are replaced in its text, since no name
begins where the object does. -/
theorem object_of_renamedEntry {names : List String} {t : Alias.Table} {key : String}
    {fields : Fields} {after : Json}
    (h : RenamedEntry (plan names t) key (.object fields) after) :
    ∃ changed, after = .object changed := by
  unfold RenamedEntry at h
  split at h
  · exact ⟨fields, h⟩
  · unfold translateEntry at h
    split at h
    · next value hvalue =>
      cases h
      obtain ⟨rest, hrest⟩ : ∃ rest, (Json.object fields).text = '{' :: rest := by
        cases fields <;> exact ⟨_, rfl⟩
      dsimp only at hvalue
      rw [plan_eq_map_renamings, translate_utf8, compact, String.toList_ofList, hrest,
        translateFrom_cons (longest?_of_head_ne rest (by decide)), parseBytes?_eq_bind,
        documentOf?, fromUTF8?_encode, Option.bind_some] at hvalue
      obtain ⟨d, hd, hvalue⟩ := Option.bind_eq_some_iff.mp hvalue
      obtain ⟨inner, rfl⟩ := Document.object_of_parse? hd
      exact Document.object_of_value? hvalue
    · contradiction

/-- Names are replaced in the entries as they should be: every string that is a
name becomes another one, and the key of the hits stays what it is. -/
def Faithful (subs : List (Substitution UInt8)) (entries : Fields) : Prop :=
  ∃ f, Spares f "hits" ∧ ∀ key before, entries.find? key = some before →
    ∃ after, RenamedEntry subs key before after ∧ (after = before ∨ after = before.mapTexts f)

/-- Entries whose names are replaced faithfully can be renamed. -/
theorem Faithful.renamable {subs : List (Substitution UInt8)} {entries : Fields}
    (h : Faithful subs entries) : Renamable subs entries := by
  obtain ⟨f, -, hentries⟩ := h
  intro key before hbefore
  obtain ⟨after, hafter, -⟩ := hentries key before hbefore
  exact ⟨after, hafter⟩

/-- Without substitutions nothing is changed. -/
theorem faithful_of_isEmpty {subs : List (Substitution UInt8)} (h : subs.isEmpty = true)
    (entries : Fields) : Faithful subs entries :=
  ⟨id, fun _ => Iff.rfl, fun _ before _ => ⟨before, by rw [RenamedEntry, if_pos h], .inl rfl⟩⟩

/-- A list of documents stays one where strings are replaced. -/
theorem listed_mapTexts {f : String → String} (hkey : Spares f "hits") {result : Json}
    (h : result.Ordered) : Listed (result.mapTexts f) ↔ Listed result := by
  have hobject : ∀ d : Json, (∃ fields, d.mapTexts f = .object fields) ↔
      ∃ fields, d = .object fields := by
    intro d
    cases d with
    | object fields => exact iff_of_true ⟨_, rfl⟩ ⟨_, rfl⟩
    | null | bool | number | string | array => simp [mapTexts]
  rw [Listed, Listed, documents?_mapTexts hkey h]
  constructor
  · rintro ⟨renamed, hrenamed, hobjects⟩
    obtain ⟨documents, hdocuments, rfl⟩ := Option.map_eq_some_iff.mp hrenamed
    exact ⟨documents, hdocuments, fun d hd =>
      (hobject d).mp (hobjects _ (List.mem_map_of_mem hd))⟩
  · rintro ⟨documents, hdocuments, hobjects⟩
    refine ⟨_, by rw [hdocuments]; rfl, fun d hd => ?_⟩
    obtain ⟨d, hmem, rfl⟩ := List.mem_map.mp hd
    exact (hobject d).mpr (hobjects d hmem)

/-! ## the rules -/

/-- Nothing but the entry of a plain search can stop the rules at a query. -/
theorem exists_applyTo {rules : List Rule} {envelope : Fields} {q : Query}
    (h : q.kind = .search → ∀ before, envelope.find? q.id = some before →
      (applyAll rules before).2 = none) :
    ∃ next, applyTo rules envelope q = .ok next := by
  by_cases hentry : q.kind = .search ∧ ∃ before, envelope.find? q.id = some before
  · obtain ⟨hkind, before, hbefore⟩ := hentry
    exact ⟨_, applyTo_eq_ok_iff.mpr (.inl ⟨hkind, before, (applyAll rules before).1, hbefore,
      Prod.ext rfl (h hkind before hbefore), rfl⟩)⟩
  · refine ⟨envelope, applyTo_eq_ok_iff.mpr (.inr ⟨?_, rfl⟩)⟩
    rw [Option.eq_none_iff_forall_ne_some]
    by_cases hkind : q.kind = .search
    · exact .inr fun before hbefore => hentry ⟨hkind, before, hbefore⟩
    · exact .inl hkind

/-- Rules that go through every entry by itself go through the whole envelope,
since what they do at one query leaves the entries of the others. -/
theorem exists_foldlM_applyTo {rules : List Rule} {queries : List Query} {envelope : Fields}
    (hnodup : (queries.map Query.id).Nodup)
    (h : ∀ q ∈ queries, q.kind = .search → ∀ before, envelope.find? q.id = some before →
      (applyAll rules before).2 = none) :
    ∃ out, queries.foldlM (applyTo rules) envelope = .ok out := by
  induction queries generalizing envelope with
  | nil => exact ⟨envelope, rfl⟩
  | cons q queries ih =>
      obtain ⟨hq, hqueries⟩ := List.forall_mem_cons.mp h
      rw [List.map_cons] at hnodup
      obtain ⟨hid, hnodup⟩ := List.nodup_cons.mp hnodup
      obtain ⟨next, hnext⟩ := exists_applyTo hq
      -- the entries of the other queries are still what they were
      have hrest : ∀ p ∈ queries, p.kind = .search → ∀ before,
          next.find? p.id = some before → (applyAll rules before).2 = none := by
        intro p hp hkind before hbefore
        have hne : p.id ≠ q.id := fun heq => hid (heq ▸ List.mem_map_of_mem hp)
        rw [(find?_applyTo hnext).1 p.id hne] at hbefore
        exact hqueries p hp hkind before hbefore
      obtain ⟨out, hout⟩ := ih hnodup hrest
      exact ⟨out, by rw [List.foldlM_cons, Except.bind_eq_ok]; exact ⟨next, hnext, hout⟩⟩

/-- The rules go through if and only if they go through the entry of every
plain search. -/
theorem exists_applyRules_iff {rules : List Rule} {queries : List Query} {envelope : Fields}
    (hnodup : (queries.map Query.id).Nodup) :
    (∃ out, applyRules rules queries envelope = .ok out) ↔
      (rules ≠ [] → ∀ q ∈ queries, q.kind = .search → ∀ before,
        envelope.find? q.id = some before → (applyAll rules before).2 = none) := by
  by_cases hrules : rules = []
  · simp [applyRules, hrules]
  rw [applyRules, if_neg (by simpa using hrules), forall_prop_of_true hrules]
  constructor
  · rintro ⟨out, hout⟩ q hq hkind before hbefore
    obtain ⟨after, hafter, -⟩ := (find?_foldlM_applyTo hnodup hout).2 q hq hkind before hbefore
    rw [hafter]
  · exact exists_foldlM_applyTo hnodup

/-! ## the envelope for the client -/

/-- Where a rule hides, every plain search has a list of documents, with names
replaced in it. -/
def ListedWhereHidden (subs : List (Substitution UInt8)) (rules : List Rule)
    (queries : List Query) (entries : Fields) : Prop :=
  rules.any (·.hide.isSome) → ∀ q ∈ queries, q.kind = .search → ∀ before after,
    entries.find? q.id = some before → RenamedEntry subs q.id before after → Listed after

/-- Where a rule hides, no plain search has failed. -/
def NoneFailedWhereHidden (rules : List Rule) (queries : List Query) (items : List Json) : Prop :=
  rules.any (·.hide.isSome) → ∀ (i : Nat) (q : Query) (response : Json),
    queries[i]? = some q → items[i]? = some response → q.kind = .search → ¬ Failed response

/-- The failures of a reply stand in the envelope under the ids of their
queries, with names replaced.  Rules may have touched those of plain
searches. -/
def FailuresDelivered (subs : List (Substitution UInt8)) (queries : List Query)
    (items : List Json) (envelope : Fields) : Prop :=
  ∀ (i : Nat) (q : Query) (response : Json), queries[i]? = some q →
    items[i]? = some response → Failed response →
    ∃ renamed final, RenamedEntry subs q.id response renamed ∧
      envelope.find? q.id = some final ∧ (q.kind ≠ .search → final = renamed) ∧
      Touched renamed final

section

variable {common : Stopwords} {aliases : Alias.Table} {rules : List Rule} {queries : List Query}
  {batch : Batch} {reply : Fields} {items : List Json} {entries : Fields}
  (hbatch : Batch.ofQueries queries = .ok batch) (hitems : Itemized queries reply items)
  (hentries : ofReply common batch (.object reply) = .ok entries)

include hbatch hitems hentries

/-- The entry of a plain search is the response of its place. -/
theorem exists_response_of_search {q : Query} (hq : q ∈ queries) (hkind : q.kind = .search) :
    ∃ (i : Nat) (response : Json), queries[i]? = some q ∧ items[i]? = some response ∧
      entries.find? q.id = some response := by
  obtain ⟨i, hi, hget⟩ := List.getElem_of_mem hq
  have hplace : queries[i]? = some q := by rw [List.getElem?_eq_getElem hi, hget]
  have hresponse := List.getElem?_eq_getElem (hitems.length ▸ hi : i < items.length)
  exact ⟨i, _, hplace, hresponse, find?_of_ofReply hbatch hitems.responses hentries hplace
    hresponse (.inl (by rw [hkind]; decide))⟩

/-- The entry of a plain search is an object, and is one when names are
replaced in it. -/
theorem object_of_renamed_search {names : List String} {q : Query} (hq : q ∈ queries)
    (hkind : q.kind = .search) {before after : Json} (hbefore : entries.find? q.id = some before)
    (h : RenamedEntry (plan names aliases) q.id before after) :
    ∃ fields, after = .object fields := by
  obtain ⟨i, response, -, hresponse, hfound⟩ :=
    exists_response_of_search hbatch hitems hentries hq hkind
  rw [hbefore] at hfound
  cases hfound
  rcases hitems.item before (List.mem_of_getElem? hresponse) with hfailed | hanswered
  · obtain ⟨fields, rfl, -⟩ := hfailed
    exact object_of_renamedEntry h
  · obtain ⟨documents, hdocuments, -⟩ := hanswered
    obtain ⟨fields, _, rfl, -⟩ := documents?_eq_some hdocuments
    exact object_of_renamedEntry h

/-- A reply of failures and answers makes an envelope for the client if and
only if names can be replaced, and rules that hide find lists to do so. -/
theorem exists_envelopeOf_iff :
    (∃ envelope, envelopeOf common aliases rules batch reply = .ok envelope) ↔
      Renamable (plan batch.indices aliases) entries ∧
        ListedWhereHidden (plan batch.indices aliases) rules queries entries := by
  have hqueries := Batch.queries_of_ofQueries hbatch
  have hnodup := Batch.nodup_queries hbatch
  rw [← exists_translateEntries_iff (sorted_of_ofReply hentries)]
  constructor
  · rintro ⟨envelope, henvelope⟩
    obtain ⟨_, out, hsame, hout, hrules⟩ := envelopeOf_eq_ok.mp henvelope
    cases hentries.symm.trans hsame
    rw [hqueries] at hrules
    refine ⟨⟨out, hout⟩, fun hhides q hq hkind before after hbefore hafter => ?_⟩
    obtain ⟨other, hother, hfound⟩ := renamedEntry_of_translateEntries hout hbefore
    cases renamedEntry_unique hafter hother
    have hne : rules ≠ [] := by
      rintro rfl
      simp at hhides
    have hthrough :=
      (exists_applyRules_iff hnodup).mp ⟨envelope, hrules⟩ hne q hq hkind after hfound
    exact (applyAll_eq_none_iff.mp hthrough).2 hhides
  · rintro ⟨⟨out, hout⟩, hlisted⟩
    have hthrough : ∀ q ∈ queries, q.kind = .search → ∀ after, out.find? q.id = some after →
        (applyAll rules after).2 = none := by
      intro q hq hkind after hafter
      obtain ⟨_, before, -, -, hbefore⟩ :=
        exists_response_of_search hbatch hitems hentries hq hkind
      obtain ⟨other, hother, hfound⟩ := renamedEntry_of_translateEntries hout hbefore
      rw [hafter] at hfound
      cases hfound
      exact applyAll_eq_none_iff.mpr
        ⟨object_of_renamed_search hbatch hitems hentries hq hkind hbefore hother,
          fun hhides => hlisted hhides q hq hkind before after hbefore hother⟩
    obtain ⟨envelope, hrules⟩ := (exists_applyRules_iff hnodup).mpr fun _ => hthrough
    exact ⟨envelope, envelopeOf_eq_ok.mpr ⟨entries, out, hentries, hout, hqueries ▸ hrules⟩⟩

/-- Names that are replaced as they should be leave lists of documents where
they are, so only failures are in the way of rules that hide. -/
theorem listedWhereHidden_iff {names : List String}
    (hordered : ∀ response ∈ items, response.Ordered)
    (hfaithful : Faithful (plan names aliases) entries) :
    ListedWhereHidden (plan names aliases) rules queries entries ↔
      NoneFailedWhereHidden rules queries items := by
  obtain ⟨f, hspares, hrenames⟩ := hfaithful
  have hlisted : ∀ key before after, before.Ordered → entries.find? key = some before →
      RenamedEntry (plan names aliases) key before after → (Listed after ↔ Listed before) := by
    intro key before after hbefore hfound hafter
    obtain ⟨other, hother, hwhich⟩ := hrenames key before hfound
    cases renamedEntry_unique hafter hother
    rcases hwhich with rfl | rfl
    · exact Iff.rfl
    · exact listed_mapTexts hspares hbefore
  constructor
  · intro h hhides i q response hq hresponse hkind hfailed
    have hmem := List.mem_of_getElem? hresponse
    have hfound := find?_of_ofReply hbatch hitems.responses hentries hq hresponse (.inr hfailed)
    obtain ⟨after, hafter, -⟩ := hrenames q.id response hfound
    exact hfailed.not_listed ((hlisted q.id response after (hordered _ hmem) hfound hafter).mp
      (h hhides q (List.mem_of_getElem? hq) hkind response after hfound hafter))
  · intro h hhides q hq hkind before after hbefore hafter
    obtain ⟨i, response, hplace, hresponse, hfound⟩ :=
      exists_response_of_search hbatch hitems hentries hq hkind
    rw [hbefore] at hfound
    cases hfound
    have hmem := List.mem_of_getElem? hresponse
    refine (hlisted q.id before after (hordered _ hmem) hbefore hafter).mpr ?_
    exact ((hitems.item before hmem).resolve_left
      (h hhides i q before hplace hresponse hkind)).listed

/-- An envelope for the client has the failures of the reply in it. -/
theorem failuresDelivered_of_envelopeOf {envelope : Fields}
    (h : envelopeOf common aliases rules batch reply = .ok envelope) :
    FailuresDelivered (plan batch.indices aliases) queries items envelope := by
  obtain ⟨_, out, hsame, hout, hrules⟩ := envelopeOf_eq_ok.mp h
  cases hentries.symm.trans hsame
  have hnodup := Batch.nodup_queries hbatch
  rw [Batch.queries_of_ofQueries hbatch] at hrules
  intro i q response hq hresponse hfailed
  have hmem := List.mem_of_getElem? hq
  have hfound := find?_of_ofReply hbatch hitems.responses hentries hq hresponse (.inr hfailed)
  obtain ⟨renamed, hrenamed, hplain⟩ := renamedEntry_of_translateEntries hout hfound
  by_cases hkind : q.kind = .search
  · obtain ⟨final, hfinal, htouched⟩ :=
      (entry_of_applyRules hnodup hrules).2 q hmem hkind renamed hplain
    exact ⟨renamed, final, hrenamed, hfinal, fun hnot => absurd hkind hnot, htouched⟩
  · have hsame := find?_applyRules_of_kind_ne hnodup hrules hmem hkind
    exact ⟨renamed, renamed, hrenamed, hsame.trans hplain, fun _ => rfl, Touched.refl renamed⟩

end

/-! ## the whole search -/

/-- **Failures of single queries**: if the backend answers every query with a
failure or with a list of hits, the search gives a text if and only if names
can be replaced in the entries and every rule that hides finds the lists to do
so.  Where the names are replaced as they should be, the latter means that no
plain search has failed under a rule that hides.  A text has every failure
under the id of its query. -/
theorem run_ok_iff_of_items {service : Service} {pauses : Nat → Nat} {script : Backend.Script}
    {rules : Option String → Except Error (List Rule)} {queries : List Query} {batch : Batch}
    {found : List Rule} {reply : Fields} {items : List Json}
    (hbatch : Batch.ofQueries queries = .ok batch)
    (hfound : rules batch.indices.head? = .ok found)
    (hreply : (service.backend.exchange pauses script batch).result = .ok reply)
    (hitems : Itemized queries reply items) :
    ∃ entries, ofReply service.common batch (.object reply) = .ok entries ∧
      ((∃ text, (run service pauses script rules queries).result = .ok text) ↔
        Renamable (plan batch.indices service.aliases) entries ∧
          ListedWhereHidden (plan batch.indices service.aliases) found queries entries) ∧
      (Faithful (plan batch.indices service.aliases) entries →
        ((∃ text, (run service pauses script rules queries).result = .ok text) ↔
          NoneFailedWhereHidden found queries items)) ∧
      ∀ text, (run service pauses script rules queries).result = .ok text →
        ∃ envelope, (Json.object envelope).compact = text ∧
          FailuresDelivered (plan batch.indices service.aliases) queries items envelope := by
  obtain ⟨entries, hentries⟩ :
      ∃ entries, ofReply service.common batch (.object reply) = .ok entries :=
    exists_ofReply hbatch hitems
  have hok : (∃ text, (run service pauses script rules queries).result = .ok text) ↔
      Renamable (plan batch.indices service.aliases) entries ∧
        ListedWhereHidden (plan batch.indices service.aliases) found queries entries := by
    rw [← exists_envelopeOf_iff hbatch hitems hentries]
    constructor
    · rintro ⟨text, htext⟩
      obtain ⟨envelope, henvelope, -⟩ := (run_eq_ok_of_reply hbatch hfound hreply).mp htext
      exact ⟨envelope, henvelope⟩
    · rintro ⟨envelope, henvelope⟩
      exact ⟨_, (run_eq_ok_of_reply hbatch hfound hreply).mpr ⟨envelope, henvelope, rfl⟩⟩
  obtain ⟨bytes, hbytes⟩ := Backend.parseBytes?_of_exchange hreply
  have hordered : ∀ response ∈ items, response.Ordered := fun response hmem =>
    ((ordered_of_parseBytes? hbytes).field hitems.responses).item hmem
  refine ⟨entries, hentries, hok, fun hfaithful => ?_, fun text htext => ?_⟩
  · rw [hok, and_iff_right hfaithful.renamable,
      listedWhereHidden_iff hbatch hitems hentries hordered hfaithful]
  · obtain ⟨envelope, henvelope, rfl⟩ := (run_eq_ok_of_reply hbatch hfound hreply).mp htext
    exact ⟨envelope, rfl, failuresDelivered_of_envelopeOf hbatch hitems hentries henvelope⟩

/-! ### a query that fails -/

/-- What a backend answers a query for an index that it does not have. -/
def notFound : Json := .object [
  ("error", .object [("type", .string "index_not_found_exception")]), ("status", .ofNat 404)]

/-- The answer of a backend that has found one document. -/
def phoneFound : Json := resultOf [documentOf "42"]

def replying (items : List Json) : Fields := [("responses", .array items)]

/-- A backend that gives that reply. -/
def repliesWith (items : List Json) : Backend.Script :=
  fun _ => .complete 200 (utf8 (Json.object (replying items)).compact)

/-- Rules that hide that document. -/
def hidePhone : Option String → Except Error (List Rule) := fun _ => .ok [{ hide := some ["42"] }]

/-- A search at that backend under these rules. -/
def withoutPhone (queries : List Query) (items : List Json) : Outcome :=
  run catalogService (fun _ => 0) (repliesWith items) hidePhone queries

/-- A plain search, and a query for suggestions. -/
def phonesAndTyped : List Query := [
  { id := "phones", body := some (.object []) },
  { id := "typed", kind := .suggestion, body := some (.object []) }]

theorem answered_phoneFound : Answered phoneFound := by
  refine ⟨[documentOf "42"], rfl, fun d hd => ?_⟩
  rw [List.mem_singleton.mp hd]
  exact ⟨⟨_, rfl⟩, _, rfl⟩

theorem failed_notFound : Failed notFound := ⟨_, rfl, rfl⟩

/-- A failure at a query for suggestions does not touch the other query. -/
theorem run_ok_iff_of_items_typed :
    ∃ text envelope, (withoutPhone phonesAndTyped [phoneFound, notFound]).result = .ok text ∧
      (Json.object envelope).compact = text ∧ Fields.find? envelope "typed" = some notFound := by
  obtain ⟨batch, hbatch⟩ : ∃ batch, Batch.ofQueries phonesAndTyped = .ok batch := ⟨_, rfl⟩
  have hfound : hidePhone batch.indices.head? = .ok [{ hide := some ["42"] }] := rfl
  have hreply : (catalogService.backend.exchange (fun _ => 0)
      (repliesWith [phoneFound, notFound]) batch).result =
        .ok (replying [phoneFound, notFound]) := by
    cases hbatch
    decide +kernel
  have hplan : plan batch.indices catalogService.aliases = [] := by
    cases hbatch
    rfl
  have hitems : Itemized phonesAndTyped (replying [phoneFound, notFound])
      [phoneFound, notFound] := by
    refine ⟨rfl, rfl, fun response hmem => ?_⟩
    rcases List.mem_pair.mp hmem with rfl | rfl
    · exact .inr answered_phoneFound
    · exact .inl failed_notFound
  obtain ⟨entries, _, -, hiff, hdelivered⟩ := run_ok_iff_of_items hbatch hfound hreply hitems
  have hnone : NoneFailedWhereHidden [{ hide := some ["42"] }] phonesAndTyped
      [phoneFound, notFound] := by
    rintro - i q response hq hresponse hkind
    match i with
    | 0 => cases hresponse; exact fun h => h.not_listed answered_phoneFound.listed
    | 1 => cases hq; cases hkind
    | i + 2 => cases hq
  rw [hplan] at hiff hdelivered
  obtain ⟨text, htext⟩ := (hiff (faithful_of_isEmpty rfl entries)).mpr hnone
  obtain ⟨envelope, hcompact, hfailures⟩ := hdelivered text htext
  obtain ⟨renamed, final, hrenamed, hfinal, hsame, -⟩ :=
    hfailures 1 _ notFound rfl rfl failed_notFound
  -- there are no names to replace
  rw [RenamedEntry, if_pos List.isEmpty_nil] at hrenamed
  rw [hsame (by decide), hrenamed] at hfinal
  exact ⟨text, envelope, htext, hcompact, hfinal⟩

/-- A plain search that fails under a rule that hides is refused, although the
backend has answered its only query with a failure. -/
theorem failed_search_refused :
    Backend.ofSettings catalogService.backend.settings = .ok catalogService.backend ∧
      (∀ batch, Batch.ofQueries (phonesAndTyped.take 1) = .ok batch →
        (catalogService.backend.exchange (fun _ => 0) (repliesWith [notFound]) batch).result =
          .ok (replying [notFound])) ∧
      Itemized (phonesAndTyped.take 1) (replying [notFound]) [notFound] ∧
      (withoutPhone (phonesAndTyped.take 1) [notFound]).result = .error Fault.noHits.error := by
  refine ⟨rfl, ?_, ⟨rfl, rfl, fun response hmem => ?_⟩, by decide +kernel⟩
  · intro batch hbatch
    cases hbatch
    decide +kernel
  · rw [List.mem_singleton.mp hmem]
    exact .inl failed_notFound

end SearchRelay.Search
