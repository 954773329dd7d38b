import SearchRelay.Envelope
import SearchRelay.Proofs.Batch
import SearchRelay.Proofs.Json.Fields

/-!
# SearchRelay.Proofs.Envelope

Each query of a batch finds its own answer in the envelope.

The backend names no query, so an answer belongs to a query by its place only.
`EntryOf` says what the envelope should hold for a query with a given answer,
`OwnAnswers` that it holds this for every place of the batch, next to the
settings and the error of the reply and nothing else, and
`ownAnswers_of_ofReply` that every envelope of a batch is of this kind.

1. `find?_addEntries` — with ids that are all different, putting entries in
   never replaces an entry, and leaves every other key alone;
2. `entryOf_of_entry` — one answer is either passed on or has its list of hits
   replaced.
-/

namespace SearchRelay.Envelope

open Json

/-! ## what an envelope should hold -/

/-- The keys of an envelope: the settings, the error if the reply has one, and
the ids of the batch. -/
def expectedKeys (reply : Fields) (ids : List String) : List String :=
  "settings" :: ((if reply.has "error" then ["error"] else []) ++ ids)

/-- The suggestions of a query for the hits that the backend has given it. -/
def SuggestionsOf (common : Stopwords) (q : Query) (raw : List Json)
    (suggestions : List Suggestion) : Prop :=
  ((q.value = none ∨ q.value = some .null) ∧ suggestions = []) ∨
  ∃ options hits, q.suggestionOptions = .ok (some options) ∧
    raw.mapM (decodeAs Hit.decode) = .ok hits ∧
    suggestions = Suggestion.suggest options common hits

/-- `changed` is `response` with the list `raw` of hits replaced by `list`:
every other key of the response, and every other key of its `hits`, is left as
it was. -/
def HitsReplaced (raw list : List Json) (response changed : Fields) : Prop :=
  ∃ before after : Fields,
    response.find? "hits" = some (.object before) ∧ before.find? "hits" = some (.array raw) ∧
    changed.find? "hits" = some (.object after) ∧ after.find? "hits" = some (.array list) ∧
    (∀ key, key ≠ "hits" → changed.find? key = response.find? key) ∧
    (∀ key, key ≠ "hits" → after.find? key = before.find? key) ∧
    (response.Sorted → changed.Sorted) ∧ (before.Sorted → after.Sorted)

/-- What the envelope should hold for a query with the given response. -/
def EntryOf (common : Stopwords) (q : Query) (response changed : Fields) : Prop :=
  if q.kind ≠ .suggestion ∨ (response.has "error" ∧ ¬ response.has "hits") then
    changed = response
  else
    ∃ raw suggestions, SuggestionsOf common q raw suggestions ∧
      HitsReplaced raw (suggestions.map Suggestion.toJson) response changed

/-- An envelope in which every query finds its own answer.  `items` are the
responses of the reply. -/
structure OwnAnswers (common : Stopwords) (queries : List Query) (reply : Fields)
    (items : List Json) (envelope : Fields) : Prop where
  sorted : envelope.Sorted
  /-- The ids shadow neither each other nor the other keys. -/
  nodup : (expectedKeys reply (queries.map Query.id)).Nodup
  keys : envelope.keys.Perm (expectedKeys reply (queries.map Query.id))
  settings : envelope.find? "settings" =
    some (.object [("took", (reply.find? "took").getD .null)])
  error : envelope.find? "error" = reply.find? "error"
  entry : ∀ (i : Nat) (q : Query) (response : Json), queries[i]? = some q →
    items[i]? = some response →
    ∃ fields changed, response = .object fields ∧
      envelope.find? q.id = some (.object changed) ∧ EntryOf common q fields changed

/-! ## one answer -/

/- A query gets one of two entries: the response itself, or the response with the list
of hits replaced by suggestions. The second needs the options of the query and hits that
can be read, so each fact about it names both. -/

/-- Putting another list into the hits of a response replaces this list only. -/
theorem hitsReplaced_insert {response before : Fields} {raw : List Json} (list : List Json)
    (hbefore : response.find? "hits" = some (.object before))
    (hraw : before.find? "hits" = some (.array raw)) :
    HitsReplaced raw list response
      (response.insert "hits" (.object (Fields.insert "hits" (.array list) before))) := by
  refine ⟨before, before.insert "hits" (.array list), hbefore, hraw, ?_, ?_, ?_, ?_, ?_, ?_⟩
  · exact Fields.find?_insert_self _ _ _
  · exact Fields.find?_insert_self _ _ _
  · exact fun key hkey => Fields.find?_insert_of_ne hkey _ _
  · exact fun key hkey => Fields.find?_insert_of_ne hkey _ _
  · exact Fields.sorted_insert _ _
  · exact Fields.sorted_insert _ _

/-- Only a query without a value has no options. -/
theorem value_of_suggestionOptions {q : Query} (h : q.suggestionOptions = .ok none) :
    q.value = none ∨ q.value = some .null := by
  unfold Query.suggestionOptions at h
  split at h
  · next hv => exact .inl hv
  · next hv => exact .inr hv
  · split at h
    · contradiction
    · split at h <;> simp at h
  · contradiction

/-- Only a query with a text has options. -/
theorem text_of_suggestionOptions {q : Query} {options : SuggestionOptions}
    (h : q.suggestionOptions = .ok (some options)) : ∃ text, q.value = some (.string text) := by
  unfold Query.suggestionOptions at h
  split at h
  · injection h with h
    contradiction
  · injection h with h
    contradiction
  · next text hvalue => exact ⟨text, hvalue⟩
  · contradiction

/-- Suggestions that are found are those of the hits, read one by one. -/
theorem suggestionsOf_of_suggestionsFor {common : Stopwords} {q : Query} {raw : List Json}
    {suggestions : List Suggestion} (h : suggestionsFor common q raw = .ok suggestions) :
    SuggestionsOf common q raw suggestions := by
  unfold suggestionsFor at h
  split at h
  · contradiction
  · next hoptions =>
    injection h with h
    exact .inl ⟨value_of_suggestionOptions hoptions, h.symm⟩
  · next options hoptions =>
    split at h
    · contradiction
    · next hits hhits =>
      injection h with h
      exact .inr ⟨options, hits, hoptions, hhits, h.symm⟩

theorem isFailure_iff (response : Fields) :
    isFailure response = true ↔ response.has "error" ∧ ¬ response.has "hits" := by
  simp [isFailure]

/-- The answer to a suggestion query that did not fail has its hits replaced. -/
theorem hitsReplaced_of_suggestionResult {common : Stopwords} {q : Query}
    {response changed : Fields} (hfailure : ¬ isFailure response = true)
    (h : suggestionResult common q response = .ok changed) :
    ∃ raw suggestions, SuggestionsOf common q raw suggestions ∧
      HitsReplaced raw (suggestions.map Suggestion.toJson) response changed := by
  rw [suggestionResult, if_neg hfailure] at h
  split at h
  · next before hbefore =>
    split at h
    · next raw hraw =>
      obtain ⟨suggestions, hsuggestions, h⟩ := Except.bind_eq_ok.mp h
      rw [Except.pure_eq_ok] at h
      subst h
      exact ⟨raw, suggestions, suggestionsOf_of_suggestionsFor hsuggestions,
        hitsReplaced_insert _ hbefore hraw⟩
    · contradiction
  · contradiction

/-- The entry of a query is made of its own answer, which is an object. -/
theorem entryOf_of_entry {common : Stopwords} {q : Query} {response e : Json}
    (h : entry common q response = .ok e) :
    ∃ fields changed, response = .object fields ∧ e = .object changed ∧
      EntryOf common q fields changed := by
  unfold entry at h
  split at h
  · next fields =>
    split at h
    · next hkind =>
      obtain ⟨changed, hresult, rfl⟩ := Except.map_eq_ok.mp h
      refine ⟨fields, changed, rfl, rfl, ?_⟩
      by_cases hfailure : isFailure fields = true
      · rw [EntryOf, if_pos (.inr ((isFailure_iff fields).mp hfailure))]
        rw [suggestionResult, if_pos hfailure] at hresult
        injection hresult with hresult
        exact hresult.symm
      · rw [EntryOf, if_neg]
        · exact hitsReplaced_of_suggestionResult hfailure hresult
        · rintro (hne | hfailed)
          · exact hne hkind
          · exact hfailure ((isFailure_iff fields).mpr hfailed)
    · next hkind =>
      injection h with h
      refine ⟨fields, fields, rfl, h.symm, ?_⟩
      rw [EntryOf, if_pos (.inl hkind)]
  · contradiction

/-! ## all answers -/

/- The induction is on the pairs of query and response, over the envelope made so far.
Since no id occurs twice, what was put in is never replaced later. -/

/-- The ids of queries that are paired with their answers. -/
def idsOf (pairs : List (Query × Json)) : List String := pairs.map fun pair => pair.1.id

/-- Putting entries in keeps the fields sorted and adds the ids to the keys. -/
theorem keys_addEntries {common : Stopwords} {out envelope : Fields}
    {pairs : List (Query × Json)} (hsorted : out.Sorted)
    (h : addEntries common out pairs = .ok envelope) :
    envelope.Sorted ∧ ∀ key, key ∈ envelope.keys ↔ key ∈ out.keys ∨ key ∈ idsOf pairs := by
  induction pairs generalizing out with
  | nil =>
      injection h with h
      subst h
      simp [idsOf, hsorted]
  | cons pair pairs ih =>
      obtain ⟨q, response⟩ := pair
      obtain ⟨e, _, hrest⟩ := Except.bind_eq_ok.mp h
      obtain ⟨hs, hkeys⟩ := ih (Fields.sorted_insert q.id e hsorted) hrest
      refine ⟨hs, fun key => ?_⟩
      rw [hkeys, Fields.mem_keys_insert]
      simp only [idsOf, List.map_cons, List.mem_cons]
      constructor
      · rintro ((rfl | hout) | hid)
        · exact .inr (.inl rfl)
        · exact .inl hout
        · exact .inr (.inr hid)
      · rintro (hout | rfl | hid)
        · exact .inl (.inr hout)
        · exact .inl (.inl rfl)
        · exact .inr hid

/-- With ids that are all different no entry replaces another one, and no key
but the ids is touched. -/
theorem find?_addEntries {common : Stopwords} {out envelope : Fields}
    {pairs : List (Query × Json)} (hnodup : (idsOf pairs).Nodup)
    (h : addEntries common out pairs = .ok envelope) :
    (∀ key, key ∉ idsOf pairs → envelope.find? key = out.find? key) ∧
    ∀ pair ∈ pairs, ∃ e, entry common pair.1 pair.2 = .ok e ∧
      envelope.find? pair.1.id = some e := by
  induction pairs generalizing out with
  | nil =>
      injection h with h
      subst h
      simp
  | cons pair pairs ih =>
      obtain ⟨q, response⟩ := pair
      obtain ⟨e, he, hrest⟩ := Except.bind_eq_ok.mp h
      obtain ⟨hq, hnodup⟩ := List.nodup_cons.mp hnodup
      obtain ⟨hother, hentries⟩ := ih hnodup hrest
      constructor
      · intro key hkey
        have hne : key ≠ q.id := fun heq => hkey (heq ▸ List.mem_cons_self)
        rw [hother key fun hmem => hkey (List.mem_cons_of_mem _ hmem)]
        exact Fields.find?_insert_of_ne hne _ _
      · intro pair hpair
        rcases List.mem_cons.mp hpair with rfl | hmem
        · -- no later id is this one, so the entry stays as it was put in
          exact ⟨e, he, by rw [hother q.id hq]; exact Fields.find?_insert_self _ _ _⟩
        · exact hentries pair hmem

/-- Entries that there are can be put in. -/
theorem exists_addEntries {common : Stopwords} {pairs : List (Query × Json)}
    (h : ∀ pair ∈ pairs, ∃ e, entry common pair.1 pair.2 = .ok e) (out : Fields) :
    ∃ envelope, addEntries common out pairs = .ok envelope := by
  induction pairs generalizing out with
  | nil => exact ⟨out, rfl⟩
  | cons pair pairs ih =>
      obtain ⟨⟨e, he⟩, hrest⟩ := List.forall_mem_cons.mp h
      obtain ⟨envelope, henvelope⟩ := ih hrest (out.insert pair.1.id e)
      exact ⟨envelope, Except.bind_eq_ok.mpr ⟨e, he, henvelope⟩⟩

/-- The first entry that there is not ends the list. -/
theorem addEntries_of_error {common : Stopwords} {before after : List (Query × Json)}
    (hbefore : ∀ pair ∈ before, ∃ e, entry common pair.1 pair.2 = .ok e) {q : Query}
    {response : Json} {error : Error} (h : entry common q response = .error error) (out : Fields) :
    addEntries common out (before ++ (q, response) :: after) = .error error := by
  induction before generalizing out with
  | nil => exact Except.bind_eq_error.mpr (.inl h)
  | cons pair before ih =>
      obtain ⟨⟨e, he⟩, hbefore⟩ := List.forall_mem_cons.mp hbefore
      exact Except.bind_eq_error.mpr (.inr ⟨e, he, ih hbefore (out.insert pair.1.id e)⟩)

/-! ## the frame -/

theorem sorted_frame (reply : Fields) : (frame reply).Sorted := by
  unfold frame
  split
  · exact Fields.sorted_insert _ _ (by simp [Fields.Sorted])
  · simp [Fields.Sorted]

/-- The time the backend took is passed on, and is null without one. -/
theorem find?_frame_settings (reply : Fields) :
    (frame reply).find? "settings" =
      some (.object [("took", (reply.find? "took").getD .null)]) := by
  unfold frame
  split
  · rw [Fields.find?_insert_of_ne (by decide)]
    exact List.lookup_cons_self
  · exact List.lookup_cons_self

/-- A failure of the whole reply is passed on. -/
theorem find?_frame_error (reply : Fields) :
    (frame reply).find? "error" = reply.find? "error" := by
  unfold frame
  split
  · next error herror => rw [Fields.find?_insert_self, herror]
  · next hnone =>
    rw [hnone, Fields.find?_cons, if_neg (by decide)]
    rfl

/-- Before any answer is added, an envelope holds nothing else. -/
theorem mem_keys_frame (reply : Fields) (key : String) :
    key ∈ (frame reply).keys ↔ key = "settings" ∨ (key = "error" ∧ reply.has "error") := by
  unfold frame
  split
  · next error herror =>
    rw [Fields.mem_keys_insert]
    simp [Fields.keys, Fields.has, herror, or_comm]
  · next hnone => simp [Fields.keys, Fields.has, hnone]

/-! ## the envelope -/

/-- An envelope is made only if the reply lines up with the batch. -/
theorem addEntries_of_ofReply {common : Stopwords} {batch : Batch} {reply : Json}
    {envelope : Fields} (h : ofReply common batch reply = .ok envelope) :
    ∃ (top : Fields) (items : List Json), reply = .object top ∧
      top.find? "responses" = some (.array items) ∧ items.length = batch.queries.length ∧
      addEntries common (frame top) (batch.queries.zip items) = .ok envelope := by
  unfold ofReply at h
  split at h
  · next top =>
    obtain ⟨items, hitems, h⟩ := Except.bind_eq_ok.mp h
    have hresponses : Fields.find? top "responses" = some (.array items) := by
      unfold responses at hitems
      split at hitems
      · next found => injection hitems with hitems; rw [found, hitems]
      · contradiction
      · contradiction
    split at h
    · obtain ⟨_, hfail, _⟩ := Except.bind_eq_ok.mp h
      contradiction
    · next hlength =>
      exact ⟨top, items, rfl, hresponses, Decidable.not_not.mp hlength, h⟩
  · contradiction

/-- Envelopes are written with their keys in order. -/
theorem sorted_of_ofReply {common : Stopwords} {batch : Batch} {reply : Json} {envelope : Fields}
    (h : ofReply common batch reply = .ok envelope) : envelope.Sorted := by
  obtain ⟨top, items, _, _, _, hadd⟩ := addEntries_of_ofReply h
  exact (keys_addEntries (sorted_frame top) hadd).1

/-- The responses of a reply are counted, and then each makes an entry. -/
theorem ofReply_of_responses (common : Stopwords) (batch : Batch) {top : Fields}
    {items : List Json} (hitems : top.find? "responses" = some (.array items)) :
    ofReply common batch (.object top) =
      if items.length = batch.queries.length then
        addEntries common (frame top) (batch.queries.zip items)
      else fail (.responseCount batch.queries.length items.length) := by
  have hresponses : responses top = .ok items := by rw [responses, hitems]
  rw [ofReply, hresponses]
  by_cases hlength : items.length = batch.queries.length
  · rw [if_pos hlength]
    exact if_neg (not_not_intro hlength)
  · rw [if_neg hlength]
    exact if_pos hlength

/-- A reply that lines up with the batch makes an envelope if its entries do. -/
theorem ofReply_of_addEntries {common : Stopwords} {batch : Batch} {top envelope : Fields}
    {items : List Json} (hitems : top.find? "responses" = some (.array items))
    (hlength : items.length = batch.queries.length)
    (h : addEntries common (frame top) (batch.queries.zip items) = .ok envelope) :
    ofReply common batch (.object top) = .ok envelope := by
  rw [ofReply_of_responses common batch hitems, if_pos hlength, h]

/-- The frame depends on the reply's own fields, not on its responses. -/
theorem frame_congr {reply other : Fields}
    (h : ∀ key, key ≠ "responses" → reply.find? key = other.find? key) :
    frame reply = frame other := by
  rw [frame, frame, h "took" (by decide), h "error" (by decide)]

/-! ## the order of the entries -/

/- Entries of different ids are put in in either order, because an object keeps its keys
sorted. So the envelope depends on the pairs of query and response only, and not on
their order. -/

/-- Puts the entry of one query into an envelope. -/
def addEntry (common : Stopwords) (out : Fields) (pair : Query × Json) : Except Error Fields :=
  (entry common pair.1 pair.2).map fun e => out.insert pair.1.id e

theorem addEntries_eq_foldlM (common : Stopwords) (out : Fields) (pairs : List (Query × Json)) :
    addEntries common out pairs = pairs.foldlM (addEntry common) out := by
  induction pairs generalizing out with
  | nil => rfl
  | cons pair pairs ih =>
      rw [addEntries, List.foldlM_cons, addEntry]
      cases entry common pair.1 pair.2 with
      | error e => rfl
      | ok e => exact ih (out.insert pair.1.id e)

/-- Answers under different ids may be added in any order. -/
theorem addEntry_comm {common : Stopwords} {out next both : Fields} {pair other : Query × Json}
    (hne : pair.1.id ≠ other.1.id)
    (hpair : addEntry common out pair = .ok next) (hother : addEntry common next other = .ok both) :
    ∃ next', addEntry common out other = .ok next' ∧ addEntry common next' pair = .ok both := by
  obtain ⟨e, he, rfl⟩ := Except.map_eq_ok.mp hpair
  obtain ⟨o, ho, rfl⟩ := Except.map_eq_ok.mp hother
  refine ⟨out.insert other.1.id o, Except.map_eq_ok.mpr ⟨o, ho, rfl⟩, ?_⟩
  exact Except.map_eq_ok.mpr ⟨e, he, Fields.insert_comm (Ne.symm hne) o e out⟩

/-- Entries of different queries may be put in in any order. -/
theorem addEntries_perm {common : Stopwords} {out envelope : Fields}
    {pairs others : List (Query × Json)} (hperm : pairs.Perm others)
    (hnodup : (idsOf pairs).Nodup) (h : addEntries common out pairs = .ok envelope) :
    addEntries common out others = .ok envelope := by
  rw [addEntries_eq_foldlM] at h ⊢
  exact Except.foldlM_perm (addEntry common) (fun pair other => pair.1.id ≠ other.1.id) Ne.symm
    addEntry_comm hperm (List.pairwise_map.mp hnodup) h

theorem idsOf_zip {queries : List Query} {items : List Json}
    (h : items.length = queries.length) : idsOf (queries.zip items) = queries.map Query.id := by
  have hfst : (queries.zip items).map Prod.fst = queries :=
    List.map_fst_zip (Nat.le_of_eq h.symm)
  calc
    idsOf (queries.zip items) = ((queries.zip items).map Prod.fst).map Query.id := by simp [idsOf]
    _ = queries.map Query.id := by rw [hfst]

/-- The entry of a query is made of the response of its place. -/
theorem entryOf_of_place {common : Stopwords} {queries : List Query} {items : List Json}
    {out envelope : Fields} (hlength : items.length = queries.length)
    (hnodup : (queries.map Query.id).Nodup)
    (h : addEntries common out (queries.zip items) = .ok envelope) {i : Nat} {q : Query}
    {response : Json} (hq : queries[i]? = some q) (hresponse : items[i]? = some response) :
    ∃ fields changed, response = .object fields ∧
      envelope.find? q.id = some (.object changed) ∧ EntryOf common q fields changed := by
  rw [← idsOf_zip hlength] at hnodup
  have hpair : (q, response) ∈ queries.zip items :=
    List.mem_of_getElem? (i := i) (by simp [List.getElem?_zip_eq_some, hq, hresponse])
  obtain ⟨e, he, hfound⟩ := (find?_addEntries hnodup h).2 _ hpair
  obtain ⟨fields, changed, rfl, rfl, hentry⟩ := entryOf_of_entry he
  exact ⟨fields, changed, rfl, hfound, hentry⟩

/-- **Per-query identity**: the keys of the envelope are the settings, the
error of the reply if it has one, and the ids of the batch, each once; the
settings hold the time that the backend took; and at every place the id of the
query leads to the response of that place, passed on as it is or, for a
suggestion query that did not fail, with its hits replaced by the suggestions
for that query and those hits. -/
theorem ownAnswers_of_ofReply {common : Stopwords} {queries : List Query} {batch : Batch}
    {reply : Json} {envelope : Fields} (hbatch : Batch.ofQueries queries = .ok batch)
    (h : ofReply common batch reply = .ok envelope) :
    ∃ (top : Fields) (items : List Json), reply = .object top ∧
      top.find? "responses" = some (.array items) ∧ items.length = queries.length ∧
      OwnAnswers common queries top items envelope := by
  obtain ⟨top, items, hreply, hresponses, hlength, hadd⟩ := addEntries_of_ofReply h
  have hids : batch.ids = queries.map Query.id := by
    rw [Batch.ids, Batch.queries_of_ofQueries hbatch]
  rw [Batch.queries_of_ofQueries hbatch] at hlength hadd
  have hpairs := idsOf_zip hlength
  have hnodup := Batch.nodup_queries hbatch
  have hfree : ∀ id ∈ queries.map Query.id, id ≠ "settings" ∧ id ≠ "error" := by
    rw [← hids]
    exact fun id hid => Batch.not_mem_reservedIds hbatch hid
  obtain ⟨hsorted, hkeys⟩ := keys_addEntries (sorted_frame top) hadd
  have hother := (find?_addEntries (hpairs ▸ hnodup) hadd).1
  rw [hpairs] at hother hkeys
  have hsettings : "settings" ∉ queries.map Query.id := fun hmem => (hfree _ hmem).1 rfl
  have herror : "error" ∉ queries.map Query.id := fun hmem => (hfree _ hmem).2 rfl
  have hexpected : (expectedKeys top (queries.map Query.id)).Nodup := by
    unfold expectedKeys
    split
    · simp only [List.cons_append, List.nil_append, List.nodup_cons, List.mem_cons, not_or]
      exact ⟨⟨by decide, hsettings⟩, herror, hnodup⟩
    · exact List.nodup_cons.mpr ⟨hsettings, hnodup⟩
  refine ⟨top, items, hreply, hresponses, hlength, hsorted, hexpected, ?_, ?_, ?_, ?_⟩
  · -- both lists of keys are free of repetitions, so it suffices that they have the same keys
    refine (List.perm_ext_iff_of_nodup (Fields.nodup_keys hsorted) hexpected).mpr fun key => ?_
    rw [hkeys, mem_keys_frame, expectedKeys]
    split <;> simp_all [or_assoc]
  · rw [hother _ hsettings, find?_frame_settings]
  · rw [hother _ herror, find?_frame_error]
  · exact fun i q response hq hresponse => entryOf_of_place hlength hnodup hadd hq hresponse

/-! ### a batch of every kind -/

/-- A plain search, and suggestion queries with a value, with a failure of the
backend, and without a value. -/
def mixedQueries : List Query := [
  { id := "results", body := some (.object []) },
  { id := "typed", kind := .suggestion, value := some (.string "iph"), body := some (.object []) },
  { id := "failed", kind := .suggestion, body := some (.object []) },
  { id := "empty", kind := .suggestion, body := some (.object []) }]

/-- A hit with a title. -/
def phoneHit : Json :=
  .object [("_id", .string "1"), ("_source", .object [("title", .string "iphone")])]

/-- The suggestion that the title of the hit makes. -/
def phoneSuggestion : Suggestion where
  value := "iphone"
  label := "iphone"
  id := some "1"
  source := [("title", .string "iphone")]

/-- A reply to these queries. -/
def mixedReply : Json := .object [
  ("error", .string "slow"),
  ("responses", .array [
    .object [("hits", .object [("hits", .array [phoneHit])])],
    .object [("hits", .object [("hits", .array [phoneHit]), ("total", .ofNat 1)]),
      ("took", .ofNat 3)],
    .object [("error", .string "shard")],
    .object [("hits", .object [("hits", .array [phoneHit])])]]),
  ("took", .ofNat 7)]

/-- The envelope of that reply. -/
def mixedEnvelope : Fields := [
  ("empty", .object [("hits", .object [("hits", .array [])])]),
  ("error", .string "slow"),
  ("failed", .object [("error", .string "shard")]),
  ("results", .object [("hits", .object [("hits", .array [phoneHit])])]),
  ("settings", .object [("took", .ofNat 7)]),
  ("typed", .object [
    ("hits", .object [("hits", .array [phoneSuggestion.toJson]), ("total", .ofNat 1)]),
    ("took", .ofNat 3)])]

/-- A plain search, a suggestion and a failure, each under its own id. -/
theorem ownAnswers_of_ofReply_mixed :
    ∃ batch, Batch.ofQueries mixedQueries = .ok batch ∧
      ofReply ⟨[]⟩ batch mixedReply = .ok mixedEnvelope ∧
      ∃ (top : Fields) (items : List Json), mixedReply = .object top ∧
        top.find? "responses" = some (.array items) ∧ items.length = mixedQueries.length ∧
        OwnAnswers ⟨[]⟩ mixedQueries top items mixedEnvelope :=
  ⟨_, rfl, rfl, ownAnswers_of_ofReply rfl rfl⟩

end SearchRelay.Envelope
