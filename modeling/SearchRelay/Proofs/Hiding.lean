import SearchRelay.Proofs.Alias.Quoted
import SearchRelay.Proofs.Batch
import SearchRelay.Proofs.Envelope
import SearchRelay.Proofs.Exchange
import SearchRelay.Proofs.Json.Ordered
import SearchRelay.Proofs.Rule
import SearchRelay.Proofs.Search
import SearchRelay.Proofs.Translation

/-!
# SearchRelay.Proofs.Hiding

Which documents the rules hide in a whole search.

Rules name documents by their ids in the backend, but are applied to entries in
which the names of indices were replaced already.  An id that is such a name is
therefore compared after it was replaced.

1. `entry_of_envelopeOf` — the entry of a plain search is the response of its place,
   with names replaced, as the rules leave it;
2. `filter_map_eq_iff` — two ways to choose from a list give the same if and
   only if they agree on every element;
3. `hidden_by_sent_id_iff` — so the documents are chosen by the ids that the
   backend sent if and only if no replaced id has another verdict.
-/

namespace SearchRelay.Rule

open Json

/-! ## two choices -/

/-- To choose by what becomes of an element is to choose by the element only if
both agree on every element. -/
theorem filter_map_eq_iff {α β : Type} (g : α → β) (p : β → Bool) (q : α → Bool) (xs : List α) :
    (xs.map g).filter p = (xs.filter q).map g ↔ ∀ x ∈ xs, p (g x) = q x := by
  rw [List.filter_map]
  constructor
  · intro h
    -- what `q` takes is taken by `p` as well, and both take equally many
    have hsub : ∀ x ∈ xs, q x = true → p (g x) = true := by
      intro x hx hq
      have hmem : g x ∈ (xs.filter (p ∘ g)).map g := by
        rw [h]
        exact List.mem_map_of_mem (List.mem_filter.mpr ⟨hx, hq⟩)
      obtain ⟨y, hy, heq⟩ := List.mem_map.mp hmem
      rw [← heq]
      exact (List.mem_filter.mp hy).2
    have hlength := congrArg List.length h
    rw [List.length_map, List.length_map] at hlength
    have hfilter : xs.filter q = (xs.filter (p ∘ g)).filter q := by
      rw [List.filter_filter]
      refine List.filter_congr fun x hx => ?_
      cases hq : q x with
      | false => rfl
      | true => simp [hsub x hx hq]
    rw [hfilter] at hlength
    have hall := List.length_filter_eq_length_iff.mp hlength.symm
    intro x hx
    cases hp : p (g x) with
    | false =>
        cases hq : q x with
        | false => rfl
        | true => rw [hsub x hx hq] at hp; contradiction
    | true => exact (hall x (List.mem_filter.mpr ⟨hx, hp⟩)).symm
  · exact fun h => congrArg (List.map g) (List.filter_congr h)

/-! ## hits with their strings replaced -/

/- A rule compares the id of a document as a string. After names were replaced, the
string is the replaced one, and so are all the others in the document. -/

/-- The id of a document, if it is a text. -/
def textId? (document : Json) : Option String := do
  let fields ← document.object?
  let id ← Fields.find? fields "_id"
  id.string?

theorem mapItems_eq_map (f : String → String) (items : List Json) :
    mapItems f items = items.map (mapTexts f) := by
  induction items with
  | nil => rfl
  | cons v vs ih => rw [mapItems, ih, List.map_cons]

section

variable {f : String → String}

/-- Renaming texts renames the documents of a result. -/
theorem documents?_mapTexts (hkey : Spares f "hits") {result : Json} (h : result.Ordered) :
    documents? (result.mapTexts f) = (documents? result).map (List.map (mapTexts f)) := by
  cases result with
  | object fields =>
      have hfields := find?_ofList_mapFields hkey h.1
      cases hhits : Fields.find? fields "hits" with
      | none => simp [documents?, hitsFields?, mapTexts, ofFields, object?, hfields, hhits]
      | some hits =>
          cases hits with
          | object inner =>
              have hinner := find?_ofList_mapFields hkey (h.field hhits).1
              cases hlist : Fields.find? inner "hits" with
              | none =>
                  simp [documents?, hitsFields?, mapTexts, ofFields, object?, hfields, hhits,
                    hinner, hlist]
              | some list =>
                  cases list <;>
                    simp [documents?, hitsFields?, mapTexts, ofFields, object?, array?, hfields,
                      hhits, hinner, hlist, mapItems_eq_map]
          | null | bool | number | string | array =>
              simp [documents?, hitsFields?, mapTexts, ofFields, object?, hfields, hhits]
  | null | bool | number | string | array => rfl

/-- A document is hidden under its replaced id just as under its own, unless
its id is a text that is replaced and only one of the two is hidden. -/
theorem hides_mapTexts_iff (hkey : Spares f "_id") (ids : List String) {d : Json}
    (h : d.Ordered) :
    hides ids (d.mapTexts f) = hides ids d ↔ ∀ s, textId? d = some s → (f s ∈ ids ↔ s ∈ ids) := by
  cases d with
  | object fields =>
      have hfields := find?_ofList_mapFields hkey h.1
      cases hid : Fields.find? fields "_id" with
      | none => simp [hides, documentId?, textId?, mapTexts, ofFields, object?, hfields, hid]
      | some id =>
          cases id with
          | string s =>
              simp [hides, documentId?, textId?, mapTexts, ofFields, object?, string?, hfields, hid]
          | null | bool | number | array | object =>
              simp [hides, documentId?, textId?, mapTexts, ofFields, object?, string?, hfields, hid]
  | null | bool | number | string | array =>
      simp [hides, documentId?, textId?, mapTexts, object?]

end

end SearchRelay.Rule

namespace SearchRelay.Search

open Json Rule Alias

/-! ## an entry from the reply to the client -/

/- The entry of a query is followed through the whole run: it is the response of its
place, then the response with names replaced, then what the rules leave of it. No other
entry has a say in this. -/

/-- An entry before and after the names of indices are replaced in it. -/
def RenamedEntry (subs : List (Substitution UInt8)) (key : String) (before after : Json) : Prop :=
  if subs.isEmpty then after = before else translateEntry subs (key, before) = .ok (key, after)

theorem translateEntry_key {subs : List (Substitution UInt8)} {entry changed : String × Json}
    (h : translateEntry subs entry = .ok changed) : changed.1 = entry.1 := by
  unfold translateEntry at h
  split at h
  · cases h
    rfl
  · contradiction

/-- Entries are renamed one by one under their keys. -/
theorem find?_mapM_translateEntry {subs : List (Substitution UInt8)} {entries out : Fields}
    (h : entries.mapM (translateEntry subs) = .ok out) {key : String} {before : Json}
    (hbefore : entries.find? key = some before) :
    ∃ after, translateEntry subs (key, before) = .ok (key, after) ∧
      out.find? key = some after := by
  induction entries generalizing out with
  | nil => cases hbefore
  | cons entry rest ih =>
      obtain ⟨k, v⟩ := entry
      rw [List.mapM_cons, Except.bind_eq_ok] at h
      obtain ⟨⟨k', w⟩, hentry, h⟩ := h
      obtain ⟨more, hrest, h⟩ := Except.bind_eq_ok.mp h
      cases Except.pure_eq_ok.mp h
      have hk : k' = k := translateEntry_key hentry
      subst hk
      rw [Fields.find?_cons] at hbefore ⊢
      by_cases hkey : key = k'
      · subst hkey
        rw [if_pos rfl] at hbefore ⊢
        cases hbefore
        exact ⟨w, hentry, rfl⟩
      · rw [if_neg hkey] at hbefore ⊢
        exact ih hrest hbefore

/-- Each entry of an envelope is renamed by itself. -/
theorem renamedEntry_of_translateEntries {subs : List (Substitution UInt8)} {envelope out : Fields}
    (h : translateEntries subs envelope = .ok out) {key : String} {before : Json}
    (hbefore : envelope.find? key = some before) :
    ∃ after, RenamedEntry subs key before after ∧ out.find? key = some after := by
  unfold translateEntries at h
  split at h
  · next hempty =>
    cases h
    exact ⟨before, by rw [RenamedEntry, if_pos hempty], hbefore⟩
  · next hsubs =>
    obtain ⟨after, hafter, hout⟩ := find?_mapM_translateEntry h hbefore
    exact ⟨after, by rw [RenamedEntry, if_neg hsubs]; exact hafter, hout⟩

/-- What the rules do at one query: they change its own entry or nothing. -/
theorem applyTo_eq_ok_iff {rules : List Rule} {envelope out : Fields} {q : Query} :
    applyTo rules envelope q = .ok out ↔
      (q.kind = .search ∧ ∃ before after, envelope.find? q.id = some before ∧
          Rule.applyAll rules before = (after, none) ∧ out = envelope.insert q.id after) ∨
        ((q.kind ≠ .search ∨ envelope.find? q.id = none) ∧ out = envelope) := by
  constructor
  · intro h
    unfold applyTo at h
    split at h
    · next before hkind hbefore =>
      split at h
      · next after hafter =>
        cases h
        exact .inl ⟨hkind, before, after, hbefore, hafter, rfl⟩
      · contradiction
    · next hother =>
      cases h
      refine .inr ⟨?_, rfl⟩
      by_cases hkind : q.kind = .search
      · exact .inr (Option.eq_none_iff_forall_ne_some.mpr fun v hv => hother v hkind hv)
      · exact .inl hkind
  · rintro (⟨hkind, before, after, hbefore, hafter, rfl⟩ | ⟨hother, rfl⟩)
    · simp [applyTo, hkind, hbefore, hafter]
    · unfold applyTo
      split
      · next before hkind hbefore =>
        rcases hother with hother | hother
        · exact absurd hkind hother
        · rw [hbefore] at hother
          contradiction
      · rfl

/-- Rules are applied to the entry of the query and to no other. -/
theorem find?_applyTo {rules : List Rule} {envelope out : Fields} {q : Query}
    (h : applyTo rules envelope q = .ok out) :
    (∀ key, key ≠ q.id → out.find? key = envelope.find? key) ∧
      (q.kind = .search → ∀ before, envelope.find? q.id = some before →
        ∃ after, applyAll rules before = (after, none) ∧ out.find? q.id = some after) := by
  rcases applyTo_eq_ok_iff.mp h with ⟨_, _, after, hbefore, hafter, rfl⟩ | ⟨hother, rfl⟩
  · refine ⟨fun key hkey => Fields.find?_insert_of_ne hkey _ _, fun _ _ hfound => ?_⟩
    cases hbefore.symm.trans hfound
    exact ⟨after, hafter, Fields.find?_insert_self _ _ _⟩
  · refine ⟨fun _ _ => rfl, fun hkind before hbefore => ?_⟩
    rcases hother with hother | hnone
    · exact absurd hkind hother
    · rw [hnone] at hbefore
      contradiction

/-- With ids that are all different each plain search has the rules applied to
its own entry. -/
theorem find?_foldlM_applyTo {rules : List Rule} {queries : List Query} {envelope out : Fields}
    (hnodup : (queries.map Query.id).Nodup)
    (h : queries.foldlM (applyTo rules) envelope = .ok out) :
    (∀ key, key ∉ queries.map Query.id → out.find? key = envelope.find? key) ∧
      ∀ q ∈ queries, q.kind = .search → ∀ before, envelope.find? q.id = some before →
        ∃ after, applyAll rules before = (after, none) ∧ out.find? q.id = some after := by
  induction queries generalizing envelope with
  | nil =>
      cases Except.pure_eq_ok.mp h
      simp
  | cons q queries ih =>
      rw [List.foldlM_cons, Except.bind_eq_ok] at h
      obtain ⟨changed, hstep, h⟩ := h
      rw [List.map_cons] at hnodup
      obtain ⟨hq, hnodup⟩ := List.nodup_cons.mp hnodup
      obtain ⟨hothers, hentries⟩ := ih hnodup h
      obtain ⟨hother, hentry⟩ := find?_applyTo hstep
      constructor
      · intro key hkey
        rw [List.map_cons, List.mem_cons, not_or] at hkey
        rw [hothers key hkey.2, hother key hkey.1]
      · intro p hp hkind before hbefore
        rcases List.mem_cons.mp hp with rfl | hmem
        · -- no later id is this one
          obtain ⟨after, hafter, hout⟩ := hentry hkind before hbefore
          exact ⟨after, hafter, by rw [hothers p.id hq, hout]⟩
        · have hne : p.id ≠ q.id := fun heq => hq (heq ▸ List.mem_map_of_mem hmem)
          exact hentries p hmem hkind before (by rw [hother p.id hne, hbefore])

/-- The entry of a plain search is made of the response of its place. -/
theorem entry_of_envelopeOf {common : Stopwords} {aliases : Alias.Table} {rules : List Rule}
    {queries : List Query} {batch : Batch} {reply envelope : Fields}
    (hbatch : Batch.ofQueries queries = .ok batch)
    (h : envelopeOf common aliases rules batch reply = .ok envelope) :
    ∃ responses, Fields.find? reply "responses" = some (.array responses) ∧
      responses.length = queries.length ∧
      ∀ (i : Nat) (q : Query) (response : Json), queries[i]? = some q →
        responses[i]? = some response → q.kind = .search → rules ≠ [] →
        ∃ renamed final, RenamedEntry (plan batch.indices aliases) q.id response renamed ∧
          applyAll rules renamed = (final, none) ∧ envelope.find? q.id = some final := by
  obtain ⟨raw, translated, hraw, htranslated, h⟩ := envelopeOf_eq_ok.mp h
  obtain ⟨top, responses, htop, hresponses, hlength, hadd⟩ := Envelope.addEntries_of_ofReply hraw
  cases htop
  have hids := Batch.nodup_queries hbatch
  rw [Batch.queries_of_ofQueries hbatch] at hlength hadd h
  refine ⟨responses, hresponses, hlength, fun i q response hq hresponse hkind hrules => ?_⟩
  rw [applyRules, if_neg (by simpa using hrules)] at h
  obtain ⟨fields, changed, rfl, hfound, hentry⟩ :=
    Envelope.entryOf_of_place hlength hids hadd hq hresponse
  have hsame : changed = fields := by
    rw [Envelope.EntryOf, if_pos (.inl (by rw [hkind]; decide))] at hentry
    exact hentry
  subst hsame
  obtain ⟨renamed, hrenamed, hfound⟩ := renamedEntry_of_translateEntries htranslated hfound
  obtain ⟨final, hfinal, hfound⟩ :=
    (find?_foldlM_applyTo hids h).2 q (List.mem_of_getElem? hq) hkind renamed hfound
  exact ⟨renamed, final, hrenamed, hfinal, hfound⟩

/-! ## hidden documents -/

/-- The documents that stand where the backend sent one that is not hidden. -/
def unhiddenBySent (ids : List String) (sent documents : List Json) : List Json :=
  ((sent.zip documents).filter fun pair => !hides ids pair.1).map Prod.snd

/-- What hiding makes of a response in which strings were replaced.  `f` is
what should replace them. -/
structure Hiding (ids : List String) (f : String → String) (response renamed final : Json) :
    Prop where
  /-- The documents are chosen by their ids after the replacement. -/
  leaves : ∃ documents, documents? renamed = some documents ∧ Leaves final (unhidden ids documents)
  /-- When this is the choice by the ids that the backend sent. -/
  leaves_sent_iff : ∀ sent documents, documents? response = some sent →
    documents? renamed = some documents → sent.length = documents.length →
    (Leaves final (unhiddenBySent ids sent documents) ↔
      ∀ pair ∈ sent.zip documents, hides ids pair.2 = hides ids pair.1)
  /-- The same if the strings were replaced as they should be, and neither
  `hits` nor `_id` is one of the names. -/
  leaves_renamed_iff : renamed = response.mapTexts f → Spares f "hits" → Spares f "_id" →
    ∃ sent, documents? response = some sent ∧
      (Leaves final ((unhidden ids sent).map (mapTexts f)) ↔
        ∀ d ∈ sent, ∀ s, textId? d = some s → (f s ∈ ids ↔ s ∈ ids))

/-- A result leaves one list of documents. -/
theorem leaves_iff_eq {result : Json} {kept documents : List Json} (h : Leaves result kept) :
    Leaves result documents ↔ kept = documents := by
  constructor
  · intro hother
    rw [Leaves, h.1] at hother
    exact Option.some.inj hother.1
  · rintro rfl
    exact h

theorem ordered_of_documents? {result : Json} (h : result.Ordered) {documents : List Json}
    (hdocuments : documents? result = some documents) {d : Json} (hd : d ∈ documents) :
    d.Ordered := by
  obtain ⟨fields, hits, rfl, hhits, hlist⟩ := documents?_eq_some hdocuments
  exact ((h.field hhits).field hlist).item hd

/-- What is left of the documents can be told from the response of the backend. -/
theorem hiding_of_leaves {ids : List String} (f : String → String) {response renamed final : Json}
    (hordered : response.Ordered)
    (h : ∃ documents, documents? renamed = some documents ∧
      Leaves final (unhidden ids documents)) : Hiding ids f response renamed final where
  leaves := h
  leaves_sent_iff := by
    intro sent documents _ hdocuments hlength
    obtain ⟨found, hfound, hleaves⟩ := h
    rw [hdocuments] at hfound
    cases hfound
    have hsnd : (sent.zip documents).map Prod.snd = documents :=
      List.map_snd_zip (Nat.le_of_eq hlength.symm)
    rw [leaves_iff_eq hleaves, unhiddenBySent]
    calc
      unhidden ids documents = _ ↔
          ((sent.zip documents).map Prod.snd).filter (fun d => !hides ids d) = _ := by
        rw [hsnd, unhidden]
      _ ↔ ∀ pair ∈ sent.zip documents, (!hides ids pair.2) = !hides ids pair.1 :=
        filter_map_eq_iff _ _ _ _
      _ ↔ _ := by simp only [Bool.not_inj_iff]
  leaves_renamed_iff := by
    rintro rfl hhits hid
    obtain ⟨documents, hdocuments, hleaves⟩ := h
    rw [documents?_mapTexts hhits hordered] at hdocuments
    obtain ⟨sent, hsent, rfl⟩ := Option.map_eq_some_iff.mp hdocuments
    refine ⟨sent, hsent, ?_⟩
    rw [leaves_iff_eq hleaves, unhidden, unhidden, filter_map_eq_iff]
    simp only [Bool.not_inj_iff]
    refine forall₂_congr fun d hd => ?_
    exact hides_mapTexts_iff hid ids (ordered_of_documents? hordered hsent hd)

/-- **Hidden documents**: a search that gives a text gives every plain search
the response of its place, with names replaced and documents hidden; if there
is a rule that hides, the documents are chosen by their ids after the
replacement, which is the choice by the ids that the backend sent if and only
if both have the same verdict on every document. -/
theorem hidden_by_sent_id_iff {service : Service} {pauses : Nat → Nat} {script : Backend.Script}
    {rules : Option String → Except Error (List Rule)} {queries : List Query} {text : String}
    (h : (run service pauses script rules queries).result = .ok text) :
    ∃ batch found reply responses envelope, Batch.ofQueries queries = .ok batch ∧
      rules batch.indices.head? = .ok found ∧
      (service.backend.exchange pauses script batch).result = .ok reply ∧
      (Json.object envelope).compact = text ∧
      Fields.find? reply "responses" = some (.array responses) ∧
      responses.length = queries.length ∧
      ∀ (i : Nat) (q : Query) (response : Json), queries[i]? = some q →
        responses[i]? = some response → q.kind = .search → found.any (·.hide.isSome) →
        ∃ renamed final, RenamedEntry (plan batch.indices service.aliases) q.id response renamed ∧
          Fields.find? envelope q.id = some final ∧
          Hiding (hiddenIds found) (rename (renamings batch.indices service.aliases))
            response renamed final := by
  obtain ⟨batch, found, reply, envelope, hbatch, hfound, hreply, henvelope, rfl⟩ := run_eq_ok.mp h
  obtain ⟨responses, hresponses, hlength, hentries⟩ := entry_of_envelopeOf hbatch henvelope
  refine ⟨batch, found, reply, responses, envelope, hbatch, hfound, hreply, rfl, hresponses,
    hlength, fun i q response hq hresponse hkind hhides => ?_⟩
  have hne : found ≠ [] := by
    rintro rfl
    simp at hhides
  obtain ⟨renamed, final, hrenamed, hfinal, henvelope⟩ :=
    hentries i q response hq hresponse hkind hne
  have hafter := applyAll_spec hfinal
  rw [HitsAfter, if_pos hhides] at hafter
  obtain ⟨bytes, hbytes⟩ := Backend.parseBytes?_of_exchange hreply
  have hordered : response.Ordered :=
    ((ordered_of_parseBytes? hbytes).field hresponses).item (List.mem_of_getElem? hresponse)
  exact ⟨renamed, final, hrenamed, henvelope, hiding_of_leaves _ hordered hafter⟩

/-! ## an id that is a name -/

/-- A backend on the same machine, whose index `products` the clients know as
`catalog`. -/
def catalogService : Service where
  backend := {
    settings := { url := "http://[::1]:9200" }
    base := {
      scheme := "http", user := [], host := .ipv6 [0, 0, 0, 0, 0, 0, 0, 1], port := some 9200
      path := [[]], query := none, fragment := none } }
  aliases := catalogTable
  common := Stopwords.ofList []

def documentOf (id : String) : Json := .object [("_id", .string id)]

def resultOf (documents : List Json) : Json :=
  .object [("hits", .object [
    ("hits", .array documents), ("total", .ofNat documents.length)])]

/-- The search for phones, if the backend has two and these are hidden. -/
def phonesWithout (ids : List String) : Outcome :=
  run catalogService (fun _ => 0)
    (fun _ => .complete 200 (utf8 (Json.object [("responses", .array [
      resultOf [documentOf "42", documentOf "products"]])]).compact))
    (fun _ => .ok [{ hide := some ids }])
    [{ id := "phones", index := some "products", body := some (.object []) }]

/-- One of two documents is hidden by its id. -/
theorem hidden_by_sent_id_iff_phones :
    ∃ (text : String) (batch : Batch) (envelope : Fields) (response renamed final : Json),
      (phonesWithout ["42"]).result = .ok text ∧
      (Json.object envelope).compact = text ∧ Fields.find? envelope "phones" = some final ∧
      RenamedEntry (plan batch.indices catalogService.aliases) "phones" response renamed ∧
      Hiding ["42"] (rename (renamings batch.indices catalogService.aliases))
        response renamed final := by
  cases h : (phonesWithout ["42"]).result with
  | error e =>
      have hok : (phonesWithout ["42"]).result.isOk = true := by decide +kernel
      rw [h] at hok
      cases hok
  | ok text =>
      obtain ⟨batch, found, reply, responses, envelope, _, hfound, _, htext, _, hlength,
        hentries⟩ :=
        hidden_by_sent_id_iff h
      cases hfound
      obtain ⟨response, rfl⟩ := List.length_eq_one_iff.mp hlength
      obtain ⟨renamed, final, hrenamed, hfinal, hhiding⟩ := hentries 0 _ response rfl rfl rfl rfl
      exact ⟨text, batch, envelope, response, renamed, final, rfl, htext, hfinal, hrenamed, hhiding⟩

/-- The text for the client with these documents. -/
def phonesText (documents : List Json) : String :=
  (Json.object [("phones", resultOf documents), ("settings", .object [("took", .null)])]).compact

/-- A document whose id is the name of the index is not hidden by its id, but
by the alias of the index. -/
theorem hidden_by_renamed_id :
    Alias.Table.ofPairs [("products", "catalog")] = .ok catalogService.aliases ∧
      Backend.ofSettings catalogService.backend.settings = .ok catalogService.backend ∧
      unhidden ["products"] [documentOf "42", documentOf "products"] = [documentOf "42"] ∧
      (phonesWithout ["products"]).result.toOption =
        some (phonesText [documentOf "42", documentOf "catalog"]) ∧
      (phonesWithout ["catalog"]).result.toOption = some (phonesText [documentOf "42"]) :=
  ⟨rfl, rfl, by decide, by decide +kernel, by decide +kernel⟩

end SearchRelay.Search
