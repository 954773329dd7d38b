import SearchRelay.Proofs.Alias.Plan
import SearchRelay.Proofs.Envelope
import SearchRelay.Proofs.Hiding

/-!
# SearchRelay.Proofs.Reordering

A search does not depend on the order of its queries.

Two searches are compared whose queries are the same in another order and
whose replies hold the responses in that order (`Reordered`).  Stage by stage
the second search does what the first one does:

1. its queries make a batch as well (`Batch.ofQueries_perm`), for the same
   indices;
2. the entries are put into the envelope under different ids, so their order
   does not matter (`Envelope.addEntries_perm`);
3. the names that are replaced are the same ones (`translateEntries_congr`);
4. the rules change each entry by itself (`applyRules_perm`).

`run_ok_iff_of_reordered` is the statement about the whole search.
-/

namespace SearchRelay.Search

open Json

/-! ## the rules -/

/- Rules are applied to one entry after the other, and each application reads and writes
the entry of its query only. -/

/-- The rules do at a query whatever its entry asks for, also where another
entry is another one. -/
theorem applyTo_of_find?_eq {rules : List Rule} {envelope other out : Fields} {q : Query}
    (hfind : other.find? q.id = envelope.find? q.id) (h : applyTo rules envelope q = .ok out) :
    (∃ after, out = envelope.insert q.id after ∧
        applyTo rules other q = .ok (other.insert q.id after)) ∨
      (out = envelope ∧ applyTo rules other q = .ok other) := by
  rcases applyTo_eq_ok_iff.mp h with ⟨hkind, before, after, hbefore, hafter, rfl⟩ | ⟨hnone, rfl⟩
  · exact .inl ⟨after, rfl, applyTo_eq_ok_iff.mpr
      (.inl ⟨hkind, before, after, hfind.trans hbefore, hafter, rfl⟩)⟩
  · exact .inr ⟨rfl, applyTo_eq_ok_iff.mpr (.inr ⟨hfind ▸ hnone, rfl⟩)⟩

/-- Rules for queries of different ids are applied in either order. -/
theorem applyTo_comm {rules : List Rule} {envelope next both : Fields} {p q : Query}
    (hne : p.id ≠ q.id) (hp : applyTo rules envelope p = .ok next)
    (hq : applyTo rules next q = .ok both) :
    ∃ next', applyTo rules envelope q = .ok next' ∧ applyTo rules next' p = .ok both := by
  have hfindq : envelope.find? q.id = next.find? q.id :=
    ((find?_applyTo hp).1 q.id (Ne.symm hne)).symm
  rcases applyTo_of_find?_eq hfindq hq with ⟨v, rfl, hq'⟩ | ⟨rfl, hq'⟩
  · refine ⟨envelope.insert q.id v, hq', ?_⟩
    have hfindp : (envelope.insert q.id v).find? p.id = envelope.find? p.id :=
      Fields.find?_insert_of_ne hne _ _
    rcases applyTo_of_find?_eq hfindp hp with ⟨w, rfl, hp'⟩ | ⟨rfl, hp'⟩
    · rw [hp', Fields.insert_comm (Ne.symm hne) v w envelope]
    · exact hp'
  · exact ⟨envelope, hq', hp⟩

/-- Queries with different ids may be gone through in any order. -/
theorem applyRules_perm {rules : List Rule} {queries others : List Query}
    (hperm : queries.Perm others) {envelope out : Fields}
    (hnodup : (queries.map Query.id).Nodup) (h : applyRules rules queries envelope = .ok out) :
    applyRules rules others envelope = .ok out := by
  unfold applyRules at h ⊢
  split at h
  · next hempty => rw [if_pos hempty, h]
  · next hrules =>
    rw [if_neg hrules]
    exact Except.foldlM_perm (applyTo rules) (fun p q => p.id ≠ q.id) Ne.symm applyTo_comm hperm
      (List.pairwise_map.mp hnodup) h

/-! ## the names -/

/-- Plans for the same names rewrite the entries alike. -/
theorem translateEntries_congr {aliases : Alias.Table} {names others : List String}
    (hnames : ∀ name, name ∈ names ↔ name ∈ others)
    (envelope : Fields) :
    translateEntries (Alias.plan names aliases) envelope =
      translateEntries (Alias.plan others aliases) envelope := by
  have hentry : translateEntry (Alias.plan names aliases) =
      translateEntry (Alias.plan others aliases) := by
    funext entry
    rw [translateEntry, translateEntry, Alias.translate_plan_congr hnames]
  rw [translateEntries, translateEntries, hentry, Alias.isEmpty_plan_congr hnames]

/-! ## the whole search -/

/- Both runs go through the same stages. The envelope is the same for either order; the
names come from the same set of indices, and the rules are applied to the same entries.
-/

/-- A reply has one response for each query. -/
def LinesUp (queries : List Query) (reply : Fields) : Prop :=
  ∃ items, reply.find? "responses" = some (.array items) ∧ items.length = queries.length

/-- The same queries in two orders, and two replies that hold the responses in
these orders and are alike otherwise. -/
structure Reordered (queries others : List Query) (reply other : Fields) : Prop where
  /-- The pairs of query and response are the same, unless neither reply lines
  up with its queries. -/
  responses :
    (∃ asked again : List (Query × Json), asked.Perm again ∧
      queries = asked.map Prod.fst ∧ others = again.map Prod.fst ∧
      reply.find? "responses" = some (.array (asked.map Prod.snd)) ∧
      other.find? "responses" = some (.array (again.map Prod.snd))) ∨
    (queries.Perm others ∧ ¬ LinesUp queries reply ∧ ¬ LinesUp others other)
  rest : ∀ key, key ≠ "responses" → reply.find? key = other.find? key

/-- Reordering goes both ways. -/
theorem Reordered.symm {queries others : List Query} {reply other : Fields}
    (h : Reordered queries others reply other) : Reordered others queries other reply where
  responses := by
    rcases h.responses with ⟨asked, again, hperm, hq, ho, hr, hs⟩ | ⟨hperm, hr, hs⟩
    · exact .inl ⟨again, asked, hperm.symm, ho, hq, hs, hr⟩
    · exact .inr ⟨hperm.symm, hs, hr⟩
  rest key hkey := (h.rest key hkey).symm

/-- Reordered queries are the same queries. -/
theorem Reordered.perm {queries others : List Query} {reply other : Fields}
    (h : Reordered queries others reply other) : queries.Perm others := by
  rcases h.responses with ⟨asked, again, hperm, rfl, rfl, _, _⟩ | ⟨hperm, _, _⟩
  · exact hperm.map Prod.fst
  · exact hperm

/-- The envelope before names are replaced is the same one. -/
theorem ofReply_of_reordered {common : Stopwords} {batch again : Batch} {reply other : Fields}
    (h : Reordered batch.queries again.queries reply other) (hnodup : batch.ids.Nodup)
    {envelope : Fields} (henvelope : Envelope.ofReply common batch (.object reply) = .ok envelope) :
    Envelope.ofReply common again (.object other) = .ok envelope := by
  obtain ⟨top, items, htop, hitems, hlength, hadd⟩ := Envelope.addEntries_of_ofReply henvelope
  cases htop
  rcases h.responses with ⟨asked, others, hperm, hasked, hothers, hreply, hother⟩ | ⟨_, hnot, _⟩
  · rw [hitems] at hreply
    injection hreply with hreply
    injection hreply with hreply
    have hzip : batch.queries.zip items = asked := (List.zip_of_prod hasked.symm hreply.symm).symm
    have hzip' : again.queries.zip (others.map Prod.snd) = others :=
      (List.zip_of_prod hothers.symm rfl).symm
    have hids : (Envelope.idsOf asked).Nodup := by
      rw [Batch.ids, hasked, List.map_map] at hnodup
      exact hnodup
    refine Envelope.ofReply_of_addEntries hother (by rw [hothers, List.length_map, List.length_map])
      ?_
    rw [hzip', ← Envelope.frame_congr h.rest]
    rw [hzip] at hadd
    exact Envelope.addEntries_perm hperm hids hadd
  · exact absurd ⟨items, hitems, hlength⟩ hnot

/-- The envelope for the client is the same one. -/
theorem envelopeOf_of_reordered {common : Stopwords} {aliases : Alias.Table} {rules : List Rule}
    {batch again : Batch} {reply other envelope : Fields}
    (hnodup : batch.ids.Nodup) (h : Reordered batch.queries again.queries reply other)
    (henvelope : envelopeOf common aliases rules batch reply = .ok envelope) :
    envelopeOf common aliases rules again other = .ok envelope := by
  obtain ⟨entries, translated, hentries, htranslated, henvelope⟩ := envelopeOf_eq_ok.mp henvelope
  have hindices := Batch.mem_indices_of_perm h.perm
  refine envelopeOf_eq_ok.mpr
    ⟨entries, translated, ofReply_of_reordered h hnodup hentries, ?_, ?_⟩
  · rw [← translateEntries_congr hindices, htranslated]
  · exact applyRules_perm h.perm hnodup henvelope

section

variable {service : Service} {rules : List Rule} {queries others : List Query}
  {pauses pauses' : Nat → Nat} {script script' : Backend.Script} {reply other : Fields}

/-- What the first search answers the second one answers. -/
theorem run_ok_of_reordered (h : Reordered queries others reply other)
    (hreply : ∀ batch, Batch.ofQueries queries = .ok batch →
      (service.backend.exchange pauses script batch).result = .ok reply)
    (hother : ∀ batch, Batch.ofQueries others = .ok batch →
      (service.backend.exchange pauses' script' batch).result = .ok other)
    {text : String} (hrun : (run service pauses script (fun _ => .ok rules) queries).result =
      .ok text) :
    (run service pauses' script' (fun _ => .ok rules) others).result = .ok text := by
  obtain ⟨batch, found, top, envelope, hbatch, hrules, hexchange, henvelope, htext⟩ :=
    run_eq_ok.mp hrun
  cases hrules
  rw [hreply batch hbatch] at hexchange
  cases hexchange
  obtain ⟨again, hagain⟩ := Batch.ofQueries_perm h.perm hbatch
  refine run_eq_ok.mpr ⟨again, rules, other, envelope, hagain, rfl, hother again hagain, ?_, htext⟩
  refine envelopeOf_of_reordered (Batch.nodup_ids hbatch) ?_ henvelope
  rwa [Batch.queries_of_ofQueries hbatch, Batch.queries_of_ofQueries hagain]

/-- **The order of the queries does not matter**: where the backend answers the
same queries in another order with the same responses in that order, the
search succeeds as before, and with the same text. -/
theorem run_ok_iff_of_reordered (h : Reordered queries others reply other)
    (hreply : ∀ batch, Batch.ofQueries queries = .ok batch →
      (service.backend.exchange pauses script batch).result = .ok reply)
    (hother : ∀ batch, Batch.ofQueries others = .ok batch →
      (service.backend.exchange pauses' script' batch).result = .ok other) (text : String) :
    (run service pauses script (fun _ => .ok rules) queries).result = .ok text ↔
      (run service pauses' script' (fun _ => .ok rules) others).result = .ok text :=
  ⟨run_ok_of_reordered h hreply hother, run_ok_of_reordered h.symm hother hreply⟩

end

/-! ## two queries, either way round -/

/-- A query that asks for an index by its name. -/
def byIndex : Query :=
  { id := "phones", index := some "products", body := some (.object []) }

/-- A query that asks for the same index by its alias, and for suggestions. -/
def byAlias : Query :=
  { id := "titles", kind := .suggestion, index := some "catalog", body := some (.object []) }

def replyOf (responses : List Json) : Fields :=
  [("responses", .array responses), ("took", .ofNat 7)]

/-- A backend that gives that reply. -/
def scriptOf (reply : Fields) : Backend.Script :=
  fun _ => .complete 200 (Alias.utf8 (Json.object reply).compact)

/-- The search at that backend, with a value promoted in the plain searches. -/
def promotedRun (queries : List Query) (reply : Fields) : Outcome :=
  run catalogService (fun _ => 0) (scriptOf reply)
    (fun _ => .ok [{ promote := some (.bool true) }]) queries

def thisWay : Fields := replyOf [resultOf [documentOf "products"], resultOf []]

def otherWay : Fields := replyOf [resultOf [], resultOf [documentOf "products"]]

/-- One query by index and one by alias, in both orders. -/
theorem run_ok_iff_of_reordered_catalog :
    Alias.Table.ofPairs [("products", "catalog")] = .ok catalogService.aliases ∧
      Reordered [byIndex, byAlias] [byAlias, byIndex] thisWay otherWay ∧
      ∃ text, (promotedRun [byIndex, byAlias] thisWay).result = .ok text ∧
        (promotedRun [byAlias, byIndex] otherWay).result = .ok text := by
  have hreordered : Reordered [byIndex, byAlias] [byAlias, byIndex] thisWay otherWay :=
    { responses := .inl ⟨[(byIndex, resultOf [documentOf "products"]), (byAlias, resultOf [])],
        [(byAlias, resultOf []), (byIndex, resultOf [documentOf "products"])],
        List.Perm.swap _ _ _, rfl, rfl, rfl, rfl⟩
      rest := fun key hkey => by simp [thisWay, otherWay, replyOf, Fields.find?_cons, hkey] }
  have hreply : ∀ batch, Batch.ofQueries [byIndex, byAlias] = .ok batch →
      (catalogService.backend.exchange (fun _ => 0) (scriptOf thisWay) batch).result =
        .ok thisWay := by
    intro batch hbatch
    cases hbatch
    decide +kernel
  have hother : ∀ batch, Batch.ofQueries [byAlias, byIndex] = .ok batch →
      (catalogService.backend.exchange (fun _ => 0) (scriptOf otherWay) batch).result =
        .ok otherWay := by
    intro batch hbatch
    cases hbatch
    decide +kernel
  cases h : (promotedRun [byIndex, byAlias] thisWay).result with
  | error e =>
      have hok : (promotedRun [byIndex, byAlias] thisWay).result.isOk = true := by decide +kernel
      rw [h] at hok
      cases hok
  | ok text =>
      have hsame := (run_ok_iff_of_reordered hreordered hreply hother text).mp h
      exact ⟨rfl, hreordered, text, rfl, hsame⟩

end SearchRelay.Search
