import SearchRelay.Batch
import SearchRelay.Proofs.Except

/-!
# SearchRelay.Proofs.Batch

What the check of a list of queries promises about its batch: the batch holds
the same queries in the same order (`queries_of_ofQueries`), no id occurs twice
(`nodup_ids`), and no id is one of the reserved ones (`not_mem_reservedIds`).

The check goes through the queries with the ids before them at hand, so the
invariant (`ids_of_payloadFrom`) is about a rest of the list and what stands
before it.

Each query has to be accepted by itself, and the ids have to differ
(`payloadFrom_ok_iff`).  So the options of a query of a batch are without fault
(`suggestionOptions_ne_error`), and whether a list makes a batch does not depend
on its order (`ofQueries_perm`).
-/

namespace SearchRelay.Batch

/-- An id without a fault is neither reserved nor among those before it. -/
theorem fresh_of_idFault?_eq_none {seen : List String} {id : String}
    (h : idFault? seen id = none) : id ∉ reservedIds ∧ id ∉ seen := by
  unfold idFault? at h
  split at h
  · contradiction
  · split at h
    · contradiction
    · next hreserved =>
      split at h
      · contradiction
      · next hseen => exact ⟨by simpa using hreserved, by simpa using hseen⟩

theorem idFault?_of_checked {seen : List String} {q : Query} {text : String}
    (h : checked seen q = .ok text) : idFault? seen q.id = none := by
  cases hfault : idFault? seen q.id with
  | none => rfl
  | some fault =>
      rw [checked, hfault, Except.bind_eq_ok] at h
      obtain ⟨_, hthrow, _⟩ := h
      exact absurd hthrow Except.throw_ne_ok

/-- The id of a query that is accepted is new and not reserved. -/
theorem fresh_of_checked {seen : List String} {q : Query} {text : String}
    (h : checked seen q = .ok text) : q.id ∉ reservedIds ∧ q.id ∉ seen :=
  fresh_of_idFault?_eq_none (idFault?_of_checked h)

/-- The queries of a checked rest have ids of their own, none of them reserved. -/
theorem ids_of_payloadFrom {seen : List String} {qs : List Query} {text : String}
    (h : payloadFrom seen qs = .ok text) :
    (qs.map Query.id).Nodup ∧ ∀ id ∈ qs.map Query.id, id ∉ reservedIds ∧ id ∉ seen := by
  induction qs generalizing seen text with
  | nil => simp
  | cons q qs ih =>
      rw [payloadFrom, Except.bind_eq_ok] at h
      obtain ⟨first, hfirst, h⟩ := h
      rw [Except.bind_eq_ok] at h
      obtain ⟨rest, hrest, _⟩ := h
      obtain ⟨hnodup, hfresh⟩ := ih hrest
      rw [List.map_cons]
      constructor
      · refine List.nodup_cons.mpr ⟨?_, hnodup⟩
        exact fun hmem => (hfresh q.id hmem).2 List.mem_cons_self
      · intro id hid
        rcases List.mem_cons.mp hid with rfl | hmem
        · exact fresh_of_checked hfirst
        · have hid := hfresh id hmem
          exact ⟨hid.1, fun hseen => hid.2 (List.mem_cons_of_mem _ hseen)⟩

/-- A batch holds the queries that it was made of, and they were checked. -/
theorem payloadFrom_of_ofQueries {queries : List Query} {batch : Batch}
    (h : ofQueries queries = .ok batch) :
    payloadFrom [] queries = .ok batch.payload ∧ batch.queries = queries := by
  unfold ofQueries at h
  split at h
  · contradiction
  · obtain ⟨payload, hp, rfl⟩ := Except.map_eq_ok.mp h
    exact ⟨hp, rfl⟩

/-- A batch is made of the queries as they are. -/
theorem queries_of_ofQueries {queries : List Query} {batch : Batch}
    (h : ofQueries queries = .ok batch) : batch.queries = queries :=
  (payloadFrom_of_ofQueries h).2

/-- The ids of a batch are distinct, and none is reserved. -/
theorem ids_of_ofQueries {queries : List Query} {batch : Batch}
    (h : ofQueries queries = .ok batch) :
    batch.ids.Nodup ∧ ∀ id ∈ batch.ids, id ∉ reservedIds := by
  obtain ⟨hp, hq⟩ := payloadFrom_of_ofQueries h
  obtain ⟨hnodup, hfresh⟩ := ids_of_payloadFrom hp
  rw [ids, hq]
  exact ⟨hnodup, fun id hid => (hfresh id hid).1⟩

/-- No two queries of a batch have the same id. -/
theorem nodup_ids {queries : List Query} {batch : Batch} (h : ofQueries queries = .ok batch) :
    batch.ids.Nodup := (ids_of_ofQueries h).1

/-- No two queries that make a batch have the same id. -/
theorem nodup_queries {queries : List Query} {batch : Batch} (h : ofQueries queries = .ok batch) :
    (queries.map Query.id).Nodup := by
  have hids := nodup_ids h
  rwa [ids, queries_of_ofQueries h] at hids

/-- No query of a batch has a reserved id. -/
theorem not_mem_reservedIds {queries : List Query} {batch : Batch}
    (h : ofQueries queries = .ok batch) {id : String} (hid : id ∈ batch.ids) :
    id ≠ "settings" ∧ id ≠ "error" := by
  have := (ids_of_ofQueries h).2 id hid
  simpa [reservedIds] using this

/-! ## queries by themselves -/

/-- A query is accepted where no id stands before its own. -/
def Accepted (q : Query) : Prop := ∃ text, checked [] q = .ok text

/-- An id is in order by itself and in view of the ids before it. -/
theorem idFault?_eq_none_iff (seen : List String) (id : String) :
    idFault? seen id = none ↔ idFault? [] id = none ∧ id ∉ seen := by
  constructor
  · intro h
    refine ⟨?_, (fresh_of_idFault?_eq_none h).2⟩
    unfold idFault? at h ⊢
    split at h
    · contradiction
    · next hblank =>
      split at h
      · contradiction
      · next hreserved => rw [if_neg hblank, if_neg hreserved, if_neg (by simp)]
  · rintro ⟨h, hseen⟩
    unfold idFault? at h ⊢
    split at h
    · contradiction
    · next hblank =>
      split at h
      · contradiction
      · next hreserved => rw [if_neg hblank, if_neg hreserved, if_neg (by simpa using hseen)]

/-- The ids before a query matter only if its own is among them. -/
theorem checked_eq_ok_iff {seen : List String} {q : Query} {text : String} :
    checked seen q = .ok text ↔ checked [] q = .ok text ∧ q.id ∉ seen := by
  constructor
  · intro h
    have hfault := idFault?_of_checked h
    obtain ⟨hnone, hseen⟩ := (idFault?_eq_none_iff seen q.id).mp hfault
    refine ⟨?_, hseen⟩
    rw [checked, hfault] at h
    rw [checked, hnone]
    exact h
  · rintro ⟨h, hseen⟩
    have hnone := idFault?_of_checked h
    have hfault := (idFault?_eq_none_iff seen q.id).mpr ⟨hnone, hseen⟩
    rw [checked, hnone] at h
    rw [checked, hfault]
    exact h

/-- A rest of a list is accepted if and only if its queries are, and no id
occurs twice or stands before it. -/
theorem payloadFrom_ok_iff {seen : List String} {qs : List Query} :
    (∃ text, payloadFrom seen qs = .ok text) ↔
      (∀ q ∈ qs, Accepted q) ∧ (qs.map Query.id).Nodup ∧ ∀ id ∈ qs.map Query.id, id ∉ seen := by
  induction qs generalizing seen with
  | nil => simp [payloadFrom]
  | cons q qs ih =>
      constructor
      · rintro ⟨text, h⟩
        obtain ⟨hnodup, hfresh⟩ := ids_of_payloadFrom h
        refine ⟨?_, hnodup, fun id hid => (hfresh id hid).2⟩
        rw [payloadFrom, Except.bind_eq_ok] at h
        obtain ⟨first, hfirst, h⟩ := h
        rw [Except.bind_eq_ok] at h
        obtain ⟨rest, hrest, _⟩ := h
        refine List.forall_mem_cons.mpr ⟨⟨first, (checked_eq_ok_iff.mp hfirst).1⟩, ?_⟩
        exact (ih.mp ⟨rest, hrest⟩).1
      · rintro ⟨haccepted, hnodup, hfresh⟩
        obtain ⟨⟨first, hfirst⟩, haccepted⟩ := List.forall_mem_cons.mp haccepted
        rw [List.map_cons] at hnodup hfresh
        obtain ⟨hq, hnodup⟩ := List.nodup_cons.mp hnodup
        have hfirst : checked seen q = .ok first :=
          checked_eq_ok_iff.mpr ⟨hfirst, hfresh q.id List.mem_cons_self⟩
        have hrest : ∀ id ∈ qs.map Query.id, id ∉ q.id :: seen := by
          intro id hid hmem
          rcases List.mem_cons.mp hmem with rfl | hmem
          · exact hq hid
          · exact hfresh id (List.mem_cons_of_mem _ hid) hmem
        obtain ⟨rest, hrest⟩ := ih.mpr ⟨haccepted, hnodup, hrest⟩
        refine ⟨first ++ rest, ?_⟩
        rw [payloadFrom, Except.bind_eq_ok]
        refine ⟨first, hfirst, ?_⟩
        rw [Except.bind_eq_ok]
        exact ⟨rest, hrest, rfl⟩

/-- The check of the options is made again for the answer; it cannot fail
there. -/
theorem suggestionOptions_ne_error {queries : List Query} {batch : Batch}
    (h : ofQueries queries = .ok batch) {q : Query} (hq : q ∈ batch.queries)
    (hkind : q.kind = .suggestion) (fault : RequestFault) : q.suggestionOptions ≠ .error fault := by
  obtain ⟨hpayload, hqueries⟩ := payloadFrom_of_ofQueries h
  rw [hqueries] at hq
  obtain ⟨text, htext⟩ := (payloadFrom_ok_iff.mp ⟨_, hpayload⟩).1 q hq
  have hfault := idFault?_of_checked htext
  intro hoptions
  simp [checked, hfault, hkind, hoptions, bind, Except.bind] at htext

/-! ## the order of the queries -/

/-- Whether queries make a batch does not depend on their order. -/
theorem ofQueries_perm {queries others : List Query} (hperm : queries.Perm others)
    {batch : Batch} (h : ofQueries queries = .ok batch) :
    ∃ other, ofQueries others = .ok other := by
  have hnonempty : others.isEmpty = false := by
    have hqueries : queries.isEmpty = false := by
      cases hempty : queries.isEmpty with
      | false => rfl
      | true => simp [ofQueries, hempty] at h
    rw [← hqueries, Bool.eq_iff_iff, List.isEmpty_iff_length_eq_zero,
      List.isEmpty_iff_length_eq_zero, hperm.length_eq]
  obtain ⟨haccepted, hnodup, -⟩ :=
    payloadFrom_ok_iff.mp ⟨batch.payload, (payloadFrom_of_ofQueries h).1⟩
  obtain ⟨payload, hpayload⟩ := payloadFrom_ok_iff.mpr
    ⟨fun q hq => haccepted q (hperm.mem_iff.mpr hq),
      (hperm.map Query.id).nodup_iff.mp hnodup, fun _ _ => List.not_mem_nil⟩
  exact ⟨⟨others, payload⟩, by simp [ofQueries, hnonempty, hpayload, Except.map]⟩

/-! ## the indices of a batch -/

/-- What occurs occurs a first time. -/
theorem mem_firstOccurrences {α : Type} [DecidableEq α] {as : List α} {a : α} :
    a ∈ firstOccurrences as ↔ a ∈ as := by
  induction as with
  | nil => simp [firstOccurrences]
  | cons b as ih =>
      rw [firstOccurrences, List.mem_cons, List.mem_cons, List.mem_filter, ih]
      by_cases h : a = b <;> simp [h]

/-- The same queries in another order ask for the same indices. -/
theorem mem_indices_of_perm {batch other : Batch} (hperm : batch.queries.Perm other.queries)
    (index : String) : index ∈ batch.indices ↔ index ∈ other.indices := by
  rw [indices, indices, mem_firstOccurrences, mem_firstOccurrences]
  exact (hperm.filterMap Query.index).mem_iff

end SearchRelay.Batch
