import Mathlib.Data.List.Induction
import SearchRelay.Proofs.Alias.Plan

/-!
# SearchRelay.Proofs.Alias.Table

Tables of aliases as bijections.

1. An entry is added if and only if its index and its alias are new
   (`insert_eq_ok_iff`, `insert_eq_error_iff`).
2. So pairs make a table if and only if no index and no alias occurs twice
   (`ofPairs_eq_ok_iff`), and otherwise the first pair that repeats one of them
   is reported (`ofPairs_eq_error_iff`).
3. Look-ups in such a table, in either direction, find the pairs of the list and
   nothing else (`aliasOf?_eq_some_iff`, `indexOf?_eq_some_iff`).

`law_ofPairs` puts these together.
-/

namespace SearchRelay.Alias.Table

/-- A table that relates the indices and the aliases of pairs, one to one. -/
structure Relates (t : Table) (pairs : List (String × String)) : Prop where
  aliasOf : ∀ index name, t.aliasOf? index = some name ↔ (index, name) ∈ pairs
  indexOf : ∀ index name, t.indexOf? name = some index ↔ (index, name) ∈ pairs
  size : t.size = pairs.length

/-- What is reported about a list of pairs: the first one that repeats an alias or
an index, and the alias if it repeats both. -/
inductive FirstFault (pairs : List (String × String)) : Fault → Prop
  | aliasTaken {before after : List (String × String)} {index name : String}
      (hpairs : pairs = before ++ (index, name) :: after) (hbefore : Distinct before)
      (hname : name ∈ before.map Prod.snd) : FirstFault pairs (.aliasTaken name)
  | indexTaken {before after : List (String × String)} {index name : String}
      (hpairs : pairs = before ++ (index, name) :: after) (hbefore : Distinct before)
      (hname : name ∉ before.map Prod.snd) (hindex : index ∈ before.map Prod.fst) :
      FirstFault pairs (.indexTaken index)

/-- What there is to know about the table of a list of pairs. -/
structure Law (pairs : List (String × String)) : Prop where
  made : (∃ t, ofPairs pairs = .ok t) ↔ Distinct pairs
  relates : ∀ t, ofPairs pairs = .ok t → t.Relates pairs
  refused : ∀ error, (ofPairs pairs).mapError Fault.error = .error error ↔
    ∃ fault, FirstFault pairs fault ∧ error = .config fault.reason

/-! ## making a table -/

variable {t : Table} {pairs : List (String × String)} {entry : String × String}

/-- An entry is added just if its index and its alias are new, and behind the others. -/
theorem insert_eq_ok_iff {larger : Table} :
    t.insert entry = .ok larger ↔ entry.1 ∉ t.pairs.map Prod.fst ∧
      entry.2 ∉ t.pairs.map Prod.snd ∧ larger.pairs = t.pairs ++ [entry] := by
  rw [insert, ← isSome_aliasOf?_iff, ← isSome_indexOf?_iff]
  split
  · next halias => exact iff_of_false nofun fun h => h.2.1 halias
  · next halias =>
    split
    · next hindex => exact iff_of_false nofun fun h => h.1 hindex
    · next hindex =>
      rw [Except.ok.injEq, Table.ext_iff, eq_comm]
      exact ⟨fun h => ⟨hindex, halias, h⟩, fun h => h.2.2⟩

/-- Otherwise its alias is reported if that is taken, and else its index. -/
theorem insert_eq_error_iff {fault : Fault} :
    t.insert entry = .error fault ↔
      (entry.2 ∈ t.pairs.map Prod.snd ∧ fault = .aliasTaken entry.2) ∨
        (entry.2 ∉ t.pairs.map Prod.snd ∧ entry.1 ∈ t.pairs.map Prod.fst ∧
          fault = .indexTaken entry.1) := by
  rw [insert, ← isSome_aliasOf?_iff, ← isSome_indexOf?_iff]
  split
  · next halias =>
    rw [Except.error.injEq, eq_comm]
    exact ⟨fun h => .inl ⟨halias, h⟩, fun h => h.elim And.right fun h => absurd halias h.1⟩
  · next halias =>
    split
    · next hindex =>
      rw [Except.error.injEq, eq_comm]
      exact ⟨fun h => .inr ⟨halias, hindex, h⟩, fun h => h.elim (fun h => absurd h.1 halias)
        fun h => h.2.2⟩
    · next hindex =>
      exact iff_of_false nofun fun h => h.elim (fun h => halias h.1) fun h => hindex h.2.1

/-- Pairs make a table if and only if none of them repeats an index or an alias,
and the table holds the pairs. -/
theorem ofPairs_eq_ok_iff : ofPairs pairs = .ok t ↔ t.pairs = pairs := by
  induction pairs using List.reverseRecOn generalizing t with
  | nil =>
      rw [ofPairs, List.foldlM_nil, Except.pure_eq_ok, Table.ext_iff, eq_comm]
      rfl
  | append_singleton pairs entry ih =>
      rw [ofPairs, List.foldlM_append, Except.bind_eq_ok]
      simp only [List.foldlM_cons, List.foldlM_nil, bind_pure, insert_eq_ok_iff]
      constructor
      · rintro ⟨done, hdone, -, -, hpairs⟩
        rw [hpairs, ih.mp hdone]
      · intro hpairs
        obtain ⟨hfront, hindex, halias⟩ := distinct_concat_iff.mp (hpairs ▸ t.distinct)
        exact ⟨⟨pairs, hfront⟩, ih.mpr rfl, hindex, halias, hpairs⟩

/-- Pairs without repetitions make a table. -/
theorem ofPairs_of_distinct (h : Distinct pairs) : ofPairs pairs = .ok ⟨pairs, h⟩ :=
  ofPairs_eq_ok_iff.mpr rfl

/-- Other pairs fail at the first one that repeats a name. -/
theorem ofPairs_eq_error_iff {fault : Fault} :
    ofPairs pairs = .error fault ↔ FirstFault pairs fault := by
  rw [ofPairs, Except.foldlM_eq_error_iff]
  constructor
  · rintro ⟨before, ⟨index, name⟩, after, t, hpairs, hbefore, h⟩
    obtain rfl := ofPairs_eq_ok_iff.mp hbefore
    have hdistinct := t.distinct
    rcases insert_eq_error_iff.mp h with ⟨hname, rfl⟩ | ⟨hname, hindex, rfl⟩
    · exact .aliasTaken hpairs hdistinct hname
    · exact .indexTaken hpairs hdistinct hname hindex
  · intro h
    cases h with
    | aliasTaken hpairs hbefore hname =>
        exact ⟨_, _, _, _, hpairs, ofPairs_of_distinct hbefore,
          insert_eq_error_iff.mpr (.inl ⟨hname, rfl⟩)⟩
    | indexTaken hpairs hbefore hname hindex =>
        exact ⟨_, _, _, _, hpairs, ofPairs_of_distinct hbefore,
          insert_eq_error_iff.mpr (.inr ⟨hname, hindex, rfl⟩)⟩

/-! ## looking things up -/

/-- The alias of an index is the one it is paired with. -/
theorem aliasOf?_eq_some_iff {index name : String} :
    t.aliasOf? index = some name ↔ (index, name) ∈ t.pairs :=
  ⟨mem_of_aliasOf?, fun h => lookup_of_mem t.distinct.indices h⟩

/-- The index behind an alias is the one it is paired with. -/
theorem indexOf?_eq_some_iff {index name : String} :
    t.indexOf? name = some index ↔ (index, name) ∈ t.pairs := by
  constructor
  · intro h
    exact mem_of_aliasOf? (aliasOf?_of_indexOf? h)
  · intro h
    obtain ⟨other, hother⟩ := Option.isSome_iff_exists.mp
      ((isSome_indexOf?_iff t name).mpr (List.mem_map_of_mem h))
    -- both indices have this alias, which occurs in one pair only
    have hmem := mem_of_aliasOf? (aliasOf?_of_indexOf? hother)
    have hsame := List.inj_on_of_nodup_map t.distinct.aliases hmem h rfl
    rw [hother, (Prod.mk.inj hsame).1]

/-- A table relates the pairs it was made of, and no others. -/
theorem relates_of_ofPairs (h : ofPairs pairs = .ok t) : t.Relates pairs := by
  obtain rfl := ofPairs_eq_ok_iff.mp h
  exact ⟨fun _ _ => aliasOf?_eq_some_iff, fun _ _ => indexOf?_eq_some_iff, rfl⟩

/-- What there is to know holds of every list of pairs. -/
theorem law_ofPairs (pairs : List (String × String)) : Law pairs where
  made := ⟨fun ⟨t, ht⟩ => ofPairs_eq_ok_iff.mp ht ▸ t.distinct, fun h => ⟨_, ofPairs_of_distinct h⟩⟩
  relates := fun _ => relates_of_ofPairs
  refused := by
    intro error
    rw [Except.mapError_eq_error]
    simp only [ofPairs_eq_error_iff]
    exact exists_congr fun fault => and_congr_right fun _ => eq_comm

end SearchRelay.Alias.Table
