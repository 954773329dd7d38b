import Mathlib.Data.List.Nodup
import SearchRelay.Proofs.Alias
import SearchRelay.Proofs.Except

/-!
# SearchRelay.Proofs.Alias.Plan

What the substitutions of a search depend on.

1. In a table index and alias determine each other
   (`Table.aliasOf?_of_indexOf?`), so what is replaced by a name is settled by
   the name that is replaced.
2. A plan therefore holds the renaming of every name that is asked for,
   whatever the order (`mem_renamings_iff`).
3. Of two names that match at one place one is longer, so the longest match
   depends on the set of substitutions only (`longest?_congr`).

Plans for the same names in any order thus hold the same substitutions and
replace the same (`translate_plan_of_sameNames`).
-/

namespace SearchRelay.Alias

open Substitution Text.Utf8

/-! ## tables -/

namespace Table

/-- Where keys are distinct, the look-up finds every pair. -/
theorem lookup_of_mem {pairs : List (String × String)} (hpairs : (pairs.map Prod.fst).Nodup)
    {pair : String × String} (h : pair ∈ pairs) : pairs.lookup pair.1 = some pair.2 := by
  induction pairs with
  | nil => contradiction
  | cons first pairs ih =>
      rw [List.map_cons] at hpairs
      obtain ⟨hfirst, hpairs⟩ := List.nodup_cons.mp hpairs
      rw [List.lookup_cons]
      rcases List.mem_cons.mp h with rfl | h
      · simp
      · have hne : (pair.1 == first.1) = false :=
          beq_false_of_ne fun heq => hfirst (heq ▸ List.mem_map_of_mem h)
        rw [hne]
        exact ih hpairs h

/-- An alias that is found belongs to a pair. -/
theorem mem_of_aliasOf? {t : Table} {index name : String} (h : t.aliasOf? index = some name) :
    (index, name) ∈ t.pairs := by
  obtain ⟨before, after, hsplit, -⟩ := List.lookup_eq_some_iff.mp h
  simp [hsplit]

/-- The index behind an alias has that alias. -/
theorem aliasOf?_of_indexOf? {t : Table} {name index : String}
    (h : t.indexOf? name = some index) : t.aliasOf? index = some name := by
  obtain ⟨pair, hpair, rfl⟩ := Option.map_eq_some_iff.mp h
  have hname : pair.2 = name := by simpa using List.find?_some hpair
  rw [← hname]
  exact lookup_of_mem t.distinct.indices (List.mem_of_find?_eq_some hpair)

end Table

/-! ## the renamings of a search -/

section

variable {t : Table}

/-- What is replaced determines by what. -/
theorem aliasOf?_of_renaming? {name : String} {r : String × String}
    (h : renaming? t name = some r) : t.aliasOf? r.1 = some r.2 := by
  unfold renaming? at h
  split at h
  · next target htarget =>
    injection h with h
    exact h ▸ htarget
  · next index hindex =>
    injection h with h
    exact h ▸ Table.aliasOf?_of_indexOf? hindex
  · contradiction

/-- A step adds the renaming of its name, if that changes anything. -/
theorem mem_addRenaming_iff {done : List (String × String)}
    (hdone : ∀ r ∈ done, t.aliasOf? r.1 = some r.2) (name : String) (r : String × String) :
    r ∈ addRenaming t done name ↔ r ∈ done ∨ (r.1 ≠ r.2 ∧ renaming? t name = some r) := by
  unfold addRenaming
  split
  · next hnone => simp [hnone]
  · next s hs =>
    rw [hs, Option.some.injEq]
    split
    · next hold =>
      constructor
      · exact .inl
      · rintro (h | ⟨hne, rfl⟩)
        · exact h
        · -- the one that is there already is the same
          obtain ⟨p, hp, hsource⟩ := List.any_eq_true.mp (hold.resolve_left hne)
          have hsource : p.1 = s.1 := by simpa using hsource
          have htarget : some p.2 = some s.2 := by
            rw [← hdone p hp, ← aliasOf?_of_renaming? hs, hsource]
          rwa [← Prod.ext hsource (Option.some.inj htarget)]
    · next hnew =>
      rw [List.mem_append, List.mem_singleton]
      constructor
      · rintro (h | rfl)
        · exact .inl h
        · exact .inr ⟨(not_or.mp hnew).1, rfl⟩
      · rintro (h | ⟨_, rfl⟩)
        · exact .inl h
        · exact .inr rfl

/-- A search replaces what the names that it asks for are replaced by. -/
theorem mem_renamings_iff (names : List String) (r : String × String) :
    r ∈ renamings names t ↔ r.1 ≠ r.2 ∧ ∃ name ∈ names, renaming? t name = some r := by
  have hfold : ∀ done : List (String × String), (∀ r ∈ done, t.aliasOf? r.1 = some r.2) →
      (r ∈ names.foldl (addRenaming t) done ↔
        r ∈ done ∨ (r.1 ≠ r.2 ∧ ∃ name ∈ names, renaming? t name = some r)) := by
    induction names with
    | nil => simp
    | cons name names ih =>
        intro done hdone
        have hstep : ∀ r ∈ addRenaming t done name, t.aliasOf? r.1 = some r.2 := by
          intro s hs
          rcases (mem_addRenaming_iff hdone name s).mp hs with hs | ⟨_, hs⟩
          · exact hdone s hs
          · exact aliasOf?_of_renaming? hs
        rw [List.foldl_cons, ih _ hstep, mem_addRenaming_iff hdone]
        simp only [List.mem_cons, exists_eq_or_imp, or_assoc, ← and_or_left]
  rw [renamings, hfold [] (by simp)]
  simp

end

/-! ## the order of the substitutions -/

/- Of several names that begin a text the longest is taken, and names of one length that
begin the same text are equal. So the order of the substitutions does not matter. -/

section

variable {α : Type} [DecidableEq α] {mark : α} {subs others : List (Substitution α)}

omit [DecidableEq α] in
/-- A longest match is the only one. -/
theorem eq_of_isLongest {text : List α} {found other : Option (Substitution α)}
    (hsource : ∀ s ∈ subs, ∀ r ∈ subs, s.source = r.source → s = r)
    (hfound : IsLongest mark subs text found) (hother : IsLongest mark subs text other) :
    found = other := by
  cases found with
  | none =>
      cases other with
      | none => rfl
      | some r => exact absurd hother.2.1 (hfound r hother.1)
  | some s =>
      cases other with
      | none => exact absurd hfound.2.1 (hother s hfound.1)
      | some r =>
          obtain ⟨hs, hsmatch, hsmax⟩ := hfound
          obtain ⟨hr, hrmatch, hrmax⟩ := hother
          have hlength : (quoteName mark s.source).length = (quoteName mark r.source).length := by
            simp [quoteName, Nat.le_antisymm (hrmax s hs hsmatch) (hsmax r hr hrmatch)]
          have hquote : quoteName mark s.source = quoteName mark r.source :=
            (List.prefix_of_prefix_length_le hsmatch hrmatch (Nat.le_of_eq hlength)).eq_of_length
              hlength
          have hname : s.source = r.source := by simpa [quoteName] using hquote
          exact congrArg some (hsource s hs r hr hname)

/-- The longest match depends on the set of substitutions only. -/
theorem longest?_congr (hmem : ∀ s, s ∈ subs ↔ s ∈ others)
    (hsource : ∀ s ∈ subs, ∀ r ∈ subs, s.source = r.source → s = r) (text : List α) :
    longest? mark subs text = longest? mark others text := by
  have hothers : IsLongest mark subs text (longest? mark others text) := by
    have h := isLongest_longest? mark others text
    cases hfound : longest? mark others text with
    | none =>
        rw [hfound] at h
        exact fun s hs => h s ((hmem s).mp hs)
    | some s =>
        rw [hfound] at h
        exact ⟨(hmem s).mpr h.1, h.2.1, fun r hr => h.2.2 r ((hmem r).mp hr)⟩
  exact eq_of_isLongest hsource (isLongest_longest? mark subs text) hothers

/-- Only the longest match at each place counts for what is replaced. -/
theorem translateFrom_congr (h : ∀ text, longest? mark subs text = longest? mark others text)
    (skip : Nat) (text : List α) :
    translateFrom mark subs skip text = translateFrom mark others skip text := by
  induction text generalizing skip with
  | nil => simp [translateFrom]
  | cons a rest ih =>
      cases skip with
      | zero =>
          rw [translateFrom, translateFrom, h]
          cases longest? mark others (a :: rest) with
          | none => rw [ih]
          | some s => dsimp only; rw [ih]
      | succ skip => rw [translateFrom, translateFrom, ih]

end

/-! ## plans -/

section

variable {t : Table} {names others : List String}

/-- The substitutions of a search are entries of the table. -/
theorem exists_pair_of_mem_plan {s : Substitution UInt8} (hs : s ∈ plan names t) :
    ∃ pair ∈ t.pairs, s = .ofNames pair.1 pair.2 := by
  rw [plan_eq_map_renamings] at hs
  obtain ⟨pair, hpair, rfl⟩ := List.mem_map.mp hs
  obtain ⟨_, _, _, hname⟩ := (mem_renamings_iff names pair).mp hpair
  exact ⟨pair, Table.mem_of_aliasOf? (aliasOf?_of_renaming? hname), rfl⟩

/-- The index of a substitution determines it, as it occurs in one pair only. -/
theorem eq_of_source_eq {s r : Substitution UInt8} (hs : s ∈ plan names t)
    (hr : r ∈ plan names t) (h : s.source = r.source) : s = r := by
  obtain ⟨p, hp, rfl⟩ := exists_pair_of_mem_plan hs
  obtain ⟨q, hq, rfl⟩ := exists_pair_of_mem_plan hr
  rw [List.inj_on_of_nodup_map t.distinct.indices hp hq (utf8_inj.mp h)]

/-- So does its alias. -/
theorem eq_of_target_eq {s r : Substitution UInt8} (hs : s ∈ plan names t)
    (hr : r ∈ plan names t) (h : s.target = r.target) : s = r := by
  obtain ⟨p, hp, rfl⟩ := exists_pair_of_mem_plan hs
  obtain ⟨q, hq, rfl⟩ := exists_pair_of_mem_plan hr
  rw [List.inj_on_of_nodup_map t.distinct.aliases hp hq (utf8_inj.mp h)]

variable (hnames : ∀ name, name ∈ names ↔ name ∈ others)
include hnames

/-- Plans for the same names hold the same substitutions. -/
theorem mem_plan_congr (s : Substitution UInt8) : s ∈ plan names t ↔ s ∈ plan others t := by
  have hrenamings : ∀ r, r ∈ renamings names t ↔ r ∈ renamings others t := by
    intro r
    rw [mem_renamings_iff, mem_renamings_iff]
    simp only [hnames]
  simp only [plan_eq_map_renamings, List.mem_map, hrenamings]

/-- Plans for the same names replace the same. -/
theorem translate_plan_congr : translate (plan names t) = translate (plan others t) := by
  funext text
  have hsource : ∀ s ∈ plan names t, ∀ r ∈ plan names t, s.source = r.source → s = r :=
    fun s hs r hr => eq_of_source_eq hs hr
  exact translateFrom_congr (longest?_congr (mem_plan_congr hnames) hsource) 0 text

omit hnames in
/-- No substitution stands twice in a plan. -/
theorem nodup_plan (names : List String) (t : Table) : (plan names t).Nodup := by
  rw [plan_eq_map_renamings]
  refine List.Nodup.map_on ?_ (List.Nodup.of_map _ (renamings_distinct names t).1)
  intro p _ q _ heq
  have hsource : p.1 = q.1 := utf8_inj.mp (congrArg source heq)
  have htarget : p.2 = q.2 := utf8_inj.mp (congrArg target heq)
  exact Prod.ext hsource htarget

/-- Plans for the same names are empty together. -/
theorem isEmpty_plan_congr : (plan names t).isEmpty = (plan others t).isEmpty := by
  rw [Bool.eq_iff_iff, List.isEmpty_iff, List.isEmpty_iff, List.eq_nil_iff_forall_not_mem,
    List.eq_nil_iff_forall_not_mem]
  simp only [mem_plan_congr hnames]

end

/-- **The order of the names does not matter**, nor how often one is asked for:
the plans hold the same substitutions, and replace the same in every text. -/
theorem translate_plan_of_sameNames {t : Table} {names others : List String}
    (hnames : ∀ name, name ∈ names ↔ name ∈ others) :
    (plan names t).Perm (plan others t) ∧
      ∀ text, translate (plan names t) text = translate (plan others t) text := by
  have hperm : (plan names t).Perm (plan others t) :=
    (List.perm_ext_iff_of_nodup (nodup_plan names t) (nodup_plan others t)).mpr
      (mem_plan_congr hnames)
  exact ⟨hperm, congrFun (translate_plan_congr hnames)⟩

/-- Indices and aliases in a chain, and one index whose name in quotes begins
like that of another. -/
def chainTable : Table :=
  ⟨[("a", "b"), ("b", "c"), ("a\",\"b", "d"), ("products", "catalog")], by decide⟩

/-- An index, one that begins like it, and one by its name and its alias. -/
def askedNames : List String := ["a", "products", "a\",\"b", "catalog"]

/-- The same names in another order, one of them twice. -/
def askedAgain : List String := ["catalog", "a\",\"b", "a", "products", "a"]

/-- A chain of aliases is translated alike whichever name is asked for first. -/
theorem translate_plan_of_sameNames_chain :
    Table.ofPairs chainTable.pairs = .ok chainTable ∧
      (∀ name, name ∈ askedNames ↔ name ∈ askedAgain) ∧
      (plan askedNames chainTable).Perm (plan askedAgain chainTable) ∧
      translate (plan askedNames chainTable) (utf8 "[\"a\",\"b\",\"a\"]") =
        utf8 "[\"d\",\"b\"]" ∧
      translate (plan askedAgain chainTable) (utf8 "[\"a\",\"b\",\"a\"]") =
        utf8 "[\"d\",\"b\"]" := by
  have hnames : ∀ name, name ∈ askedNames ↔ name ∈ askedAgain := by
    intro name
    simp only [askedNames, askedAgain, List.mem_cons, List.not_mem_nil, or_false]
    tauto
  obtain ⟨hperm, htext⟩ := @translate_plan_of_sameNames chainTable _ _ hnames
  have hthis : translate (plan askedNames chainTable) (utf8 "[\"a\",\"b\",\"a\"]") =
      utf8 "[\"d\",\"b\"]" := by decide +kernel
  exact ⟨rfl, hnames, hperm, hthis, (htext _).symm.trans hthis⟩

end SearchRelay.Alias
