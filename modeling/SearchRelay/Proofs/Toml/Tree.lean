import Mathlib.Data.List.Nodup
import SearchRelay.Proofs.Toml.Block

/-!
# SearchRelay.Proofs.Toml.Tree

The tables that the lines of a printed document build.

1. `changeAt_append` — a change at the end of a path is a change at its front;
2. `Place` — where a table stands, so that a change at its path reaches it and
   nothing else;
3. `runs_ofEntries` — the blocks of tables build these tables, the plain
   entries of each in front.
-/

namespace SearchRelay.Toml

namespace Block

/-! ## tables from blocks -/

/-- The entries that stand on lines. -/
def plainNodes (entries : Table) : Entries :=
  (plain entries).map fun entry => (entry.1, .value entry.2)

/-- Where a table with these entries comes from. -/
def originOf (entries : Table) : Origin :=
  if (plain entries).isEmpty ∧ ¬ entries.isEmpty then .implied else .header

mutual

/-- What stands under the headers of a value. -/
def nodeOf : Value → Node
  | .table entries => .table (originOf entries) (plainNodes entries ++ headedNodes entries)
  | .array items => .tables (itemNodes items)
  | v => .value v

/-- The entries that stand under headers. -/
def headedNodes : List (String × Value) → Entries
  | [] => []
  | (key, v) :: rest => (if v.hasHeaders then [(key, nodeOf v)] else []) ++ headedNodes rest

/-- The tables of a list. -/
def itemNodes : List Value → List Entries
  | [] => []
  | .table entries :: rest => (plainNodes entries ++ headedNodes entries) :: itemNodes rest
  | _ :: rest => itemNodes rest

end

/-- The entries of a table, those on lines in front. -/
def nodes (entries : Table) : Entries := plainNodes entries ++ headedNodes entries

end Block

namespace Entries

/-! ## lookup and replacement -/

section

variable {key : String} {entries : Entries}

/-- A new key is found. -/
theorem lookup_append_self (h : entries.lookup key = none) (node : Node) :
    (entries ++ [(key, node)]).lookup key = some node := by
  simp [List.lookup_append, h]

/-- The last entry is replaced where it stands. -/
theorem replace_append_self (h : entries.lookup key = none) (old new : Node) :
    replace key new (entries ++ [(key, old)]) = entries ++ [(key, new)] := by
  have hkeep : ∀ entry ∈ entries, (if entry.1 = key then (key, new) else entry) = entry := by
    intro entry hentry
    have hne : key ≠ entry.1 := by simpa using List.lookup_eq_none_iff.mp h entry hentry
    exact if_neg hne.symm
  rw [replace, List.map_append, List.map_congr_left hkeep]
  simp

end

/-! ## changes at a path -/

/- A header names its table by a path from the top. Everything on the way was put in
last, so a change at the path is a change at the end of each table on the way. -/

/-- A change at the end of a path is a change at its front. -/
theorem changeAt_append (dotted : Bool) (change : Change) (front behind : List String) :
    changeAt dotted change (front ++ behind) =
      changeAt dotted (changeAt dotted change behind) front := by
  induction front with
  | nil => rfl
  | cons key front ih =>
      funext origin entries
      rw [List.cons_append, changeAt, changeAt, ih]

/-- A change turns one table into another, wherever this comes from. -/
def Turns (change : Change) (before after : Entries) : Prop :=
  ∀ origin, change origin before = some (origin, after)

/-- The table at a path, within those that `plug` puts around it.  A table that
is still empty may be left out there, as what a longer header implies. -/
def Place (path : List String) (plug : Entries → Entries) : Prop :=
  ∀ ⦃change : Change⦄ ⦃before after : Entries⦄, after ≠ [] → Turns change before after →
    Turns (changeAt false change path) (plug before) (plug after)

section

variable {change : Change} {before after entries : Entries} {key : String}

/-- A table that is left out while it is empty. -/
def implied (entries : Entries) (key : String) (inner : Entries) : Entries :=
  if inner.isEmpty then entries else entries ++ [(key, .table .implied inner)]

/-- A list of tables that is left out while it is empty. -/
def listed (entries : Entries) (key : String) (all : List Entries) : Entries :=
  if all.isEmpty then entries else entries ++ [(key, .tables all)]

theorem implied_of_ne_nil (entries : Entries) (key : String) {inner : Entries} (h : inner ≠ []) :
    implied entries key inner = entries ++ [(key, .table .implied inner)] :=
  if_neg (by simpa using h)

theorem listed_append (entries : Entries) (key : String) (all : List Entries) (last : Entries) :
    listed entries key (all ++ [last]) = entries ++ [(key, .tables (all ++ [last]))] :=
  if_neg (by simp)

/-- A change within a table under a new key. -/
theorem turns_table (h : entries.lookup key = none) (origin : Origin)
    (hchange : Turns change before after) :
    Turns (changeAt false change [key]) (entries ++ [(key, .table origin before)])
      (entries ++ [(key, .table origin after)]) := by
  intro outer
  rw [changeAt, lookup_append_self h]
  simp [changeAt, hchange origin, replace_append_self h]

/-- A change within a table that is implied while it is empty. -/
theorem turns_implied (h : entries.lookup key = none) (hafter : after ≠ [])
    (hchange : Turns change before after) :
    Turns (changeAt false change [key]) (implied entries key before)
      (implied entries key after) := by
  rw [implied_of_ne_nil entries key hafter]
  by_cases hbefore : before = []
  · subst hbefore
    intro outer
    simp [implied, changeAt, h, hchange .implied]
  · rw [implied_of_ne_nil entries key hbefore]
    exact turns_table h .implied hchange

/-- A change goes into the last table of a list. -/
theorem turns_tables (h : entries.lookup key = none) (all : List Entries)
    (hchange : Turns change before after) :
    Turns (changeAt false change [key]) (entries ++ [(key, .tables (all ++ [before]))])
      (entries ++ [(key, .tables (all ++ [after]))]) := by
  intro outer
  rw [changeAt, lookup_append_self h]
  simp [changeAt, hchange .header, replace_append_self h]

end

namespace Place

variable {path : List String} {plug inner : Entries → Entries} {entries : Entries} {key : String}

theorem root : Place [] id := fun _ _ _ _ hchange => hchange

/-- A table within the table at a path. -/
theorem within (hplug : Place path plug) (hne : ∀ {after}, after ≠ [] → inner after ≠ [])
    (hinner : Place [key] inner) : Place (path ++ [key]) fun all => plug (inner all) := by
  intro change before after hafter hchange
  rw [changeAt_append]
  exact hplug (hne hafter) (hinner hafter hchange)

theorem table (hplug : Place path plug) (h : entries.lookup key = none) :
    Place (path ++ [key]) fun all => plug (entries ++ [(key, .table .header all)]) :=
  hplug.within (by simp) fun _ _ _ _ => turns_table h .header

theorem implied (hplug : Place path plug) (h : entries.lookup key = none) :
    Place (path ++ [key]) fun all => plug (Entries.implied entries key all) := by
  refine hplug.within (fun hafter => ?_) fun _ _ _ hafter => turns_implied h hafter
  rw [implied_of_ne_nil _ _ hafter]
  simp

theorem item (hplug : Place path plug) (h : entries.lookup key = none) (all : List Entries) :
    Place (path ++ [key]) fun last => plug (entries ++ [(key, .tables (all ++ [last]))]) :=
  hplug.within (by simp) fun _ _ _ _ => turns_tables h all

end Place

end Entries

/-! ## lines in turn -/

/-- Lines that turn some tables into others, whatever the current header. -/
def Runs (lines : List Line) (before after : Entries) : Prop :=
  ∀ current, ∃ last, lines.foldlM Progress.add ⟨current, before⟩ = some ⟨last, after⟩

namespace Runs

variable {front behind : List Line} {before middle after : Entries}

theorem nil (entries : Entries) : Runs [] entries entries := fun current => ⟨current, rfl⟩

theorem append (hfront : Runs front before middle) (hbehind : Runs behind middle after) :
    Runs (front ++ behind) before after := by
  intro current
  obtain ⟨next, hnext⟩ := hfront current
  obtain ⟨last, hlast⟩ := hbehind next
  exact ⟨last, by simp [List.foldlM_append, hnext, hlast]⟩

end Runs

namespace Block

open Entries (Place Turns)

section

variable {path : List String} {plug : Entries → Entries} {entries : Entries} {key : String}

theorem keyOf_append (path : List String) (key : String) : keyOf (path ++ [key]) = ⟨path, key⟩ := by
  simp [keyOf]

/-- A value under a new key is added. -/
theorem turns_addValue (h : entries.lookup key = none) (v : Value) :
    Turns (Entries.addValue [] key v) entries (entries ++ [(key, .value v)]) := by
  intro origin
  simp [Entries.addValue, Entries.changeAt, h]

/-- Entries behind a header are put into its table. -/
theorem foldlM_entries (hplug : Place path plug) (new : Table) (hnew : (new.map Prod.fst).Nodup)
    (hfresh : ∀ entry ∈ new, entries.lookup entry.1 = none) :
    (new.map fun entry => Line.entry ⟨[], entry.1⟩ entry.2).foldlM Progress.add
        ⟨path, plug entries⟩ =
      some ⟨path, plug (entries ++ new.map fun entry => (entry.1, Node.value entry.2))⟩ := by
  induction new generalizing entries with
  | nil => simp
  | cons entry new ih =>
      obtain ⟨hfirst, hrest⟩ := List.forall_mem_cons.mp hfresh
      obtain ⟨hnotin, hnew⟩ := List.nodup_cons.mp hnew
      have hturns := hplug (by simp) (turns_addValue hfirst entry.2) .header
      have hnext : ∀ other ∈ new,
          (entries ++ [(entry.1, Node.value entry.2)]).lookup other.1 = none := by
        intro other hother
        have hne : other.1 ≠ entry.1 := fun heq => hnotin (heq ▸ List.mem_map_of_mem hother)
        rw [lookup_append_of_ne hne, hrest other hother]
      have hmore := ih hnew hnext
      rw [List.map_cons, List.foldlM_cons]
      simp [Progress.add, hturns, hmore]

/-- A header and the entries behind it. -/
theorem runs_block (header : Header) (new : Table) (hnew : (new.map Prod.fst).Nodup)
    {before : Entries}
    (hplug : Place path plug)
    (hheader : ∀ current, (headerLines header).foldlM Progress.add ⟨current, before⟩ =
      some ⟨path, plug []⟩) :
    Runs (Block.lines ⟨header, new⟩) before
      (plug (new.map fun entry => (entry.1, Node.value entry.2))) := by
  intro current
  have hentries := @foldlM_entries path plug [] hplug new hnew fun _ _ => rfl
  exact ⟨path, by simp [lines, List.foldlM_append, hheader current, hentries]⟩

/-- The header of a table opens it. -/
theorem foldlM_tableHeader (hplug : Place path plug) (h : entries.lookup key = none)
    (current : List String) :
    (headerLines (.table (path ++ [key]))).foldlM Progress.add ⟨current, plug entries⟩ =
      some ⟨path ++ [key], plug (entries ++ [(key, .table .header [])])⟩ := by
  have hturns : Turns (Entries.openTable path key) (plug entries)
      (plug (entries ++ [(key, .table .header [])])) :=
    hplug (by simp) fun origin => by rw [h]
  simp [headerLines, keyOf_append, Progress.add, hturns .header]

/-- The header of a list adds a table to it. -/
theorem foldlM_listHeader (hplug : Place path plug) (h : entries.lookup key = none)
    (all : List Entries) (current : List String) :
    (headerLines (.list (path ++ [key]))).foldlM Progress.add
        ⟨current, plug (Entries.listed entries key all)⟩ =
      some ⟨path ++ [key], plug (entries ++ [(key, .tables (all ++ [[]]))])⟩ := by
  have hturns : Turns (Entries.addTable path key) (plug (Entries.listed entries key all))
      (plug (entries ++ [(key, .tables (all ++ [[]]))])) := by
    refine hplug (by simp) fun origin => ?_
    cases all with
    | nil => simp [Entries.listed, h]
    | cons first all =>
        simp [Entries.listed, Entries.lookup_append_self h, Entries.replace_append_self h]
  simp [headerLines, keyOf_append, Progress.add, hturns .header]

end

/-! ## blocks in turn -/

/- The blocks of a table are its own entries first and those of its tables behind them,
each table with its own blocks. The induction is on the entries, and the invariant is
the place where the blocks write. -/

/-- No key occurs twice on lines. -/
theorem nodup_plain {entries : Table} (h : (entries.map Prod.fst).Nodup) :
    ((plain entries).map Prod.fst).Nodup :=
  h.sublist (List.Sublist.map _ List.filter_sublist)

/-- The key of a value with headers is none of those on lines. -/
theorem lookup_plainNodes {entries : Table} (h : (entries.map Prod.fst).Nodup) :
    ∀ entry ∈ entries, entry.2.hasHeaders = true → (plainNodes entries).lookup entry.1 = none := by
  intro entry hentry hheaders
  refine List.lookup_eq_none_iff.mpr fun node hnode => ?_
  obtain ⟨other, hother, rfl⟩ := List.mem_map.mp hnode
  obtain ⟨hmem, hplain⟩ := List.mem_filter.mp hother
  have hne : entry.1 ≠ other.1 := by
    intro heq
    have hsame : entry = other := List.inj_on_of_nodup_map h hentry hmem heq
    rw [← hsame, hheaders] at hplain
    cases hplain
  exact bne_iff_ne.mpr hne

theorem hasHeaders_of_isTable {v : Value} (h : v.isTable = true) : v.hasHeaders = true := by
  cases v with
  | table entries => rfl
  | string | integer | double | notFinite | boolean | moment | array => cases h

/-- A table without entries on lines has some under headers, unless it is empty. -/
theorem headedNodes_ne_nil {entries : Table} (hplain : plain entries = []) (h : entries ≠ []) :
    headedNodes entries ≠ [] := by
  cases entries with
  | nil => exact absurd rfl h
  | cons entry rest =>
      have hheaders : entry.2.hasHeaders = true := by
        have hnot := List.filter_eq_nil_iff.mp hplain entry List.mem_cons_self
        simpa using hnot
      simp [headedNodes, hheaders]

/-- A list of tables that is not empty has a table in it. -/
theorem itemNodes_ne_nil {items : List Value} (htables : ∀ v ∈ items, v.isTable = true)
    (h : items ≠ []) : itemNodes items ≠ [] := by
  cases items with
  | nil => exact absurd rfl h
  | cons v rest =>
      cases v with
      | table entries => exact List.cons_ne_nil _ _
      | string | integer | double | notFinite | boolean | moment | array =>
          exact nomatch htables _ List.mem_cons_self

mutual

/-- The blocks of a value build what stands under its headers. -/
theorem runs_ofValue : (v : Value) → v.WellFormed → v.hasHeaders = true → (path : List String) →
    (plug : Entries → Entries) → (entries : Entries) → (key : String) → Place path plug →
    entries.lookup key = none →
    Runs ((ofValue (path ++ [key]) v).flatMap lines) (plug entries)
      (plug (entries ++ [(key, nodeOf v)]))
  | .table inner, hv, _, path, plug, entries, key, hplug, h => by
      by_cases himplied : (plain inner).isEmpty ∧ ¬ inner.isEmpty
      · -- no header is written: the first table below makes this one on its way
        have hplain : plain inner = [] := List.isEmpty_iff.mp himplied.1
        have hne : headedNodes inner ≠ [] :=
          headedNodes_ne_nil hplain fun hnil => himplied.2 (List.isEmpty_iff.mpr hnil)
        have hruns := runs_ofEntries inner hv.1 hv.2 _ _ [] (hplug.implied h) fun _ _ _ => rfl
        rw [List.nil_append, Entries.implied_of_ne_nil _ _ hne] at hruns
        rw [ofValue, if_pos himplied, nodeOf, originOf, if_pos himplied, plainNodes, hplain]
        exact hruns
      · have hheader := runs_block (.table (path ++ [key])) (plain inner) (nodup_plain hv.1)
          (hplug.table h) (foldlM_tableHeader hplug h)
        have hruns := runs_ofEntries inner hv.1 hv.2 _ _ (plainNodes inner) (hplug.table h)
          (lookup_plainNodes hv.1)
        rw [ofValue, if_neg himplied, nodeOf, originOf, if_neg himplied, List.flatMap_append,
          List.flatMap_singleton]
        exact hheader.append hruns
  | .array items, hv, hheaders, path, plug, entries, key, hplug, h => by
      obtain ⟨hne, htables⟩ := Bool.and_eq_true_iff.mp hheaders
      have hitems := itemNodes_ne_nil (List.all_eq_true.mp htables) (by simpa using hne)
      have hruns :=
        runs_ofItems items hv (List.all_eq_true.mp htables) path plug entries key hplug h []
      have hlisted : Entries.listed entries key (itemNodes items) =
          entries ++ [(key, .tables (itemNodes items))] := if_neg (by simpa using hitems)
      rw [List.nil_append, hlisted] at hruns
      exact hruns
  | .string _, _, hheaders, _, _, _, _, _, _ | .integer _, _, hheaders, _, _, _, _, _, _
  | .double _, _, hheaders, _, _, _, _, _, _ | .notFinite, _, hheaders, _, _, _, _, _, _
  | .boolean _, _, hheaders, _, _, _, _, _, _ | .moment _, _, hheaders, _, _, _, _, _, _ =>
      nomatch hheaders

/-- The blocks of entries build what stands under their headers. -/
theorem runs_ofEntries : (new : List (String × Value)) → (new.map Prod.fst).Nodup →
    Value.EntriesWellFormed new → (path : List String) → (plug : Entries → Entries) →
    (entries : Entries) → Place path plug →
    (∀ entry ∈ new, entry.2.hasHeaders = true → entries.lookup entry.1 = none) →
    Runs ((ofEntries path new).flatMap lines) (plug entries) (plug (entries ++ headedNodes new))
  | [], _, _, path, plug, entries, _, _ => by simpa [ofEntries, headedNodes] using Runs.nil _
  | (k, v) :: rest, hnodup, hnew, path, plug, entries, hplug, hfresh => by
      obtain ⟨hfirst, hrest⟩ := List.forall_mem_cons.mp hfresh
      obtain ⟨hnotin, hnodup⟩ := List.nodup_cons.mp hnodup
      by_cases hheaders : v.hasHeaders = true
      · have hvalue := runs_ofValue v hnew.1 hheaders path plug entries k hplug (hfirst hheaders)
        -- the keys of later tables are still free behind this one
        have hnext : ∀ entry ∈ rest, entry.2.hasHeaders = true →
            (entries ++ [(k, nodeOf v)]).lookup entry.1 = none := by
          intro entry hentry hheaders
          have hmem : entry.1 ∈ rest.map Prod.fst := List.mem_map_of_mem hentry
          have hne : entry.1 ≠ k := fun heq => hnotin (heq ▸ hmem)
          rw [lookup_append_of_ne hne, hrest entry hentry hheaders]
        have hmore := runs_ofEntries rest hnodup hnew.2 path plug _ hplug hnext
        rw [ofEntries, headedNodes, if_pos hheaders, if_pos hheaders, List.flatMap_append,
          ← List.append_assoc]
        exact hvalue.append hmore
      · have hmore := runs_ofEntries rest hnodup hnew.2 path plug entries hplug hrest
        rw [ofEntries, headedNodes, if_neg hheaders, if_neg hheaders]
        exact hmore

/-- The blocks of tables build a list of them. -/
theorem runs_ofItems : (items : List Value) → Value.ItemsWellFormed items →
    (∀ v ∈ items, v.isTable = true) → (path : List String) → (plug : Entries → Entries) →
    (entries : Entries) → (key : String) → Place path plug → entries.lookup key = none →
    (all : List Entries) →
    Runs ((ofItems (path ++ [key]) items).flatMap lines) (plug (Entries.listed entries key all))
      (plug (Entries.listed entries key (all ++ itemNodes items)))
  | [], _, _, path, plug, entries, key, _, _, all => by
      simpa [ofItems, itemNodes] using Runs.nil _
  | .table inner :: rest, hitems, htables, path, plug, entries, key, hplug, h, all => by
      have hinner : (Value.table inner).WellFormed := hitems.1
      -- a path through a list leads into its last table, which this one becomes
      have hplace := hplug.item h all
      have hheader := runs_block (.list (path ++ [key])) (plain inner) (nodup_plain hinner.1)
        hplace (foldlM_listHeader hplug h all)
      have hruns := runs_ofEntries inner hinner.1 hinner.2 _ _ (plainNodes inner) hplace
        (lookup_plainNodes hinner.1)
      have hmore := runs_ofItems rest hitems.2 (fun v hv => htables v (List.mem_cons_of_mem _ hv))
        path plug entries key hplug h (all ++ [plainNodes inner ++ headedNodes inner])
      rw [Entries.listed_append, List.append_assoc, List.singleton_append] at hmore
      rw [ofItems, itemNodes, List.flatMap_cons, List.flatMap_append]
      exact hheader.append (hruns.append hmore)
  | .string _ :: _, _, htables, _, _, _, _, _, _, _
  | .integer _ :: _, _, htables, _, _, _, _, _, _, _
  | .double _ :: _, _, htables, _, _, _, _, _, _, _
  | .notFinite :: _, _, htables, _, _, _, _, _, _, _
  | .boolean _ :: _, _, htables, _, _, _, _, _, _, _
  | .moment _ :: _, _, htables, _, _, _, _, _, _, _
  | .array _ :: _, _, htables, _, _, _, _, _, _, _ => nomatch htables _ List.mem_cons_self

end

/-- The blocks of a document build its table. -/
theorem exists_foldlM_ofTable {entries : Table} (h : (Value.table entries).WellFormed) :
    ∃ last, ((ofTable entries).flatMap lines).foldlM Progress.add ⟨[], []⟩ =
      some ⟨last, nodes entries⟩ := by
  obtain ⟨last, hlast⟩ := runs_ofEntries entries h.1 h.2 [] id (plainNodes entries) Place.root
    (lookup_plainNodes h.1) []
  refine ⟨last, ?_⟩
  by_cases hplain : (plain entries).isEmpty
  · have hnone : plainNodes entries = [] := by
      rw [plainNodes, List.isEmpty_iff.mp hplain, List.map_nil]
    rw [hnone] at hlast
    rw [ofTable, if_pos hplain, nodes, hnone]
    exact hlast
  · have hfront := @foldlM_entries [] id [] Place.root (plain entries) (nodup_plain h.1)
      fun _ _ => rfl
    rw [ofTable, if_neg hplain, List.flatMap_append, List.foldlM_append, List.flatMap_singleton]
    simp only [lines, headerLines, List.nil_append]
    exact (congrArg (· >>= _) hfront).trans hlast

end Block

end SearchRelay.Toml
