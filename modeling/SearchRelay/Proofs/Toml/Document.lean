import SearchRelay.Proofs.Toml.Tree

/-!
# SearchRelay.Proofs.Toml.Document

What is read from the text of a document.

1. `wellFormed_of_mem_ofTable` — the blocks of a well-formed table are
   well-formed;
2. `parse?_print` — the text of a table is read as this table, the plain entries
   of each table under headers in front, unless one of its blocks is too deep.
-/

namespace SearchRelay.Toml

namespace Block

/-- The entries on lines are read as the values they are. -/
theorem entriesToTable_plainNodes (entries : Table) :
    entriesToTable (plainNodes entries) = plain entries := by
  rw [plainNodes]
  induction plain entries with
  | nil => rfl
  | cons entry rest ih => rw [List.map_cons, entriesToTable, ih, Node.toValue]

/-- The values of the entries on lines are well formed. -/
theorem wellFormed_plain {entries : Table} (h : Value.EntriesWellFormed entries) :
    ∀ entry ∈ plain entries, entry.2.WellFormed := by
  intro entry hentry
  exact (Value.entriesWellFormed_iff entries).mp h entry (List.mem_of_mem_filter hentry)

mutual

/-- The blocks of a value under a path. -/
theorem wellFormed_of_mem_ofValue : (v : Value) → v.WellFormed → (path : List String) → path ≠ [] →
    ∀ b ∈ ofValue path v, b.WellFormed
  | .table entries, hv, path, hpath => by
      rw [ofValue]
      intro b hb
      rcases List.mem_append.mp hb with hb | hb
      · split at hb
        · cases hb
        · rw [List.mem_singleton.mp hb]
          exact ⟨hpath, wellFormed_plain hv.2⟩
      · exact wellFormed_of_mem_ofEntries entries hv.2 path b hb
  | .array items, hv, path, hpath => wellFormed_of_mem_ofItems items hv path hpath
  | .string _, _, _, _ | .integer _, _, _, _ | .double _, _, _, _ | .notFinite, _, _, _
  | .boolean _, _, _, _ | .moment _, _, _, _ => nofun

/-- The blocks of the entries of a table. -/
theorem wellFormed_of_mem_ofEntries : (entries : List (String × Value)) →
    Value.EntriesWellFormed entries → (path : List String) →
    ∀ b ∈ ofEntries path entries, b.WellFormed
  | [], _, _ => nofun
  | (key, v) :: rest, h, path => by
      rw [ofEntries]
      intro b hb
      rcases List.mem_append.mp hb with hb | hb
      · split at hb
        · exact wellFormed_of_mem_ofValue v h.1 (path ++ [key]) (by simp) b hb
        · cases hb
      · exact wellFormed_of_mem_ofEntries rest h.2 path b hb

/-- The blocks of a list of tables. -/
theorem wellFormed_of_mem_ofItems : (items : List Value) → Value.ItemsWellFormed items →
    (path : List String) → path ≠ [] → ∀ b ∈ ofItems path items, b.WellFormed
  | [], _, _, _ => nofun
  | .table entries :: rest, h, path, hpath => by
      have hentries : (Value.table entries).WellFormed := h.1
      rw [ofItems]
      intro b hb
      rcases List.mem_cons.mp hb with rfl | hb
      · exact ⟨hpath, wellFormed_plain hentries.2⟩
      · rcases List.mem_append.mp hb with hb | hb
        · exact wellFormed_of_mem_ofEntries entries hentries.2 path b hb
        · exact wellFormed_of_mem_ofItems rest h.2 path hpath b hb
  | .string _ :: rest, h, path, hpath | .integer _ :: rest, h, path, hpath
  | .double _ :: rest, h, path, hpath | .notFinite :: rest, h, path, hpath
  | .boolean _ :: rest, h, path, hpath | .moment _ :: rest, h, path, hpath
  | .array _ :: rest, h, path, hpath => wellFormed_of_mem_ofItems rest h.2 path hpath

end

/-- A well-formed table is written in well-formed blocks. -/
theorem wellFormed_of_mem_ofTable {entries : Table} (h : (Value.table entries).WellFormed) :
    ∀ b ∈ ofTable entries, b.WellFormed := by
  intro b hb
  rcases List.mem_append.mp hb with hb | hb
  · split at hb
    · cases hb
    · rw [List.mem_singleton.mp hb]
      exact ⟨trivial, wellFormed_plain h.2⟩
  · exact wellFormed_of_mem_ofEntries entries h.2 [] b hb

end Block

/-- A table with the plain entries of each table under headers in front. -/
def arranged (entries : Table) : Table := entriesToTable (Block.nodes entries)

/-- Entries on lines come first, and entries under headers behind them. -/
theorem arranged_eq (entries : Table) :
    arranged entries = Block.plain entries ++ entriesToTable (Block.headedNodes entries) := by
  rw [arranged, Block.nodes, entriesToTable_append, Block.entriesToTable_plainNodes]

/-- A table under a header, as it is read. -/
theorem toValue_nodeOf_table (entries : Table) :
    (Block.nodeOf (.table entries)).toValue = .table (arranged entries) := by
  rw [Block.nodeOf, Node.toValue, arranged, Block.nodes]

/-- The tables of a list, as they are read. -/
theorem tablesToValues_itemNodes (entries : Table) (rest : List Value) :
    tablesToValues (Block.itemNodes (.table entries :: rest)) =
      .table (arranged entries) :: tablesToValues (Block.itemNodes rest) := by
  rw [Block.itemNodes, tablesToValues, arranged, Block.nodes]

/-- A table without headers in it stays as it is. -/
theorem arranged_of_plain {entries : Table} (h : ∀ entry ∈ entries, entry.2.hasHeaders = false) :
    arranged entries = entries := by
  have hheaded : Block.headedNodes entries = [] := by
    induction entries with
    | nil => rfl
    | cons entry rest ih =>
        obtain ⟨hfirst, hrest⟩ := List.forall_mem_cons.mp h
        rw [Block.headedNodes, ih hrest, if_neg (by simp [hfirst]), List.append_nil]
  have hplain : Block.plain entries = entries := by
    rw [Block.plain, List.filter_eq_self]
    intro entry hentry
    rw [h entry hentry]
    rfl
  rw [arranged_eq, hheaded, hplain, entriesToTable, List.append_nil]

/-- The blocks of a document are not too deep to be read. -/
def Shallow (entries : Table) : Prop := ∀ b ∈ Block.ofTable entries, b.Shallow

instance (entries : Table) : Decidable (Shallow entries) :=
  inferInstanceAs (Decidable (∀ b ∈ Block.ofTable entries, b.Shallow))

/-- The text of a table is read as this table, the plain entries of each table
under headers in front, unless one of its blocks is too deep. -/
theorem parse?_print {entries : Table} (h : (Value.table entries).WellFormed) :
    parse? (print entries) = if Shallow entries then some (arranged entries) else none := by
  have hblocks := Block.wellFormed_of_mem_ofTable h
  -- characters are cut into tokens, tokens read as lines, lines put into tables
  have htokens := tokens?_of_cut (Block.needsEscape_of_mem_intercalate hblocks)
    (Block.cut_intercalate hblocks)
  have hlines : Line.lines? _ _ =
      if Shallow entries then some ((Block.ofTable entries).flatMap Block.lines) else none :=
    Block.reads_intercalate hblocks _ (Nat.lt_succ_self _)
  obtain ⟨last, hlast⟩ := Block.exists_foldlM_ofTable h
  rw [parse?, print, htokens, Option.bind_eq_bind, Option.bind_some, hlines]
  by_cases hshallow : Shallow entries
  · rw [if_pos hshallow, if_pos hshallow]
    simp [hlast, arranged]
  · rw [if_neg hshallow, if_neg hshallow]
    rfl

end SearchRelay.Toml
