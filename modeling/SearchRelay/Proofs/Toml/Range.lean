import SearchRelay.Proofs.Json.Range
import SearchRelay.Toml.Line

/-!
# SearchRelay.Proofs.Toml.Range

The integers of a document that is read are in range.

1. `inRange_value?` — those of a value;
2. `inRange_changeAt` — those of the tables, if a change at a path keeps them so;
3. `inRange_parse?` — those of a document.
-/

namespace SearchRelay.Toml

open Json (Document)

/-- Every integer of a value is in range. -/
def Value.InRange (v : Value) : Prop := v.document.InRange

/-- Every integer of a table is in range. -/
def Entries.InRange (entries : Entries) : Prop := (Value.table (entriesToTable entries)).InRange

/-- An array is in range if and only if its items are. -/
theorem inRange_array_iff (items : List Value) :
    (Value.array items).InRange ↔ ∀ v ∈ items, v.InRange := by
  induction items with
  | nil => simp [Value.InRange, Value.document, Value.documents, Document.InRange,
      Document.ItemsInRange]
  | cons v vs ih =>
      simp only [Value.InRange, Value.document, Document.InRange] at ih
      simp [Value.InRange, Value.document, Value.documents, Document.InRange,
        Document.ItemsInRange, ih]

/-- A table is in range if and only if the values of its entries are. -/
theorem inRange_table_iff (entries : Table) :
    (Value.table entries).InRange ↔ ∀ entry ∈ entries, entry.2.InRange := by
  induction entries with
  | nil => simp [Value.InRange, Value.document, Value.entryDocuments, Document.InRange,
      Document.FieldsInRange]
  | cons entry rest ih =>
      simp only [Value.InRange, Value.document, Document.InRange] at ih
      simp [Value.InRange, Value.document, Value.entryDocuments, Document.InRange,
        Document.FieldsInRange, ih]

/-- The entries of a table become values one by one. -/
theorem entriesToTable_eq_map (entries : Entries) :
    entriesToTable entries = entries.map fun entry => (entry.1, entry.2.toValue) := by
  induction entries with
  | nil => rfl
  | cons entry rest ih => rw [entriesToTable, ih, List.map_cons]

/-- The tables of a list become values one by one. -/
theorem tablesToValues_eq_map (all : List Entries) :
    tablesToValues all = all.map fun entries => .table (entriesToTable entries) := by
  induction all with
  | nil => rfl
  | cons entries rest ih => rw [tablesToValues, ih, List.map_cons]

/-- Entries are in range if and only if the value of each is. -/
theorem Entries.inRange_iff (entries : Entries) :
    entries.InRange ↔ ∀ entry ∈ entries, entry.2.toValue.InRange := by
  rw [Entries.InRange, inRange_table_iff, entriesToTable_eq_map, List.forall_mem_map]

/-- A list of tables is in range if and only if the entries of each are. -/
theorem inRange_tables_iff (all : List Entries) :
    (Node.tables all).toValue.InRange ↔ ∀ entries ∈ all, entries.InRange := by
  rw [Node.toValue, inRange_array_iff, tablesToValues_eq_map]
  simp [Entries.InRange]

/-! ## words -/

/- Of all scalars only an integer has a range, and the word for one is checked when it
is read. The other readers give no integer at all. -/

/-- An integer that is read is in range. -/
theorem inRange_integer? {cs : List Char} {v : Value} (h : Scalar.integer? cs = some v) :
    v.InRange := by
  have hrange : ∀ {i : Int} {v : Value}, Scalar.inRange? i = some v → v.InRange := by
    intro i v h
    rw [Scalar.inRange?] at h
    split at h
    · next hi =>
      cases h
      exact ⟨hi.1, Int.lt_trans hi.2 (by decide)⟩
    · cases h
  unfold Scalar.integer? at h
  split at h
  all_goals
    obtain ⟨digits, -, h⟩ := Option.bind_eq_some_iff.mp h
    exact hrange h

/-- A float has no integer in it. -/
theorem inRange_float? {negative : Bool} {whole fraction : List Char} {exponent : Int} {v : Value}
    (h : Scalar.float? negative whole fraction exponent = some v) : v.InRange := by
  unfold Scalar.float? at h
  dsimp only at h
  split at h
  · cases h
    trivial
  · split at h
    · cases h
      trivial
    · cases h

/-- A decimal number that is read is in range. -/
theorem inRange_decimal? {cs : List Char} {v : Value} (h : Scalar.decimal? cs = some v) :
    v.InRange := by
  unfold Scalar.decimal? at h
  obtain ⟨negative, body⟩ := Scalar.splitSign cs
  dsimp only at h
  split at h
  all_goals
    obtain ⟨exponent, -, h⟩ := Option.bind_eq_some_iff.mp h
    split at h
    · split at h
      · cases h
      · obtain ⟨whole, -, h⟩ := Option.bind_eq_some_iff.mp h
        exact inRange_float? h
    · obtain ⟨whole, -, h⟩ := Option.bind_eq_some_iff.mp h
      obtain ⟨fraction, -, h⟩ := Option.bind_eq_some_iff.mp h
      exact inRange_float? h
    · cases h

theorem inRange_moment? {cs : List Char} {v : Value} (h : Scalar.moment? cs = some v) :
    v.InRange := by
  obtain ⟨text, -, rfl⟩ := Option.map_eq_some_iff.mp h
  exact ⟨trivial, trivial⟩

theorem inRange_special? {cs : List Char} {v : Value} (h : Scalar.special? cs = some v) :
    v.InRange := by
  unfold Scalar.special? at h
  obtain ⟨negative, body⟩ := Scalar.splitSign cs
  dsimp only at h
  split at h
  · cases h
    trivial
  · cases h

theorem inRange_boolean? {cs : List Char} {v : Value} (h : Scalar.boolean? cs = some v) :
    v.InRange := by
  unfold Scalar.boolean? at h
  split at h
  · cases h
    trivial
  · split at h
    · cases h
      trivial
    · cases h

/-- A scalar that is read is in range. -/
theorem inRange_ofWord? {cs : List Char} {v : Value} (h : Scalar.ofWord? cs = some v) :
    v.InRange := by
  have hor : ∀ {a b : Option Value}, (a <|> b) = some v → a = some v ∨ b = some v := by
    intro a b h
    cases a with
    | none => exact .inr h
    | some a => exact .inl h
  rcases hor h with h | h
  · exact inRange_moment? h
  · rcases hor h with h | h
    · exact inRange_decimal? h
    · rcases hor h with h | h
      · exact inRange_integer? h
      · rcases hor h with h | h
        · exact inRange_special? h
        · exact inRange_boolean? h

/-! ## tables -/

/- The tree is changed by adding, replacing and opening entries. A change at a path is a
change in one table on the way, put back into the others, so it is enough that the
change itself keeps the range. -/

namespace Entries

theorem inRange_nil : InRange [] := trivial

/-- A new entry in range keeps the entries in range. -/
theorem inRange_append_singleton {entries : Entries} (h : entries.InRange) (key : String)
    (node : Node) (hnode : node.toValue.InRange) : (entries ++ [(key, node)]).InRange := by
  rw [inRange_iff] at h ⊢
  intro entry hentry
  rcases List.mem_append.mp hentry with hmem | hmem
  · exact h entry hmem
  · rw [List.mem_singleton.mp hmem]
    exact hnode

/-- Replacing an entry by one in range keeps the entries in range. -/
theorem inRange_replace {entries : Entries} (h : entries.InRange) (key : String) (node : Node)
    (hnode : node.toValue.InRange) : (replace key node entries).InRange := by
  rw [inRange_iff] at h ⊢
  intro entry hentry
  obtain ⟨old, hold, rfl⟩ := List.mem_map.mp hentry
  split
  · exact hnode
  · exact h old hold

/-- An entry that is found is in range. -/
theorem inRange_of_lookup {entries : Entries} (h : entries.InRange) {key : String} {node : Node}
    (hlookup : entries.lookup key = some node) : node.toValue.InRange := by
  obtain ⟨before, after, rfl, -⟩ := List.lookup_eq_some_iff.mp hlookup
  exact (inRange_iff _).mp h (key, node) (List.mem_append_right _ List.mem_cons_self)

/-- A change that keeps the integers of a table in range. -/
def KeepsRange (change : Change) : Prop :=
  ∀ ⦃origin entries result⦄, InRange entries → change origin entries = some result →
    result.2.InRange

/-- A change at a path keeps them so. -/
theorem keepsRange_changeAt {change : Change} (hchange : KeepsRange change) (dotted : Bool)
    (path : List String) : KeepsRange (changeAt dotted change path) := by
  induction path with
  | nil => exact hchange
  | cons key path ih =>
      intro origin entries result hentries h
      rw [changeAt] at h
      split at h
      · obtain ⟨inner, hinner, rfl⟩ := Option.map_eq_some_iff.mp h
        exact inRange_append_singleton hentries key _ (ih inRange_nil hinner)
      · next node child hlookup =>
        split at h
        · cases h
        · obtain ⟨inner, hinner, rfl⟩ := Option.map_eq_some_iff.mp h
          have hchild : InRange child := inRange_of_lookup hentries hlookup
          exact inRange_replace hentries key _ (ih hchild hinner)
      · next all hlookup =>
        obtain ⟨last, hlast, h⟩ := Option.bind_eq_some_iff.mp h
        obtain ⟨inner, hinner, h⟩ := Option.bind_eq_some_iff.mp h
        cases h
        have hall := (inRange_tables_iff all).mp (inRange_of_lookup hentries hlookup)
        have hchild := ih (hall last (List.mem_of_getLast? hlast)) hinner
        refine inRange_replace hentries key _ ((inRange_tables_iff _).mpr fun other hother => ?_)
        rcases List.mem_append.mp hother with hmem | hmem
        · exact hall other (List.dropLast_subset _ hmem)
        · rw [List.mem_singleton.mp hmem]
          exact hchild
      · cases h

/-- Adding a value in range keeps the range. -/
theorem keepsRange_addValue {v : Value} (hv : v.InRange) (path : List String) (key : String) :
    KeepsRange (addValue path key v) := by
  refine keepsRange_changeAt (fun origin entries result hentries h => ?_) true path
  split at h
  · cases h
  · split at h
    · cases h
    · cases h
      exact inRange_append_singleton hentries key _ hv

/-- Opening a table keeps the range. -/
theorem keepsRange_openTable (path : List String) (key : String) :
    KeepsRange (openTable path key) := by
  refine keepsRange_changeAt (fun origin entries result hentries h => ?_) false path
  split at h
  · cases h
    exact inRange_append_singleton hentries key _ trivial
  · next child hlookup =>
    cases h
    have hchild : InRange child := inRange_of_lookup hentries hlookup
    exact inRange_replace hentries key _ hchild
  · cases h

/-- Adding a table to a list keeps the range. -/
theorem keepsRange_addTable (path : List String) (key : String) :
    KeepsRange (addTable path key) := by
  refine keepsRange_changeAt (fun origin entries result hentries h => ?_) false path
  split at h
  · cases h
    exact inRange_append_singleton hentries key _
      ((inRange_tables_iff [[]]).mpr (List.forall_mem_singleton.mpr inRange_nil))
  · next all hlookup =>
    cases h
    have hall := (inRange_tables_iff all).mp (inRange_of_lookup hentries hlookup)
    refine inRange_replace hentries key _ ((inRange_tables_iff _).mpr fun other hother => ?_)
    rcases List.mem_append.mp hother with hmem | hmem
    · exact hall other hmem
    · rw [List.mem_singleton.mp hmem]
      exact inRange_nil
  · cases h

end Entries

/-! ## values -/

/- Arrays, inline tables and the values in them are read by one recursion over the fuel.
The step takes the three readers at once and is proved for each of them. -/

namespace Line

/-- The values that are read with so much fuel are in range. -/
structure ReadsRange (fuel : Nat) : Prop where
  value : ∀ ⦃depth ts result⦄, value? fuel depth ts = some result → result.1.InRange
  items : ∀ ⦃depth done ts result⦄, (∀ v ∈ done, v.InRange) →
    items? fuel depth done ts = some result → result.1.InRange
  pairs : ∀ ⦃depth done ts result⦄, Entries.InRange done →
    pairs? fuel depth done ts = some result → result.1.InRange

namespace ReadsRange

variable {fuel depth : Nat}

/-- A value is in range if its items and pairs are, which are read with less fuel. -/
theorem value_succ (ih : ReadsRange fuel) {ts : List Token} {result : Value × List Token}
    (h : value? (fuel + 1) depth ts = some result) : result.1.InRange := by
  unfold value? at h
  split at h
  · cases h
  · cases h
    trivial
  · split at h
    · next moment hmoment =>
      cases h
      exact inRange_moment? hmoment
    · obtain ⟨v, hv, rfl⟩ := Option.map_eq_some_iff.mp h
      exact inRange_ofWord? hv
  · obtain ⟨v, hv, rfl⟩ := Option.map_eq_some_iff.mp h
    exact inRange_ofWord? hv
  · next heq =>
    cases heq
    exact ih.items (List.forall_mem_nil _) h
  · next heq =>
    cases heq
    split at h
    · cases h
      trivial
    · exact ih.pairs Entries.inRange_nil h
  · cases h

/-- Items are in range if the first one and the others are, which are read with less fuel.
-/
theorem items_succ (ih : ReadsRange fuel) {done : List Value} {ts : List Token}
    {result : Value × List Token} (hdone : ∀ v ∈ done, v.InRange)
    (h : items? (fuel + 1) depth done ts = some result) : result.1.InRange := by
  unfold items? at h
  split at h
  · cases h
    exact (inRange_array_iff _).mpr fun v hv => hdone v (List.mem_reverse.mp hv)
  · obtain ⟨⟨v, rest⟩, hread, h⟩ := Option.bind_eq_some_iff.mp h
    have hmore := List.forall_mem_cons.mpr ⟨ih.value hread, hdone⟩
    dsimp only at h hmore
    split at h
    · exact ih.items hmore h
    · cases h
      exact (inRange_array_iff _).mpr fun v hv => hmore v (List.mem_reverse.mp hv)
    · cases h

/-- Pairs are in range if the first one and the others are, which are read with less fuel.
-/
theorem pairs_succ (ih : ReadsRange fuel) {done : Entries} {ts : List Token}
    {result : Value × List Token} (hdone : Entries.InRange done)
    (h : pairs? (fuel + 1) depth done ts = some result) : result.1.InRange := by
  unfold pairs? at h
  obtain ⟨⟨key, rest⟩, -, h⟩ := Option.bind_eq_some_iff.mp h
  dsimp only at h
  split at h
  · obtain ⟨⟨v, rest⟩, hread, h⟩ := Option.bind_eq_some_iff.mp h
    obtain ⟨⟨origin, next⟩, hadd, h⟩ := Option.bind_eq_some_iff.mp h
    have hnext := Entries.keepsRange_addValue (ih.value hread) _ _ hdone hadd
    dsimp only at h hnext
    split at h
    · exact ih.pairs hnext h
    · cases h
      exact hnext
    · cases h
  · cases h

end ReadsRange

/-- What is read is in range, with any fuel. -/
theorem readsRange (fuel : Nat) : ReadsRange fuel := by
  induction fuel with
  | zero =>
      constructor
      · intro depth ts result h
        rw [value?] at h
        cases h
      · intro depth done ts result _ h
        rw [items?] at h
        cases h
      · intro depth done ts result _ h
        rw [pairs?] at h
        cases h
  | succ fuel ih =>
      exact ⟨fun _ _ _ => ih.value_succ, fun _ _ _ _ => ih.items_succ, fun _ _ _ _ => ih.pairs_succ⟩

/-- A value that is read is in range. -/
theorem inRange_value? {fuel depth : Nat} {ts : List Token} {result : Value × List Token}
    (h : value? fuel depth ts = some result) : result.1.InRange :=
  (readsRange fuel).value h

end Line

/-! ## documents -/

/- A document is a run over its lines, each of which adds to the entries so far. -/

/-- The integers of a line are in range. -/
def Line.InRange : Line → Prop
  | .header _ | .listHeader _ => True
  | .entry _ v => v.InRange

/-- A line that is read is in range. -/
theorem inRange_line? {ts : List Token} {result : Line × List Token}
    (h : Line.line? ts = some result) : result.1.InRange := by
  unfold Line.line? at h
  split at h
  all_goals obtain ⟨⟨key, rest⟩, -, h⟩ := Option.bind_eq_some_iff.mp h
  · split at h <;> cases h
    trivial
  · split at h <;> cases h
    trivial
  · split at h
    · obtain ⟨⟨v, rest⟩, hv, h⟩ := Option.bind_eq_some_iff.mp h
      cases h
      exact Line.inRange_value? hv
    · cases h

/-- The lines that are read are in range. -/
theorem inRange_lines? {fuel : Nat} {ts : List Token} {lines : List Line}
    (h : Line.lines? fuel ts = some lines) : ∀ line ∈ lines, line.InRange := by
  induction fuel generalizing ts lines with
  | zero =>
      rw [Line.lines?] at h
      cases h
  | succ fuel ih =>
      unfold Line.lines? at h
      split at h
      · cases h
        exact nofun
      · obtain ⟨⟨line, rest⟩, hline, h⟩ := Option.bind_eq_some_iff.mp h
        have hfirst := inRange_line? hline
        dsimp only at h hfirst
        split at h
        · cases h
          exact List.forall_mem_singleton.mpr hfirst
        · obtain ⟨more, hmore, h⟩ := Option.bind_eq_some_iff.mp h
          cases h
          exact List.forall_mem_cons.mpr ⟨hfirst, ih hmore⟩
        · cases h

/-- A line in range keeps the entries in range. -/
theorem inRange_add {p next : Progress} {line : Line} (hp : p.entries.InRange)
    (hline : line.InRange) (h : p.add line = some next) : next.entries.InRange := by
  cases line with
  | header key =>
      obtain ⟨result, hresult, rfl⟩ := Option.map_eq_some_iff.mp h
      exact Entries.keepsRange_openTable _ _ hp hresult
  | listHeader key =>
      obtain ⟨result, hresult, rfl⟩ := Option.map_eq_some_iff.mp h
      exact Entries.keepsRange_addTable _ _ hp hresult
  | entry key v =>
      obtain ⟨result, hresult, rfl⟩ := Option.map_eq_some_iff.mp h
      have hchange := Entries.keepsRange_addValue hline key.path key.last
      exact Entries.keepsRange_changeAt hchange false _ hp hresult

/-- Lines in range keep the entries in range. -/
theorem inRange_foldlM {p last : Progress} {lines : List Line} (hp : p.entries.InRange)
    (hlines : ∀ line ∈ lines, line.InRange) (h : lines.foldlM Progress.add p = some last) :
    last.entries.InRange := by
  induction lines generalizing p with
  | nil =>
      cases h
      exact hp
  | cons line lines ih =>
      obtain ⟨hline, hlines⟩ := List.forall_mem_cons.mp hlines
      rw [List.foldlM_cons] at h
      obtain ⟨next, hnext, h⟩ := Option.bind_eq_some_iff.mp h
      exact ih (inRange_add hp hline hnext) hlines h

/-- Every integer of a document that is read is in range. -/
theorem inRange_parse? {text : String} {table : Table} (h : parse? text = some table) :
    (Value.table table).document.InRange := by
  obtain ⟨ts, -, h⟩ := Option.bind_eq_some_iff.mp h
  obtain ⟨lines, hlines, h⟩ := Option.bind_eq_some_iff.mp h
  obtain ⟨last, hlast, h⟩ := Option.bind_eq_some_iff.mp h
  cases h
  exact @inRange_foldlM ⟨[], []⟩ last lines Entries.inRange_nil (inRange_lines? hlines) hlast

end SearchRelay.Toml
