import SearchRelay.Proofs.Json.Decoder

/-!
# SearchRelay.Proofs.Json.Record

Records that are read from documents.

1. `decode_object_of_enter` — an object whose entries fill a record is read as this
   record; `FillsAfter` puts such entries together when some may be left out;
2. `inv_of_decode` — what every field keeps holds of a record that is read.
-/

namespace SearchRelay.Json

namespace Record

variable {σ : Type} {form : Record σ} {r : Reading}

/-! ## records that are written as objects -/

/- The reader of a record goes over the entries, tells each by its key, and remembers
which keys it has seen. What was written has each key once, and a field that was left
out keeps its default. -/

/-- The entries of an object fill a record that is under way. -/
def Fills (form : Record σ) (r : Reading) (p : Progress σ)
    (entries : List (Option String × Document)) (record : σ) : Prop :=
  ∃ last, entries.foldlM (form.step r) p = .ok last ∧ last.record = record

theorem Fills.nil {p : Progress σ} {record : σ} (h : p.record = record) :
    form.Fills r p [] record := ⟨p, rfl, h⟩

/-- A field in front that has not been read yet. -/
theorem Fills.cons {p : Progress σ} {key : String} {field : Field σ} {d : Document}
    {next record : σ} {rest : List (Option String × Document)}
    (hfind : form.fields.find? (·.name = key) = some field) (hseen : key ∉ p.seen)
    (hread : field.read r d p.record = .ok next)
    (hrest : form.Fills r ⟨next, key :: p.seen⟩ rest record) :
    form.Fills r p ((some key, d) :: rest) record := by
  have hstep : form.step r p (some key, d) = .ok ⟨next, key :: p.seen⟩ := by
    simp [step, hfind, hseen, hread, bind, Except.bind, pure, Except.pure]
  obtain ⟨last, hlast, hrecord⟩ := hrest
  refine ⟨last, ?_, hrecord⟩
  rw [List.foldlM_cons, hstep]
  exact hlast

/-- What a field reads is put into its place. -/
theorem read_of {α : Type} {name : String} {presence : Presence} {decode : Decoder α}
    {put : σ → α → σ} {d : Document} {v : α} (h : decode r d = .ok v) (record : σ) :
    (Field.of name presence decode put).read r d record = .ok (put record v) := by
  simp [Field.of, h, Except.map]

/-- What is read of one entry of an object: nothing, or the field of that name. -/
theorem step_cases {p next : Progress σ} {entry : Option String × Document}
    (h : form.step r p entry = .ok next) :
    ∃ key, entry.1 = some key ∧
      ((form.fields.find? (·.name = key) = none ∧ next = p) ∨
        ∃ field record, form.fields.find? (·.name = key) = some field ∧ key ∉ p.seen ∧
          field.read r entry.2 p.record = .ok record ∧ next = ⟨record, key :: p.seen⟩) := by
  obtain ⟨key, d⟩ := entry
  cases key with
  | none => exact absurd h Except.throw_ne_ok
  | some key =>
      refine ⟨key, rfl, ?_⟩
      unfold step at h
      dsimp only at h
      split at h
      · next hfind =>
        cases h
        exact .inl ⟨hfind, rfl⟩
      · next field hfind =>
        split at h
        · exact absurd h Except.throw_ne_ok
        · next hseen =>
          obtain ⟨record, hread, h⟩ := Except.bind_eq_ok.mp h
          cases h
          exact .inr ⟨field, record, hfind, by simpa using hseen, hread, rfl⟩

/-- The fields that an object has are known as read behind it. -/
theorem mem_seen_of_foldlM_step {entries : List (Option String × Document)} {p last : Progress σ}
    (h : entries.foldlM (form.step r) p = .ok last) {field : Field σ}
    (hfield : field ∈ form.fields)
    (hname : field.name ∈ p.seen ∨ some field.name ∈ entries.map Prod.fst) :
    field.name ∈ last.seen := by
  induction entries generalizing p with
  | nil =>
      cases h
      exact hname.resolve_right List.not_mem_nil
  | cons entry entries ih =>
      rw [List.foldlM_cons] at h
      obtain ⟨next, hnext, h⟩ := Except.bind_eq_ok.mp h
      refine ih h ?_
      obtain ⟨key, hkey, ⟨hnone, rfl⟩ | ⟨other, record, -, -, -, rfl⟩⟩ := step_cases hnext
      · rw [List.map_cons, List.mem_cons, hkey, Option.some.injEq] at hname
        refine hname.imp_right fun hname => hname.resolve_left fun heq => ?_
        have hne := List.find?_eq_none.mp hnone field hfield
        exact hne (decide_eq_true heq)
      · rw [List.map_cons, List.mem_cons, hkey, Option.some.injEq] at hname
        rcases hname with hseen | hfirst | hrest
        · exact .inl (List.mem_cons_of_mem _ hseen)
        · exact .inl (hfirst ▸ List.mem_cons_self)
        · exact .inr hrest

/-- A record from an object that has all fields which may not be left out. -/
theorem decode_object_of_enter {entries : List (Option String × Document)} {record : σ}
    {inner : Reading} (henter : Decoder.enter r = .ok inner)
    (hrequired : ∀ field ∈ form.fields, field.presence = .required →
      some field.name ∈ entries.map Prod.fst)
    (h : form.Fills inner ⟨form.blank, []⟩ entries record) :
    form.decode r (.object entries) = .ok record := by
  obtain ⟨last, hlast, rfl⟩ := h
  have hnone : (form.fields.find? fun f =>
      decide (f.presence = .required ∧ !last.seen.contains f.name)) = none := by
    refine List.find?_eq_none.mpr fun field hfield => ?_
    rw [decide_eq_true_eq]
    rintro ⟨hpresence, hunseen⟩
    have hseen := mem_seen_of_foldlM_step hlast hfield (.inr (hrequired field hfield hpresence))
    simp [hseen] at hunseen
  rw [decode, henter]
  simp only [bind, Except.bind, ofObject, hlast]
  rw [hnone]
  rfl

/-- A record whose fields may be left out, from an object. -/
theorem decode_object {entries : List (Option String × Document)} {record : σ}
    (hr : r.nesting = none) (hfree : ∀ field ∈ form.fields, field.presence = .free)
    (h : form.Fills r ⟨form.blank, []⟩ entries record) :
    form.decode r (.object entries) = .ok record := by
  refine decode_object_of_enter (by rw [Decoder.enter, hr]) (fun field hfield hrequired => ?_) h
  rw [hfree field hfield] at hrequired
  cases hrequired

/-- The entries of an object fill a record, whichever of some fields have been read. -/
def FillsAfter (form : Record σ) (r : Reading) (keys : List String) (record : σ)
    (entries : List (Option String × Document)) (result : σ) : Prop :=
  (∀ entry ∈ entries, entry.2.fits r.nesting) →
    ∀ seen ⊆ keys, form.Fills r ⟨record, seen⟩ entries result

section

variable {keys : List String} {key : String} {record result : σ}

/-- The entries of an object whose values fit fill the record. -/
theorem FillsAfter.fills {entries : List (Option String × Document)}
    (h : form.FillsAfter r [] record entries result)
    (hfits : ∀ entry ∈ entries, entry.2.fits r.nesting) :
    form.Fills r ⟨record, []⟩ entries result := h hfits [] (List.Subset.refl _)

theorem FillsAfter.nil : form.FillsAfter r keys record [] record :=
  fun _ _ _ => Fills.nil rfl

/-- A field in front. -/
theorem FillsAfter.cons {field : Field σ} {d : Document} {next : σ}
    {rest : List (Option String × Document)}
    (hfind : form.fields.find? (·.name = key) = some field) (hkey : key ∉ keys)
    (hread : d.fits r.nesting → field.read r d record = .ok next)
    (hrest : form.FillsAfter r (key :: keys) next rest result) :
    form.FillsAfter r keys record ((some key, d) :: rest) result := by
  intro hfits seen hseen
  obtain ⟨hfirst, hfits⟩ := List.forall_mem_cons.mp hfits
  have hunseen : key ∉ seen := fun hmem => hkey (hseen hmem)
  exact Fills.cons hfind hunseen (hread hfirst)
    (hrest hfits _ (List.cons_subset_cons key hseen))

/-- A field in front that is left out if it has no value. -/
theorem FillsAfter.optional {α : Type} {presence : Presence} {decode : Decoder α}
    {put : σ → Option α → σ} {encode : α → Json} {value : Option α}
    {rest : List (Option String × Document)}
    (hfind : form.fields.find? (·.name = key) =
      some (.of key presence (Decoder.nullable decode) put)) (hkey : key ∉ keys)
    (hvalue : ∀ v ∈ value, decode.Recovers r encode v) (hblank : put record none = record)
    (hrest : form.FillsAfter r (key :: keys) (put record value) rest result) :
    form.FillsAfter r keys record
      (Document.ofFields (Json.optional key (value.map encode)) ++ rest) result := by
  cases value with
  | none =>
      intro hfits seen hseen
      rw [hblank] at hrest
      exact hrest hfits seen (List.subset_cons_of_subset key hseen)
  | some v =>
      refine FillsAfter.cons hfind hkey (fun hfits => ?_) hrest
      exact read_of ((hvalue v rfl).nullable hfits) record

end

/-! ## what fields keep -/

/- An invariant of a record holds of what is read if the defaults have it and every
field keeps it, whatever the entry. Fields see only documents inside the one that is
read, so a property of those can be assumed if it is inherited. -/

section

variable {inv : σ → Prop}

/-- Every field keeps the invariant, if what it reads has integers in range. -/
def Keeps (form : Record σ) (inv : σ → Prop) : Prop :=
  ∀ field ∈ form.fields, ∀ ⦃r d record next⦄, Document.InRange d → inv record →
    field.read r d record = .ok next → inv next

/-- A condition on what is read that passes on to the parts of a container. -/
structure Inherited (admits : Reading → Document → Prop) : Prop where
  items : ∀ {r inner items}, Decoder.enter r = .ok inner → admits r (.array items) →
    ∀ d ∈ items, admits inner d
  fields : ∀ {r inner entries}, Decoder.enter r = .ok inner → admits r (.object entries) →
    ∀ entry ∈ entries, admits inner entry.2

/-- Numbers without a value are not filled in. -/
def Unfilled (r : Reading) (_ : Document) : Prop := r.filling = false

/-- What is not filled in outside is not filled in inside. -/
theorem inherited_unfilled : Inherited Unfilled :=
  ⟨fun henter hr _ _ => (Decoder.filling_of_enter henter).trans hr,
    fun henter hr _ _ => (Decoder.filling_of_enter henter).trans hr⟩

/-- The parts of a document in range are in range too. -/
theorem inherited_inRange : Inherited fun _ d => d.InRange :=
  ⟨fun _ => (Document.itemsInRange_iff _).mp, fun _ => (Document.fieldsInRange_iff _).mp⟩

/-- Every field keeps the invariant, if what it reads is admitted. -/
def KeepsWhere (form : Record σ) (admits : Reading → Document → Prop) (inv : σ → Prop) : Prop :=
  ∀ field ∈ form.fields, ∀ ⦃r d record next⦄, admits r d → inv record →
    field.read r d record = .ok next → inv next

variable {admits : Reading → Document → Prop}

/-- An entry that is admitted keeps what the fields keep. -/
theorem inv_of_step (hkeeps : form.KeepsWhere admits inv) {p next : Progress σ}
    {entry : Option String × Document} (hentry : admits r entry.2) (hp : inv p.record)
    (h : form.step r p entry = .ok next) : inv next.record := by
  obtain ⟨key, -, ⟨-, rfl⟩ | ⟨field, record, hfind, -, hread, rfl⟩⟩ := step_cases h
  · exact hp
  · exact hkeeps field (List.mem_of_find?_eq_some hfind) hentry hp hread

/-- Entries that are admitted keep what the fields keep. -/
theorem inv_of_foldlM_step (hkeeps : form.KeepsWhere admits inv)
    {entries : List (Option String × Document)} (hentries : ∀ entry ∈ entries, admits r entry.2)
    {p last : Progress σ} (hp : inv p.record) (h : entries.foldlM (form.step r) p = .ok last) :
    inv last.record := by
  induction entries generalizing p with
  | nil =>
      cases h
      exact hp
  | cons entry entries ih =>
      obtain ⟨hentry, hentries⟩ := List.forall_mem_cons.mp hentries
      rw [List.foldlM_cons] at h
      obtain ⟨next, hnext, h⟩ := Except.bind_eq_ok.mp h
      exact ih hentries (inv_of_step hkeeps hentry hp hnext) h

/-- Items that are admitted keep what the fields keep, when a record is read from an
array. -/
theorem inv_of_ofItems (hkeeps : form.KeepsWhere admits inv) {place : Nat}
    {fields : List (Field σ)} (hfields : ∀ field ∈ fields, field ∈ form.fields)
    {items : List Document} (hitems : ∀ d ∈ items, admits r d) {record last : σ}
    (hrecord : inv record) (h : form.ofItems r place fields items record = .ok last) :
    inv last := by
  induction fields generalizing place items record with
  | nil =>
      rw [ofItems] at h
      cases h
      exact hrecord
  | cons field fields ih =>
      obtain ⟨hfield, hfields⟩ := List.forall_mem_cons.mp hfields
      cases items with
      | nil =>
          rw [ofItems] at h
          split at h
          · exact ih hfields hitems hrecord h
          · cases h
      | cons item items =>
          obtain ⟨hitem, hitems⟩ := List.forall_mem_cons.mp hitems
          rw [ofItems] at h
          obtain ⟨next, hread, h⟩ := Except.bind_eq_ok.mp h
          exact ih hfields hitems (hkeeps field hfield hitem hrecord hread) h

/-- What every field keeps holds of a record that is read from what is admitted. -/
theorem inv_of_decode_where (hadmits : Inherited admits) (hkeeps : form.KeepsWhere admits inv)
    (hblank : inv form.blank) {d : Document} (hd : admits r d) {record : σ}
    (h : form.decode r d = .ok record) : inv record := by
  cases d with
  | object entries =>
      obtain ⟨inner, henter, h⟩ := Except.bind_eq_ok.mp h
      obtain ⟨p, hp, h⟩ := Except.bind_eq_ok.mp h
      have hinv : inv p.record :=
        inv_of_foldlM_step hkeeps (hadmits.fields henter hd) hblank hp
      split at h
      · exact absurd h Except.throw_ne_ok
      · cases h
        exact hinv
  | array items =>
      obtain ⟨inner, henter, h⟩ := Except.bind_eq_ok.mp h
      obtain ⟨last, hlast, h⟩ := Except.bind_eq_ok.mp h
      obtain ⟨_, -, h⟩ := Except.bind_eq_ok.mp h
      cases h
      exact inv_of_ofItems hkeeps (fun _ hfield => hfield) (hadmits.items henter hd) hblank hlast
  | null | bool | number | string => exact absurd h Decoder.mismatch_ne_ok

/-- What every field keeps holds of a record that is read. -/
theorem inv_of_decode (hkeeps : form.Keeps inv) (hblank : inv form.blank) {d : Document}
    (hd : d.InRange) {record : σ} (h : form.decode r d = .ok record) : inv record :=
  inv_of_decode_where inherited_inRange hkeeps hblank hd h

end

end Record

end SearchRelay.Json
