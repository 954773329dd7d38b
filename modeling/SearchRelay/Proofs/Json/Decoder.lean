import SearchRelay.Json.Decode
import SearchRelay.Proofs.Except
import SearchRelay.Proofs.Json.Range
import SearchRelay.Proofs.Text.Utf8

/-!
# SearchRelay.Proofs.Json.Decoder

What decoders read, and what they read back.

1. `exists_enter` — a container that nests no deeper than is allowed is gone into;
2. `wellFormed_of_any`, `ordered_of_any` — what any value is, if it is read;
3. `Recovers` — what is written of a value is read as this value;
4. `sorted_of_dictionary`, `dictionary_of_sorted` — a dictionary is sorted, and a
   sorted one is read as it stands.

`decodeBytes_compact` is about the text of a value in place of the value.
-/

namespace SearchRelay.Json

/-! ## depth of documents -/

namespace Document

theorem depth_le_of_mem_items {items : List Document} {d : Document} (h : d ∈ items) :
    d.depth ≤ depthOfItems items := by
  induction items with
  | nil => cases h
  | cons first items ih =>
      rw [depthOfItems]
      rcases List.mem_cons.mp h with rfl | h
      · exact Nat.le_max_left _ _
      · exact Nat.le_trans (ih h) (Nat.le_max_right _ _)

theorem depth_le_of_mem_fields {entries : List (Option String × Document)}
    {entry : Option String × Document} (h : entry ∈ entries) :
    entry.2.depth ≤ depthOfFields entries := by
  induction entries with
  | nil => cases h
  | cons first entries ih =>
      rw [depthOfFields]
      rcases List.mem_cons.mp h with rfl | h
      · exact Nat.le_max_left _ _
      · exact Nat.le_trans (ih h) (Nat.le_max_right _ _)

/-- Entries one after the other, as documents. -/
theorem ofFields_append (fields others : Fields) :
    ofFields (fields ++ others) = ofFields fields ++ ofFields others := by
  induction fields with
  | nil => rfl
  | cons field fields ih => rw [List.cons_append, ofFields, ofFields, ih, List.cons_append]

theorem mem_keys_ofFields {fields : Fields} {field : String × Json} (h : field ∈ fields) :
    some field.1 ∈ (ofFields fields).map Prod.fst := by
  induction fields with
  | nil => cases h
  | cons first fields ih =>
      rw [ofFields, List.map_cons]
      rcases List.mem_cons.mp h with rfl | h
      · exact List.mem_cons_self
      · exact List.mem_cons_of_mem _ (ih h)

/-- A value within the limit of nesting is the meaning of the document. -/
theorem meaning?_of_value? {limit : Option Nat} {d : Document} {v : Json}
    (h : d.value? limit = some v) : d.meaning? = some v := by
  unfold value? at h
  split at h
  · exact h
  · cases h

/-- Nothing but null means null. -/
theorem eq_null_of_meaning? {d : Document} (h : d.meaning? = some .null) : d = .null := by
  cases d with
  | null => rfl
  | bool => cases h
  | number n | string s | array items | object entries =>
      obtain ⟨_, -, h⟩ := Option.map_eq_some_iff.mp h
      cases h

end Document

namespace Decoder

variable {α : Type}

/-! ## containers -/

/- A reading has a limit of nesting, which is one lower inside a container. That a
document fits is a matter of its depth, so it is enough to know that of the outermost
one. -/

/-- What is read is the value within the limit of nesting, numbers without a value being
null where they are filled in. -/
theorem any_eq_ok {r : Reading} {d : Document} {v : Json} :
    any r d = .ok v ↔ (if r.filling then d.filled else d).value? r.nesting = some v := by
  rw [any]
  cases (if r.filling then d.filled else d).value? r.nesting with
  | none => exact iff_of_false nofun nofun
  | some w => rw [Except.ok.injEq, Option.some.injEq]

/-- A value read from a document with integers in range is well formed. -/
theorem wellFormed_of_any {r : Reading} {d : Document} {v : Json} (hd : d.InRange)
    (h : any r d = .ok v) : v.WellFormed := by
  have hfilled : (if r.filling then d.filled else d).InRange := by
    split
    · exact Document.inRange_filled d hd
    · exact hd
  exact Document.wellFormed_of_value? hfilled (any_eq_ok.mp h)

/-- Objects come out with their keys in order, however the document lists them. -/
theorem ordered_of_any {r : Reading} {d : Document} {v : Json} (h : any r d = .ok v) :
    v.Ordered :=
  ordered_of_meaning? _ (Document.meaning?_of_value? (any_eq_ok.mp h))

/-- Where numbers are not filled in, nothing but null is read as null. -/
theorem eq_null_of_any {r : Reading} (hr : r.filling = false) {d : Document}
    (h : any r d = .ok .null) : d = .null := by
  have hmeaning := Document.meaning?_of_value? (any_eq_ok.mp h)
  rw [hr, if_neg Bool.false_ne_true] at hmeaning
  exact Document.eq_null_of_meaning? hmeaning

/-- Entering an array or an object keeps the manner of reading. -/
theorem filling_of_enter {r inner : Reading} (h : enter r = .ok inner) :
    inner.filling = r.filling := by
  unfold enter at h
  split at h
  all_goals cases h
  all_goals rfl

/-- A container that nests no deeper than is allowed is gone into. -/
theorem exists_enter {r : Reading} {d : Document} {n : Nat} (hdepth : d.depth = n + 1)
    (h : d.fits r.nesting) :
    ∃ inner, enter r = .ok inner ∧ ∀ part : Document, part.depth ≤ n → part.fits inner.nesting := by
  cases hnesting : r.nesting with
  | none => exact ⟨r, by rw [enter, hnesting], fun part _ => by rw [hnesting]; rfl⟩
  | some limit =>
      rw [hnesting, Document.fits, hdepth, decide_eq_true_eq] at h
      cases limit with
      | zero => cases h
      | succ limit =>
          refine ⟨{ r with nesting := some limit }, by rw [enter, hnesting], fun part hpart => ?_⟩
          exact decide_eq_true (Nat.le_trans hpart (Nat.le_of_succ_le_succ h))

/-- An array that fits can be entered, and its items fit what is left. -/
theorem exists_enter_array {r : Reading} {items : List Document}
    (h : (Document.array items).fits r.nesting) :
    ∃ inner, enter r = .ok inner ∧ ∀ item ∈ items, item.fits inner.nesting := by
  obtain ⟨inner, henter, hparts⟩ := exists_enter rfl h
  exact ⟨inner, henter, fun item hitem => hparts item (Document.depth_le_of_mem_items hitem)⟩

/-- An object that fits can be entered, and the values of its entries fit what is left. -/
theorem exists_enter_object {r : Reading} {entries : List (Option String × Document)}
    (h : (Document.object entries).fits r.nesting) :
    ∃ inner, enter r = .ok inner ∧ ∀ entry ∈ entries, entry.2.fits inner.nesting := by
  obtain ⟨inner, henter, hparts⟩ := exists_enter rfl h
  exact ⟨inner, henter, fun entry hentry =>
    hparts entry.2 (Document.depth_le_of_mem_fields hentry)⟩

/-- A nullable value that is there was read by the decoder itself. -/
theorem eq_ok_of_nullable {decode : Decoder α} {r : Reading} {d : Document} {v : α}
    (h : nullable decode r d = .ok (some v)) : decode r d = .ok v := by
  cases d with
  | null => cases h
  | bool | number | string | array | object =>
      obtain ⟨w, hw, heq⟩ := Except.map_eq_ok.mp h
      cases heq
      exact hw

/-- Where numbers are not filled in, a value that may be left out is ordered and not null. -/
theorem ordered_of_nullable_any {r : Reading} (hr : r.filling = false) {d : Document}
    {value : Option Json} (h : nullable any r d = .ok value) :
    ∀ v ∈ value, v.Ordered ∧ v ≠ .null := by
  rintro v rfl
  have hany := eq_ok_of_nullable h
  refine ⟨ordered_of_any hany, ?_⟩
  rintro rfl
  rw [eq_null_of_any hr hany] at h
  cases h

/-- A list is read item by item after the array is entered. -/
theorem list_of_enter {decode : Decoder α} {r inner : Reading} (henter : enter r = .ok inner)
    {items : List Document} {vs : List α} (h : items.mapM (decode inner) = .ok vs) :
    list decode r (.array items) = .ok vs := by
  rw [list, henter]
  exact h

/-- Without a limit of nesting, a list is read item by item. -/
theorem list_of_mapM {decode : Decoder α} {r : Reading} (hr : r.nesting = none)
    {items : List Document} {vs : List α} (h : items.mapM (decode r) = .ok vs) :
    list decode r (.array items) = .ok vs :=
  list_of_enter (by rw [enter, hr]) h

/-- An array of two is read as a pair, each item by its own decoder. -/
theorem pair_of_eq_ok {decode : Decoder α} {r : Reading} (hr : r.nesting = none)
    {first second : Document} {v w : α} (hfirst : decode r first = .ok v)
    (hsecond : decode r second = .ok w) : pair decode r (.array [first, second]) = .ok (v, w) := by
  have henter : enter r = .ok r := by rw [enter, hr]
  simp [pair, henter, hfirst, hsecond, refuseSurplus, bind, Except.bind, pure, Except.pure]

theorem mismatch_ne_ok {expected : String} {d : Document} {v : α} :
    mismatch expected d ≠ .ok v := by
  intro h
  obtain ⟨what, -, h⟩ := Except.bind_eq_ok.mp h
  exact Except.throw_ne_ok h

/-- A natural number that is read is below its limit. -/
theorem lt_of_natBelow {limit : Nat} {expected : String} {r : Reading} {d : Document} {n : Nat}
    (h : natBelow limit expected r d = .ok n) : n < limit := by
  unfold natBelow at h
  split at h
  · next i =>
    split at h
    · next hi =>
      cases h
      omega
    · cases h
  · exact absurd h mismatch_ne_ok

/-- What every item keeps holds of the list. -/
theorem forall_of_list {decode : Decoder α} {P : α → Prop}
    (hdecode : ∀ {r d v}, Document.InRange d → decode r d = .ok v → P v) {r : Reading}
    {d : Document} (hd : d.InRange) {vs : List α} (h : list decode r d = .ok vs) :
    ∀ v ∈ vs, P v := by
  cases d with
  | array items =>
      obtain ⟨inner, -, h⟩ := Except.bind_eq_ok.mp h
      refine Except.forall_of_mapM (fun item hitem v hv => ?_) h
      exact hdecode ((Document.itemsInRange_iff items).mp hd item hitem) hv
  | null | bool | number | string | object => exact absurd h mismatch_ne_ok

/-! ## values that are written -/

/- Null stands for a value that is missing, so a value that is there must be written as
something else. Reading it again may still fail at the limit of nesting, which is why
this is assumed. -/

/-- A value is written as something other than null that is read as this value again. -/
structure Recovers (decode : Decoder α) (r : Reading) (encode : α → Json) (v : α) : Prop where
  ne_null : encode v ≠ .null
  decode_encode : (Document.ofJson (encode v)).fits r.nesting →
    decode r (.ofJson (encode v)) = .ok v

section

variable {r : Reading}

/-- A decoder that recovers a value recovers it as one that may be null. -/
theorem Recovers.nullable {decode : Decoder α} {encode : α → Json} {v : α}
    (h : decode.Recovers r encode v) (hfits : (Document.ofJson (encode v)).fits r.nesting) :
    Decoder.nullable decode r (.ofJson (encode v)) = .ok (some v) := by
  have hmap : (decode r (.ofJson (encode v))).map some = .ok (some v) := by
    rw [h.decode_encode hfits]
    rfl
  have hnull := h.ne_null
  cases hjson : encode v with
  | null => exact absurd hjson hnull
  | bool | number | string | array | object =>
      rw [hjson] at hmap
      exact hmap

/-- A text is recovered from its string. -/
theorem recovers_text (text : String) : Decoder.text.Recovers r .string text :=
  ⟨nofun, fun _ => rfl⟩

/-- A truth value is recovered. -/
theorem recovers_bool (b : Bool) : Decoder.bool.Recovers r .bool b := ⟨nofun, fun _ => rfl⟩

/-- An integer below the limit is read as itself. -/
theorem natBelow_integer {limit n : Nat} (h : n < limit) (expected : String) (r : Reading) :
    natBelow limit expected r (.number (some (.integer n))) = .ok n := by
  rw [natBelow, if_pos ⟨Int.natCast_nonneg n, Int.ofNat_lt.mpr h⟩]
  rfl

/-- A natural number below the limit is recovered. -/
theorem recovers_natBelow {limit n : Nat} (h : n < limit) (expected : String) :
    (natBelow limit expected).Recovers r Json.ofNat n :=
  ⟨nofun, fun _ => natBelow_integer h expected r⟩

/-- Any value with keys in order is recovered, null included. -/
theorem any_ofJson_of_fits (hr : r.filling = false) {v : Json} (hv : v.Ordered)
    (hfits : (Document.ofJson v).fits r.nesting) : any r (.ofJson v) = .ok v := by
  rw [any_eq_ok, hr, if_neg Bool.false_ne_true, Document.value?, if_pos hfits]
  exact meaning?_ofJson v hv

/-- A value other than null is recovered by the decoder of any value. -/
theorem recovers_any (hr : r.filling = false) {v : Json} (hv : v.Ordered ∧ v ≠ .null) :
    any.Recovers r (fun v => v) v :=
  ⟨hv.2, any_ofJson_of_fits hr hv.1⟩

end

/-! ## dictionaries -/

/- A dictionary is read entry by entry into a list that is kept in order. Read from a
list that is in order already, every entry goes to the end. -/

/-- The keys of a dictionary are in increasing order, each once. -/
def Sorted (entries : List (String × α)) : Prop := (entries.map Prod.fst).Pairwise (· < ·)

/-- Putting an entry into a map is putting its encoding into the object. -/
theorem map_putEntry (f : α → Json) (key : String) (value : α) (entries : List (String × α)) :
    (putEntry key value entries).map (fun entry => (entry.1, f entry.2)) =
      Fields.insert key (f value) (entries.map fun entry => (entry.1, f entry.2)) := by
  induction entries with
  | nil => rfl
  | cons entry rest ih =>
      rw [putEntry, List.map_cons, Fields.insert]
      split
      · rfl
      · split
        · rfl
        · rw [List.map_cons, ih]

theorem sorted_iff (f : α → Json) (entries : List (String × α)) :
    Sorted entries ↔ Fields.Sorted (entries.map fun entry => (entry.1, f entry.2)) := by
  rw [Sorted, Fields.Sorted, List.map_map]
  rfl

/-- A map stays sorted when an entry is put into it. -/
theorem sorted_putEntry (key : String) (value : α) {entries : List (String × α)}
    (h : Sorted entries) : Sorted (putEntry key value entries) := by
  rw [sorted_iff fun _ => .null] at h ⊢
  rw [map_putEntry fun _ => .null]
  exact Fields.sorted_insert key .null h

/-- A dictionary that is read is sorted. -/
theorem sorted_of_dictionary {decode : Decoder α} {r : Reading} {d : Document}
    {entries : List (String × α)} (h : dictionary decode r d = .ok entries) : Sorted entries := by
  cases d with
  | object fields =>
      obtain ⟨inner, -, h⟩ := Except.bind_eq_ok.mp h
      have hempty : Sorted ([] : List (String × α)) := List.Pairwise.nil
      refine Except.inv_of_foldlM (fun {done field next} hdone hstep => ?_) hempty h
      obtain ⟨key, document⟩ := field
      cases key with
      | none => exact absurd hstep Except.throw_ne_ok
      | some key =>
          obtain ⟨value, -, hstep⟩ := Except.bind_eq_ok.mp hstep
          cases hstep
          exact sorted_putEntry key value hdone
  | null | bool | number | string | array => exact absurd h mismatch_ne_ok

/-- An entry behind all others. -/
theorem putEntry_of_forall_lt {key : String} {value : α} {entries : List (String × α)}
    (h : ∀ k ∈ entries.map Prod.fst, k < key) :
    putEntry key value entries = entries ++ [(key, value)] := by
  induction entries with
  | nil => rfl
  | cons entry rest ih =>
      obtain ⟨k, v⟩ := entry
      obtain ⟨hlt, hrest⟩ := List.forall_mem_cons.mp h
      have hne : ¬ key = k := fun heq => String.lt_irrefl key (heq ▸ hlt)
      rw [putEntry, if_neg (String.lt_asymm hlt), if_neg hne, ih hrest, List.cons_append]

/-- Entries whose keys come one behind the other are put into their places. -/
theorem foldlM_of_sorted {encode : α → Document}
    {f : List (String × α) → Option String × Document → Except DecodeError (List (String × α))}
    (hf : ∀ done key value, f done (some key, encode value) = .ok (putEntry key value done))
    {entries done : List (String × α)} (h : Sorted (done ++ entries)) :
    (entries.map fun entry => (some entry.1, encode entry.2)).foldlM f done =
      .ok (done ++ entries) := by
  induction entries generalizing done with
  | nil => exact congrArg Except.ok (List.append_nil done).symm
  | cons entry rest ih =>
      have hlast : ∀ k ∈ done.map Prod.fst, k < entry.1 := by
        intro k hk
        rw [Sorted, List.map_append, List.map_cons, List.pairwise_append] at h
        exact h.2.2 k hk entry.1 List.mem_cons_self
      have happend : done ++ entry :: rest = (done ++ [entry]) ++ rest := by simp
      rw [List.map_cons, List.foldlM_cons, hf, putEntry_of_forall_lt hlast, happend]
      exact ih (happend ▸ h)

/-- A sorted dictionary is read as it stands. -/
theorem dictionary_of_sorted {decode : Decoder α} {r : Reading} (hr : r.nesting = none)
    {encode : α → Document} (hdecode : ∀ value, decode r (encode value) = .ok value)
    {entries : List (String × α)} (h : Sorted entries) :
    dictionary decode r (.object (entries.map fun entry => (some entry.1, encode entry.2))) =
      .ok entries := by
  have henter : enter r = .ok r := by rw [enter, hr]
  rw [dictionary, henter]
  refine foldlM_of_sorted (fun done key value => ?_) h
  simp only [hdecode, bind, Except.bind, pure, Except.pure]

end Decoder

/-- The text of a value is read as this value if its numbers read back. -/
theorem decodeBytes_compact {α : Type} (decode : Decoder α) {v : Json}
    (hnumbers : ∀ n ∈ v.numbers, n.readBack = some n) :
    decodeBytes decode (Text.Utf8.encode v.compact.toList) =
      decode { nesting := some nestingLimit } (.ofJson v) := by
  rw [decodeBytes, Text.Utf8.fromUTF8?_encode, String.ofList_toList, Option.bind_some,
    parse?_compact, (reread_eq_ofJson_iff v).mpr hnumbers]

end SearchRelay.Json
