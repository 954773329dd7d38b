import SearchRelay.Proofs.Backend.Target
import SearchRelay.Proofs.Url.Authority

/-!
# SearchRelay.Proofs.Backend.Address

The address of a batch is always a URL.

Whatever the indices are called, their names come behind the authority of the base
address (`exists_address_eq`), and that is read again as it was read from the settings
(`Url.exists_parse`).  So the only thing that keeps a batch from being sent is that its
address cannot be sent (`exists_address`).  This happens: names that make the address too
long are never sent (`request?_of_long`), and no attempt is made for their batch
(`exchange_expired_or_unsent`).
-/

namespace SearchRelay.Backend

open Url

/-- The names of the indices come behind the authority. -/
theorem exists_address_eq {base : Url} (hbase : Parsed base) (indices : List String) :
    ∃ tail, Settings.address base indices = base.origin ++ tail ∧ tail.head? = some '/' ∧
      tail.getLast? = some 'h' := by
  by_cases hplain : base.query = none ∧ base.fragment = none
  · refine ⟨_, address_of_plain hbase hplain.1 hplain.2, ?_, ?_⟩
    · cases base.baseSegments with
      | nil => exact head?_appended indices
      | cons s path => rfl
    · rw [List.getLast?_append, getLast?_appended]
      rfl
  · obtain ⟨mark, more, -, haddress⟩ :=
      @address_of_marked base indices hbase (not_and_or.mp hplain)
    refine ⟨_, haddress, ?_, ?_⟩
    · cases hpath : base.path with
      | nil => exact absurd hpath hbase.path.ne_nil
      | cons s path => rfl
    · rw [← List.cons_append, List.getLast?_append, List.getLast?_append, getLast?_appended]
      rfl

/-- The address of every batch is a URL, and there is a request if it can be sent. -/
theorem exists_address {s : Settings} {b : Backend} (h : ofSettings s = .ok b) (batch : Batch) :
    ∃ url, Url.parse (b.address batch.indices) = .ok (some url) ∧
      b.request? batch = if url.isSendable then some (Request.ofBatch url batch) else none := by
  obtain ⟨-, hparse⟩ := parse_of_ofSettings h
  obtain ⟨tail, haddress, hhead, hlast⟩ := exists_address_eq (parsed_of_parse hparse) batch.indices
  obtain ⟨u, hu⟩ := exists_parse (parsed_of_parse hparse) (authority_of_parse hparse) hhead (by
    intro c hc
    rw [hlast] at hc
    cases hc
    rfl)
  have haddress : Url.parse (b.address batch.indices) = .ok (some u) := by
    rw [address, haddress, hu]
  exact ⟨u, haddress, by rw [request?, haddress]⟩

/-! ## names that are too long -/

/-- The target of a URL is sent with it. -/
theorem target_sublist_bare (u : Url) : u.target.Sublist u.bare.text := by
  have htext : ∀ v : Url, v.target.Sublist v.text := fun v =>
    (List.sublist_append_right ..).trans (List.sublist_append_left ..)
  unfold bare
  dsimp only
  split
  · exact htext { u with user := [] }
  · exact htext u

/-- Names that are one segment are sent at their full length. -/
theorem length_joined_le {base u : Url} {indices : List String} (hbase : Parsed base)
    (hquery : base.query = none) (hfragment : base.fragment = none) (hne : indices ≠ [])
    (hname : OneSegment (joined indices))
    (h : parse (String.ofList (Settings.address base indices)) = .ok (some u)) :
    (Text.Utf8.encode (joined indices)).length ≤ (Text.Utf8.encode u.bare.text).length := by
  obtain ⟨-, names, hpath, hnames⟩ := (targetLaw_iff_path (parsed_of_parse h).path).mp
    ((targetLaw_of_names hbase hquery hfragment h hne).mpr hname)
  rw [namesOf, if_neg (by simpa using hne)] at hnames
  obtain ⟨segment, rfl, hdecode⟩ := List.map_eq_singleton_iff.mp hnames
  have htarget : segment.Sublist u.target := by
    rw [target_eq (parsed_of_parse h).path, hpath]
    refine .trans ?_ (List.sublist_append_left ..)
    simp only [List.flatMap_append, List.append_assoc, List.flatMap_singleton]
    refine .trans ?_ (List.sublist_append_right ..)
    exact (List.sublist_cons_self ..).trans (List.sublist_append_left ..)
  calc
    (Text.Utf8.encode (joined indices)).length
      ≤ (Text.Utf8.encode segment).length := hdecode ▸ length_decode_le _
    _ ≤ (Text.Utf8.encode u.bare.text).length :=
      ((htarget.trans (target_sublist_bare u)).flatMap _).length_le

/-- **Names that are too long**: behind a plain base address, a batch whose indices have
more names than a URL that is sent may have bytes is not sent. -/
theorem request?_of_long {s : Settings} {b : Backend} (hb : ofSettings s = .ok b)
    (hquery : b.base.query = none) (hfragment : b.base.fragment = none) {batch : Batch}
    (hname : OneSegment (joined batch.indices))
    (hlong : mostBytes < (Text.Utf8.encode (joined batch.indices)).length) :
    b.request? batch = none := by
  have hne : batch.indices ≠ [] := by
    intro hnil
    rw [hnil] at hlong
    exact absurd hlong (by decide)
  refine request?_eq_none.mpr fun url hurl => ?_
  have hle := length_joined_le (parsed_of_ofSettings hb) hquery hfragment hne hname hurl
  rw [isSendable, decide_eq_false (by omega), Bool.false_and]

def letters (count : Nat) : String := String.ofList (List.replicate count 'a')

theorem joined_letters (count : Nat) : joined [letters count] = List.replicate count 'a' := by
  rw [joined, String.intercalate_singleton, letters, String.toList_ofList]

/-- Letters stay within a segment, however many they are. -/
theorem oneSegment_letters (count : Nat) : OneSegment (joined [letters count]) := by
  have hletter : ∀ c ∈ joined [letters count], c = 'a' := fun c hc =>
    List.eq_of_mem_replicate (joined_letters count ▸ hc)
  refine ⟨fun c hc => hletter c hc ▸ by decide, ?_, ?_, ?_⟩
  · refine decode_eq_self_iff.mp (Host.decode_encode (fun hc => ?_) fun c hc => ?_)
    · exact absurd (hletter _ hc) (by decide)
    · rw [hletter c hc]
      decide
  · intro hdot
    exact absurd (hletter '.' (hdot ▸ List.mem_singleton_self _)) (by decide)
  · intro hdots
    exact absurd (hletter '.' (hdots ▸ List.mem_cons_self ..)) (by decide)

theorem length_letters (count : Nat) :
    (Text.Utf8.encode (joined [letters count])).length = count := by
  rw [joined_letters]
  induction count with
  | zero => rfl
  | succ count ih =>
      rw [List.replicate_succ, Text.Utf8.encode, List.flatMap_cons, List.length_append]
      rw [Text.Utf8.encode] at ih
      rw [ih]
      exact Nat.add_comm 1 count

/-- The batch of one search of an index whose name has seventy thousand letters. -/
def longBatch : Batch := batchFor (letters 70000)

/-- No backend without a query or a fragment in its address can be asked for an index with
so long a name. -/
theorem request?_longBatch {s : Settings} {b : Backend} (hb : ofSettings s = .ok b)
    (hquery : b.base.query = none) (hfragment : b.base.fragment = none) :
    b.request? longBatch = none :=
  request?_of_long hb hquery hfragment (oneSegment_letters 70000)
    (Nat.lt_of_lt_of_eq (by decide) (length_letters 70000).symm)

end SearchRelay.Backend
