import SearchRelay.Proofs.Json.Text

/-!
# SearchRelay.Proofs.Json.Object

Texts that begin like an object.

1. `inObject_step` — a reader that is within an object, or behind its end with
   nothing around it, stays so;
2. `object_of_parse?` — so a text whose first character opens an object is read
   as an object, if it is read at all.
-/

namespace SearchRelay.Json.Document

/-- What may come next where an object is open or has just been closed. -/
def Awaiting.OfObject : Awaiting → Prop
  | .firstKey | .key _ | .colon _ _ | .after (.object _) => True
  | _ => False

/-- The outermost open container is an object. -/
def WithinObject (frames : List Frame) : Prop :=
  ∃ before key, frames.getLast? = some (.object before key)

/-- A reader that has read the beginning of an object, and nothing beyond its
end. -/
def Reader.InObject (r : Reader) : Prop :=
  WithinObject r.frames ∨ (r.frames = [] ∧ r.awaiting.OfObject)

/-- Opening another value keeps the outermost one an object. -/
theorem withinObject_cons {frames : List Frame} (h : WithinObject frames) (frame : Frame) :
    WithinObject (frame :: frames) := by
  obtain ⟨before, key, hlast⟩ := h
  exact ⟨before, key, by rw [List.getLast?_cons, hlast]; rfl⟩

/-- An object opened at the outermost level is the outermost value. -/
theorem withinObject_object (before : List (Option String × Document)) (key : Option String)
    {frames : List Frame} (h : frames = [] ∨ WithinObject frames) :
    WithinObject (.object before key :: frames) := by
  rcases h with rfl | h
  · exact ⟨before, key, rfl⟩
  · exact withinObject_cons h _

/-- Closing a frame leaves the outermost object open or nothing at all. -/
theorem withinObject_of_cons {frame : Frame} {frames : List Frame}
    (h : WithinObject (frame :: frames)) : frames = [] ∨ WithinObject frames := by
  cases frames with
  | nil => exact .inl rfl
  | cons next frames =>
      obtain ⟨before, key, hlast⟩ := h
      exact .inr ⟨before, key, by rwa [List.getLast?_cons_cons] at hlast⟩

/-- An open array is never the outermost value, so closing it leaves the object open. -/
theorem withinObject_of_array {before : List Document} {frames : List Frame}
    (h : WithinObject (.array before :: frames)) : WithinObject frames := by
  rcases withinObject_of_cons h with rfl | h
  · obtain ⟨_, _, hlast⟩ := h
    cases hlast
  · exact h

/-- A value that is started within an object ends there. -/
theorem inObject_startValue {frames : List Frame} {token : Token} {next : Reader}
    (hframes : WithinObject frames) (h : Reader.startValue frames token = some next) :
    next.InObject := by
  unfold Reader.startValue at h
  split at h
  · cases h
    exact .inl (withinObject_cons hframes _)
  · cases h
    exact .inl hframes
  · obtain ⟨v, -, rfl⟩ := Option.map_eq_some_iff.mp h
    exact .inl hframes

/-- A token after a value keeps the reader in the outermost object. -/
theorem inObject_afterValue {v : Document} {frames : List Frame} {token : Token} {next : Reader}
    (hframes : WithinObject frames) (h : Reader.afterValue v frames token = some next) :
    next.InObject := by
  unfold Reader.afterValue at h
  split at h
  · cases h
    exact .inl (withinObject_cons (withinObject_of_array hframes) _)
  · cases h
    exact .inl (withinObject_of_array hframes)
  · cases h
    exact (withinObject_of_cons hframes).symm.imp_right fun hnil => ⟨hnil, trivial⟩
  · cases h
    exact (withinObject_of_cons hframes).symm.imp_right fun hnil => ⟨hnil, trivial⟩
  · contradiction

/-- A reader that awaits a part of an object is in one. -/
theorem inObject_of_open {awaiting : Awaiting} {frames : List Frame}
    (hframes : frames = [] ∨ WithinObject frames) (hawaiting : awaiting.OfObject) :
    Reader.InObject ⟨awaiting, frames⟩ := by
  rcases hframes with rfl | hframes
  · exact .inr ⟨rfl, hawaiting⟩
  · exact .inl hframes

/-- A token keeps the reader in the outermost object. -/
theorem inObject_step {r next : Reader} {token : Token} (hr : r.InObject)
    (h : r.step token = some next) : next.InObject := by
  obtain ⟨awaiting, frames⟩ := r
  have hopen : frames = [] ∨ WithinObject frames := hr.symm.imp_left And.left
  have hwithin : ¬ awaiting.OfObject → WithinObject frames := fun hnot =>
    hr.resolve_right fun hawaiting => hnot hawaiting.2
  cases awaiting with
  | value => exact inObject_startValue (hwithin id) h
  | firstItem =>
      unfold Reader.step at h
      split at h
      case h_2 => exact inObject_startValue (hwithin id) h
      case h_1 hframes =>
        cases h
        dsimp only at hframes
        subst hframes
        exact .inl (withinObject_of_array (hwithin id))
      all_goals contradiction
  | firstKey =>
      cases token
      case endObject =>
        cases h
        exact inObject_of_open hopen trivial
      case string key =>
        cases h
        exact inObject_of_open hopen trivial
      all_goals cases h
  | key before =>
      cases token
      case string key =>
        cases h
        exact inObject_of_open hopen trivial
      all_goals cases h
  | colon before key =>
      cases token
      case colon =>
        cases h
        exact .inl (withinObject_object _ _ hopen)
      all_goals cases h
  | after v =>
      by_cases hv : (Awaiting.after v).OfObject ∧ frames = []
      · rw [hv.2] at h
        cases token <;> cases h
      · refine inObject_afterValue ?_ h
        exact hr.resolve_right fun hnot => hv ⟨hnot.2, hnot.1⟩

/-- What is read from the beginning of an object on is an object. -/
theorem object_of_foldlM {r last : Reader} {tokens : List Token} {d : Document} (hr : r.InObject)
    (h : tokens.foldlM Reader.step r = some last) (hd : last.finish? = some d) :
    ∃ fields, d = .object fields := by
  induction tokens generalizing r with
  | nil =>
      cases h
      unfold Reader.finish? at hd
      split at hd
      · next v hawaiting hframes =>
        cases hd
        rcases hr with hwithin | ⟨-, hobject⟩
        · rw [hframes] at hwithin
          obtain ⟨_, _, hlast⟩ := hwithin
          cases hlast
        · rw [hawaiting] at hobject
          cases d with
          | object fields => exact ⟨fields, rfl⟩
          | null | bool | number | string | array => exact hobject.elim
      · contradiction
  | cons token tokens ih =>
      rw [List.foldlM_cons] at h
      obtain ⟨next, hnext, h⟩ := Option.bind_eq_some_iff.mp h
      exact ih (inObject_step hr hnext) h

/-- A text that opens with a brace is read as an object or not at all. -/
theorem object_of_parse? {cs : List Char} {d : Document}
    (h : parse? (String.ofList ('{' :: cs)) = some d) : ∃ fields, d = .object fields := by
  obtain ⟨tokens, htokens, h⟩ := Option.bind_eq_some_iff.mp h
  rw [String.toList_ofList, tokens?_beginObject] at htokens
  obtain ⟨rest, -, rfl⟩ := Option.map_eq_some_iff.mp htokens
  obtain ⟨last, hlast, hd⟩ := Option.bind_eq_some_iff.mp h
  rw [List.foldlM_cons] at hlast
  exact object_of_foldlM (r := ⟨.firstKey, []⟩) (.inr ⟨rfl, trivial⟩) hlast hd

/-- An object has an object for its value. -/
theorem object_of_value? {limit : Option Nat} {fields : List (Option String × Document)} {v : Json}
    (h : value? limit (.object fields) = some v) : ∃ values, v = .object values := by
  unfold value? at h
  split at h
  · rw [meaning?] at h
    obtain ⟨values, -, rfl⟩ := Option.map_eq_some_iff.mp h
    exact ⟨_, rfl⟩
  · contradiction

end SearchRelay.Json.Document
