import SearchRelay.Proofs.Rule

/-!
# SearchRelay.Proofs.Rule.Outcome

What a list of rules leaves behind.

1. `applied_of_applyAll` — where the rules go through, the documents that none
   of them hides are left and counted, and the value that is promoted last is
   put in (`Applied`).  The order of the rules counts for that value only, and
   to apply them once more changes nothing.
2. `promotes_of_fault` — where they fail, no document has been taken out: only
   a value may have been promoted (`Promotes`).
-/

namespace SearchRelay.Rule

open Json

/-! ## rules that go through -/

/-- An object of hits before and after: these documents are left, and
counted. -/
structure HitsLeft (left : List Json) (before after : Fields) : Prop where
  documents : after.find? "hits" = some (.array left)
  total : after.find? "total" = some (.ofNat left.length)
  other : ∀ key, key ≠ "hits" → key ≠ "total" → after.find? key = before.find? key

/-- A result before and after rules that went through. -/
structure Applied (rules : List Rule) (before after : Fields) : Prop where
  promoted : after.find? "promoted" = (promoted? rules).or (before.find? "promoted")
  /-- Without a rule that hides the hits are the same. -/
  kept : ¬ rules.any (·.hide.isSome) → after.find? "hits" = before.find? "hits"
  /-- With one the documents that no rule hides are left. -/
  hidden : rules.any (·.hide.isSome) → ∃ (hits left : Fields) (documents : List Json),
    before.find? "hits" = some (.object hits) ∧ hits.find? "hits" = some (.array documents) ∧
      after.find? "hits" = some (.object left) ∧
      HitsLeft (unhidden (hiddenIds rules) documents) hits left
  other : ∀ key, key ≠ "promoted" → key ≠ "hits" → after.find? key = before.find? key

/-- Hits with the documents replaced and counted. -/
theorem hitsLeft_counted (documents : List Json) (hits : Fields) :
    HitsLeft documents hits (counted documents hits) where
  documents := find?_counted_hits documents hits
  total := find?_counted_total documents hits
  other _ hhits htotal := find?_counted_of_ne documents hits hhits htotal

theorem find?_withoutHidden_of_ne (rules : List Rule) (result : Fields) {key : String}
    (h : key ≠ "hits") : (withoutHidden rules result).find? key = result.find? key := by
  unfold withoutHidden
  split
  · split
    · exact Fields.find?_insert_of_ne h _ _
    · rfl
  · rfl

/-- What the rules make of a result is given in closed form. -/
theorem applied_of_applyFrom {rules : List Rule} {before after : Fields}
    (h : applyFrom before rules = (after, none)) : Applied rules before after := by
  obtain ⟨hlisted, rfl⟩ := applyFrom_eq_ok_iff.mp h
  have hhits := find?_withPromoted_of_ne (promoted? rules) (withoutHidden rules before)
    (show "hits" ≠ "promoted" by decide)
  constructor
  case promoted => rw [find?_withPromoted, find?_withoutHidden_of_ne rules before (by decide)]
  case kept =>
    intro hany
    rw [hhits, withoutHidden_of_not hany]
  case hidden =>
    intro hany
    obtain ⟨hits, documents, hfound⟩ := listed_iff.mp (hlisted hany)
    obtain ⟨hobject, hlist, -⟩ := hitsOf_eq_ok_iff.mp hfound
    rw [withoutHidden_of_any hany hfound, Fields.find?_insert_self] at hhits
    rw [withoutHidden_of_any hany hfound]
    exact ⟨hits, _, documents, hobject, hlist, hhits, hitsLeft_counted _ hits⟩
  case other =>
    intro key hpromoted hkey
    rw [find?_withPromoted_of_ne _ _ hpromoted, find?_withoutHidden_of_ne rules before hkey]

/-! ### the order of the rules -/

/-- Which documents are left depends on the set of hidden ids. -/
theorem unhidden_congr {ids others : List String} (h : ∀ id, id ∈ ids ↔ id ∈ others)
    (documents : List Json) : unhidden ids documents = unhidden others documents := by
  have hcontains : ids.contains = others.contains := by
    funext id
    rw [Bool.eq_iff_iff, List.contains_iff_mem, List.contains_iff_mem, h]
  simp only [unhidden, hides, hcontains]

/-- Hiding does not depend on the order of the rules. -/
theorem withoutHidden_perm {rules others : List Rule} (h : others.Perm rules) (result : Fields) :
    withoutHidden others result = withoutHidden rules result := by
  have hany : others.any (·.hide.isSome) = rules.any (·.hide.isSome) := h.any_eq
  have hids : ∀ id, id ∈ hiddenIds others ↔ id ∈ hiddenIds rules := fun _ =>
    (h.flatMap_right _).mem_iff
  simp only [withoutHidden, hany, unhidden_congr hids]

/-- In another order the rules go through as well.  What comes out may differ
in the promoted value only, and does not if the same value is promoted last, as
it is where the rules that were moved promote nothing. -/
def OrderFree (rules : List Rule) (result : Json) (changed : Fields) : Prop :=
  ∀ others, others.Perm rules → ∃ otherwise : Fields,
    applyAll others result = (.object otherwise, none) ∧
    (∀ key, key ≠ "promoted" → otherwise.find? key = changed.find? key) ∧
    (promoted? others = promoted? rules → otherwise = changed)

/-- Rules in another order differ in the promotion only. -/
theorem orderFree_of_applyFrom {rules : List Rule} {before after : Fields}
    (h : applyFrom before rules = (after, none)) : OrderFree rules (.object before) after := by
  obtain ⟨hlisted, rfl⟩ := applyFrom_eq_ok_iff.mp h
  intro others hperm
  have hsame := withoutHidden_perm hperm before
  have hthrough : applyFrom before others =
      (withPromoted (promoted? others) (withoutHidden rules before), none) := by
    rw [applyFrom_eq_ok_iff, hperm.any_eq, hsame]
    exact ⟨hlisted, rfl⟩
  refine ⟨_, applyAll_eq_ok_iff.mpr ⟨before, _, rfl, rfl, hthrough⟩, fun key hkey => ?_, ?_⟩
  · rw [find?_withPromoted_of_ne _ _ hkey, find?_withPromoted_of_ne _ _ hkey]
  · intro hpromoted
    rw [hpromoted]

/-! ### once more -/

/-- Hiding again hides nothing more. -/
theorem unhidden_idem (ids : List String) (documents : List Json) :
    unhidden ids (unhidden ids documents) = unhidden ids documents := by
  rw [unhidden_unhidden]
  exact unhidden_congr (by simp) documents

theorem listed_withoutHidden (rules : List Rule) {result : Fields} (h : Listed (.object result)) :
    Listed (.object (withoutHidden rules result)) := by
  obtain ⟨hits, documents, hhits⟩ := listed_iff.mp h
  by_cases hany : rules.any (·.hide.isSome)
  · rw [withoutHidden_of_any hany hhits]
    exact listed_iff.mpr ⟨_, _, hitsOf_insert_counted _ hhits⟩
  · rwa [withoutHidden_of_not hany]

/-- All rules that hide, a second time, hide nothing more. -/
theorem withoutHidden_idem (rules : List Rule) (result : Fields) :
    withoutHidden rules (withoutHidden rules result) = withoutHidden rules result := by
  by_cases hany : rules.any (·.hide.isSome)
  · cases hhits : hitsOf result with
    | error fault => simp [withoutHidden, hhits]
    | ok found =>
        obtain ⟨hits, documents⟩ := found
        rw [withoutHidden_of_any hany hhits,
          withoutHidden_of_any hany (hitsOf_insert_counted _ hhits), Fields.insert_insert,
          counted_counted, unhidden_idem]
  · rw [withoutHidden_of_not hany]

theorem listed_withPromoted (value : Option Json) (result : Fields) :
    Listed (.object (withPromoted value result)) ↔ Listed (.object result) := by
  rw [listed_iff, listed_iff, hitsOf_withPromoted]

/-- Applying the rules again changes nothing. -/
theorem applyFrom_idem {rules : List Rule} {before after : Fields}
    (h : applyFrom before rules = (after, none)) : applyFrom after rules = (after, none) := by
  obtain ⟨hlisted, rfl⟩ := applyFrom_eq_ok_iff.mp h
  refine applyFrom_eq_ok_iff.mpr ⟨fun hany => ?_, ?_⟩
  · rw [listed_withPromoted]
    exact listed_withoutHidden rules (hlisted hany)
  · rw [withoutHidden_withPromoted, withoutHidden_idem, withPromoted_withPromoted, Option.or_self]

/-- **The closed form of a list of rules**: it goes through an object that has a
list of documents where a rule hides.  What comes out is told by `Applied`,
whatever the order of the rules, and stays the same if they are applied once
more. -/
theorem applied_of_applyAll (rules : List Rule) (result : Json) :
    ((applyAll rules result).2 = none ↔
        (∃ before, result = .object before) ∧ (rules.any (·.hide.isSome) → Listed result)) ∧
      ∀ changed, applyAll rules result = (changed, none) →
        ∃ before after, result = .object before ∧ changed = .object after ∧
          Applied rules before after ∧ OrderFree rules result after ∧
          applyAll rules changed = (changed, none) := by
  refine ⟨applyAll_eq_none_iff, fun changed h => ?_⟩
  obtain ⟨before, after, rfl, rfl, hrun⟩ := applyAll_eq_ok_iff.mp h
  exact ⟨before, after, rfl, rfl, applied_of_applyFrom hrun, orderFree_of_applyFrom hrun,
    applyAll_eq_ok_iff.mpr ⟨after, after, rfl, rfl, applyFrom_idem hrun⟩⟩

/-- A result with three documents, one of them with a number for its id. -/
def threePhones : Json :=
  .object [("hits", .object [
    ("hits", .array [.object [("_id", .string "1")], .object [("_id", .ofNat 42)],
      .object [("_id", .string "3")]]),
    ("total", .object [("value", .ofNat 99)])])]

/-- Rules that hide two documents, one of them twice, and promote two values. -/
def saleRules : List Rule :=
  [{ hide := some ["42"], promote := some (.ofNat 1) }, { hide := some [] },
    { promote := some (.ofNat 2) }, { hide := some ["3", "42"] }]

/-- What is left of the three documents. -/
def phoneOnSale : Json :=
  .object [("hits", .object [
    ("hits", .array [.object [("_id", .string "1")]]), ("total", .ofNat 1)]),
    ("promoted", .ofNat 2)]

/-- Of the three documents one is left, and of the two promotions the later one. -/
theorem applied_of_applyAll_phones :
    applyAll saleRules threePhones = (phoneOnSale, none) ∧
      ∃ before after, threePhones = .object before ∧ phoneOnSale = .object after ∧
        Applied saleRules before after ∧ OrderFree saleRules threePhones after ∧
        applyAll saleRules phoneOnSale = (phoneOnSale, none) := by
  have hrun : applyAll saleRules threePhones = (phoneOnSale, none) := by decide +kernel
  exact ⟨hrun, (applied_of_applyAll saleRules threePhones).2 phoneOnSale hrun⟩

/-! ## rules that fail -/

/-- A result before and after: at most a value was promoted in it. -/
def Promotes (value : Option Json) : Json → Json → Prop
  | .object before, .object after =>
    Fields.find? after "promoted" = value.or (Fields.find? before "promoted") ∧
      ∀ key, key ≠ "promoted" → Fields.find? after key = Fields.find? before key
  | before, after => after = before

/-- **Rules that fail hide nothing**: the hits are the same as before, whatever
rules stand in front of the one that fails.  A value in the result is the last
one that was promoted up to the first rule that hides. -/
theorem promotes_of_fault {rules : List Rule} {result left : Json} {fault : Fault}
    (h : applyAll rules result = (left, some fault)) :
    Promotes (promoted? (untilHiding rules)) result left ∧
      documents? left = documents? result ∧ total? left = total? result := by
  cases result with
  | object fields =>
      rw [applyAll] at h
      cases hhits : hitsOf fields with
      | ok found =>
          obtain ⟨hits, documents⟩ := found
          rw [applyFrom_of_hitsOf hhits] at h
          cases (Prod.mk.inj h).2
      | error reason =>
          rw [applyFrom_of_fault hhits] at h
          obtain ⟨rfl, -⟩ := Prod.mk.inj h
          have hsame := hitsFields?_congr
            (find?_withPromoted_of_ne (promoted? (untilHiding rules)) fields
              (show "hits" ≠ "promoted" by decide))
          refine ⟨⟨find?_withPromoted _ fields,
            fun key hkey => find?_withPromoted_of_ne _ fields hkey⟩, ?_, ?_⟩
          · rw [documents?, documents?, hsame]
          · rw [total?, total?, hsame]
  | null | bool | number | string | array =>
      obtain ⟨rfl, -⟩ := Prod.mk.inj h
      exact ⟨rfl, rfl, rfl⟩

/-- A result whose second document is none, and a value promoted in it. -/
def brokenPhones (promoted : Fields) : Json :=
  .object (("hits", .object [
    ("hits", .array [.object [("_id", .string "1")], .string "2"]), ("total", .ofNat 2)]) ::
    promoted)

/-- Rules that promote a value before, in and behind the first one that
hides. -/
def hastyRules : List Rule :=
  [{ promote := some (.ofNat 1) }, { hide := some ["1"], promote := some (.ofNat 2) },
    { promote := some (.ofNat 3) }]

/-- The second rule promotes before it fails, and the third is not tried. -/
theorem promotes_of_fault_hasty :
    applyAll hastyRules (brokenPhones []) =
        (brokenPhones [("promoted", .ofNat 2)], some .hitNotObject) ∧
      Promotes (promoted? (untilHiding hastyRules)) (brokenPhones [])
        (brokenPhones [("promoted", .ofNat 2)]) ∧
      documents? (brokenPhones [("promoted", .ofNat 2)]) = documents? (brokenPhones []) ∧
      total? (brokenPhones [("promoted", .ofNat 2)]) = total? (brokenPhones []) := by
  have hrun : applyAll hastyRules (brokenPhones []) =
      (brokenPhones [("promoted", .ofNat 2)], some .hitNotObject) := by decide +kernel
  exact ⟨hrun, promotes_of_fault hrun⟩

end SearchRelay.Rule
