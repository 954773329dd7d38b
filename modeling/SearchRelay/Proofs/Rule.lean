import SearchRelay.Proofs.Except
import SearchRelay.Proofs.Json.Fields
import SearchRelay.Rule

/-!
# SearchRelay.Proofs.Rule

What rules make of the hits of a result.

What a list of rules does to an object depends on whether the object has a
list of documents among its hits (`hitsOf`), and is then known in closed form:

1. `applyFrom_of_hitsOf` — with such a list all rules go through: the documents
   that one of them hides (`hiddenIds`) are taken out at once, and the value
   that is promoted last (`promoted?`) is put in;
2. `applyFrom_of_fault` — without one the first rule that hides ends the
   application, and only values that were promoted up to there are put in.

`applyAll_spec` and `applyAll_eq_none_iff` read off what becomes of the hits,
and when rules go through.
-/

namespace SearchRelay.Rule

open Json

/-! ## views of a result -/

/-- The object of hits in a result. -/
def hitsFields? (result : Json) : Option Fields := do
  let fields ← result.object?
  let hits ← Fields.find? fields "hits"
  hits.object?

/-- The list of hits in a result. -/
def documents? (result : Json) : Option (List Json) := do
  let hits ← hitsFields? result
  let documents ← Fields.find? hits "hits"
  documents.array?

/-- The number of hits that a result reports. -/
def total? (result : Json) : Option Json := do
  let hits ← hitsFields? result
  Fields.find? hits "total"

theorem hitsFields?_of_find? {fields hits : Fields}
    (h : Fields.find? fields "hits" = some (.object hits)) :
    hitsFields? (.object fields) = some hits := by
  simp [hitsFields?, object?, h]

theorem hitsFields?_congr {fields others : Fields}
    (h : others.find? "hits" = fields.find? "hits") :
    hitsFields? (.object others) = hitsFields? (.object fields) := by
  simp [hitsFields?, object?, h]

/-- The documents are the list under the hits of the hits. -/
theorem documents?_of_hitsFields? {result : Json} {hits : Fields}
    (h : hitsFields? result = some hits) {documents : List Json}
    (hdocuments : Fields.find? hits "hits" = some (.array documents)) :
    documents? result = some documents := by
  simp [documents?, h, hdocuments, array?]

/-- A list of documents lies two objects deep. -/
theorem documents?_eq_some {result : Json} {documents : List Json}
    (h : documents? result = some documents) :
    ∃ fields hits, result = .object fields ∧ Fields.find? fields "hits" = some (.object hits) ∧
      Fields.find? hits "hits" = some (.array documents) := by
  simp only [documents?, hitsFields?, Option.bind_eq_bind, Option.bind_eq_some_iff,
    object?_eq_some_iff, array?_eq_some_iff] at h
  obtain ⟨hits, ⟨fields, rfl, _, hhits, rfl⟩, _, hlist, rfl⟩ := h
  exact ⟨fields, hits, rfl, hhits, hlist⟩

theorem total?_of_hitsFields? {result : Json} {hits : Fields}
    (h : hitsFields? result = some hits) : total? result = Fields.find? hits "total" := by
  simp [total?, h]

/-! ## the list of documents -/

/-- A result with a list of documents among its hits. -/
def Listed (result : Json) : Prop :=
  ∃ documents, documents? result = some documents ∧ ∀ d ∈ documents, ∃ fields, d = .object fields

theorem any_isNone_iff (documents : List Json) :
    documents.any (fun d => d.object?.isNone) = false ↔
      ∀ d ∈ documents, ∃ fields, d = .object fields := by
  rw [List.any_eq_false]
  refine forall₂_congr fun d _ => ?_
  cases d <;> simp [object?]

/-- The hits of a result are found if and only if they are an object with a
list of objects in it. -/
theorem hitsOf_eq_ok_iff {result hits : Fields} {documents : List Json} :
    hitsOf result = .ok (hits, documents) ↔
      result.find? "hits" = some (.object hits) ∧ hits.find? "hits" = some (.array documents) ∧
        ∀ d ∈ documents, ∃ fields, d = .object fields := by
  rw [← any_isNone_iff]
  constructor
  · intro h
    unfold hitsOf at h
    split at h
    · next found hfound =>
      split at h
      · next list hlist =>
        split at h
        · obtain ⟨_, hthrow, _⟩ := Except.bind_eq_ok.mp h
          exact absurd hthrow Except.throw_ne_ok
        · next hall =>
          obtain ⟨rfl, rfl⟩ := Prod.mk.inj (Except.pure_eq_ok.mp h)
          exact ⟨hfound, hlist, Bool.not_eq_true _ ▸ hall⟩
      · exact absurd h Except.throw_ne_ok
    · exact absurd h Except.throw_ne_ok
  · rintro ⟨hfound, hlist, hall⟩
    simp [hitsOf, hfound, hlist, hall, pure, Except.pure]

/-- A result has a list of documents if and only if its hits can be hidden. -/
theorem listed_iff {result : Fields} :
    Listed (.object result) ↔ ∃ hits documents, hitsOf result = .ok (hits, documents) := by
  simp only [hitsOf_eq_ok_iff]
  constructor
  · rintro ⟨documents, hdocuments, hobjects⟩
    obtain ⟨fields, hits, hfields, hfound, hlist⟩ := documents?_eq_some hdocuments
    cases hfields
    exact ⟨hits, documents, hfound, hlist, hobjects⟩
  · rintro ⟨hits, documents, hfound, hlist, hobjects⟩
    exact ⟨documents, documents?_of_hitsFields? (hitsFields?_of_find? hfound) hlist, hobjects⟩

/-- Only the field with the hits counts. -/
theorem hitsOf_congr {result other : Fields} (h : other.find? "hits" = result.find? "hits") :
    hitsOf other = hitsOf result := by
  simp only [hitsOf, h]

/-! ## hidden documents -/

/- Hiding filters the documents and counts them again. Filtering twice is filtering by
both lists, so a list of rules hides what any of them names. -/

/-- The ids that a list of rules hides. -/
def hiddenIds (rules : List Rule) : List String := rules.flatMap fun r => r.hide.getD []

/-- The documents that are not hidden, in their order. -/
def unhidden (ids : List String) (documents : List Json) : List Json :=
  documents.filter fun d => !hides ids d

theorem hiddenIds_cons (r : Rule) (rules : List Rule) :
    hiddenIds (r :: rules) = r.hide.getD [] ++ hiddenIds rules := by
  rw [hiddenIds, List.flatMap_cons]
  rfl

theorem hides_append (ids more : List String) (d : Json) :
    hides (ids ++ more) d = (hides ids d || hides more d) := by
  cases hid : documentId? d with
  | none => simp [hides, hid]
  | some id => simp [hides, hid, Bool.decide_or]

/-- Hiding twice is hiding by both lists at once. -/
theorem unhidden_unhidden (ids more : List String) (documents : List Json) :
    unhidden more (unhidden ids documents) = unhidden (ids ++ more) documents := by
  rw [unhidden, unhidden, unhidden, List.filter_filter]
  congr 1
  funext d
  rw [hides_append, Bool.not_or, Bool.and_comm]

/-- An object of hits with these documents in it, counted. -/
def counted (documents : List Json) (hits : Fields) : Fields :=
  (hits.insert "hits" (.array documents)).insert "total" (.ofNat documents.length)

theorem find?_counted_hits (documents : List Json) (hits : Fields) :
    (counted documents hits).find? "hits" = some (.array documents) := by
  rw [counted, Fields.find?_insert_of_ne (by decide), Fields.find?_insert_self]

theorem find?_counted_total (documents : List Json) (hits : Fields) :
    (counted documents hits).find? "total" = some (.ofNat documents.length) :=
  Fields.find?_insert_self _ _ _

theorem find?_counted_of_ne (documents : List Json) (hits : Fields) {key : String}
    (hhits : key ≠ "hits") (htotal : key ≠ "total") :
    (counted documents hits).find? key = hits.find? key := by
  rw [counted, Fields.find?_insert_of_ne htotal, Fields.find?_insert_of_ne hhits]

/-- Counting again replaces both the documents and the total. -/
theorem counted_counted (kept documents : List Json) (hits : Fields) :
    counted kept (counted documents hits) = counted kept hits := by
  have hne : "total" ≠ "hits" := by decide
  simp only [counted]
  rw [Fields.insert_comm hne, Fields.insert_insert, Fields.insert_insert]

/-- Hiding documents leaves the others in their order and counts them. -/
theorem hideFrom_of_hitsOf {result hits : Fields} {documents : List Json}
    (h : hitsOf result = .ok (hits, documents)) (ids : List String) :
    hideFrom ids result =
      .ok (result.insert "hits" (.object (counted (unhidden ids documents) hits))) := by
  rw [hideFrom, h]
  rfl

/-- Hiding fails where the hits are out of shape, whatever the ids. -/
theorem hideFrom_of_fault {result : Fields} {fault : Fault} (h : hitsOf result = .error fault)
    (ids : List String) : hideFrom ids result = .error fault := by
  rw [hideFrom, h]
  rfl

/-- What is left after hiding is a list of documents again. -/
theorem hitsOf_insert_counted (ids : List String) {result hits : Fields} {documents : List Json}
    (h : hitsOf result = .ok (hits, documents)) :
    hitsOf (result.insert "hits" (.object (counted (unhidden ids documents) hits))) =
      .ok (counted (unhidden ids documents) hits, unhidden ids documents) :=
  hitsOf_eq_ok_iff.mpr ⟨Fields.find?_insert_self _ _ _, find?_counted_hits _ hits,
    fun d hd => (hitsOf_eq_ok_iff.mp h).2.2 d (List.mem_filter.mp hd).1⟩

/-! ## promoted values -/

/- A promotion touches one key and hiding another one, so the two commute, and of
several promotions the last one stands. -/

/-- The value that a list of rules promotes: that of the last rule that
promotes one. -/
def promoted? (rules : List Rule) : Option Json := (rules.filterMap Rule.promote).getLast?

/-- A result with a value promoted in it, if there is one. -/
def withPromoted (value : Option Json) (result : Fields) : Fields :=
  value.elim result fun v => result.insert "promoted" v

theorem promoted?_cons (r : Rule) (rules : List Rule) :
    promoted? (r :: rules) = (promoted? rules).or r.promote := by
  cases hpromote : r.promote with
  | none => simp [promoted?, hpromote]
  | some value => simp [promoted?, hpromote, List.getLast?_cons, Option.or_some]

/-- Promoting sets the field, or leaves the result as it is. -/
theorem promoteIn_eq (r : Rule) (result : Fields) :
    r.promoteIn result = withPromoted r.promote result := rfl

/-- The later promotion wins, if there is one. -/
theorem withPromoted_withPromoted (value second : Option Json) (result : Fields) :
    withPromoted second (withPromoted value result) = withPromoted (second.or value) result := by
  cases second with
  | none => rfl
  | some w =>
      cases value with
      | none => rfl
      | some v => exact Fields.insert_insert "promoted" v w result

theorem find?_withPromoted (value : Option Json) (result : Fields) :
    (withPromoted value result).find? "promoted" = value.or (result.find? "promoted") := by
  cases value with
  | none => rfl
  | some v => exact Fields.find?_insert_self _ _ _

theorem find?_withPromoted_of_ne (value : Option Json) (result : Fields) {key : String}
    (h : key ≠ "promoted") : (withPromoted value result).find? key = result.find? key := by
  cases value with
  | none => rfl
  | some v => exact Fields.find?_insert_of_ne h _ _

/-- Promoting and replacing the hits do not touch one another. -/
theorem withPromoted_insert_hits (value : Option Json) (hits : Json) (result : Fields) :
    (withPromoted value result).insert "hits" hits =
      withPromoted value (result.insert "hits" hits) := by
  cases value with
  | none => rfl
  | some v => exact Fields.insert_comm (by decide) v hits result

/-- Promoting leaves the hits alone. -/
theorem hitsOf_withPromoted (value : Option Json) (result : Fields) :
    hitsOf (withPromoted value result) = hitsOf result :=
  hitsOf_congr (find?_withPromoted_of_ne value result (by decide))

/-! ## lists of rules -/

/- The induction is on the rules, over the result so far. With a list of documents every
rule goes through, and the result is in closed form; without one, nothing but promotions
happens up to the first rule that hides. -/

/-- A result without the documents that a list of rules hides, if one of the
rules hides any and there is a list of documents. -/
def withoutHidden (rules : List Rule) (result : Fields) : Fields :=
  match hitsOf result with
  | .ok (hits, documents) =>
    if rules.any (·.hide.isSome) then
      result.insert "hits" (.object (counted (unhidden (hiddenIds rules) documents) hits))
    else result
  | .error _ => result

theorem withoutHidden_of_not {rules : List Rule} (h : ¬ rules.any (·.hide.isSome))
    (result : Fields) : withoutHidden rules result = result := by
  unfold withoutHidden
  split
  · exact if_neg h
  · rfl

theorem withoutHidden_of_any {rules : List Rule} (h : rules.any (·.hide.isSome))
    {result hits : Fields} {documents : List Json} (hhits : hitsOf result = .ok (hits, documents)) :
    withoutHidden rules result =
      result.insert "hits" (.object (counted (unhidden (hiddenIds rules) documents) hits)) := by
  rw [withoutHidden, hhits]
  exact if_pos h

/-- Promoting and hiding do not touch one another. -/
theorem withoutHidden_withPromoted (rules : List Rule) (value : Option Json) (result : Fields) :
    withoutHidden rules (withPromoted value result) =
      withPromoted value (withoutHidden rules result) := by
  simp only [withoutHidden, hitsOf_withPromoted, withPromoted_insert_hits]
  split
  · split <;> rfl
  · rfl

theorem withoutHidden_cons_of_none {r : Rule} (h : r.hide = none) (rules : List Rule)
    (result : Fields) : withoutHidden (r :: rules) result = withoutHidden rules result := by
  simp [withoutHidden, hiddenIds_cons, h]

theorem hiddenIds_of_not {rules : List Rule} (h : ¬ rules.any (·.hide.isSome)) :
    hiddenIds rules = [] := by
  rw [hiddenIds, List.flatMap_eq_nil_iff]
  intro r hr
  cases hhide : r.hide with
  | none => rfl
  | some ids => exact absurd (List.any_eq_true.mpr ⟨r, hr, by simp [hhide]⟩) h

/-- What one rule has taken out counts as hidden by the whole list. -/
theorem withoutHidden_cons_of_some {r : Rule} {ids : List String} (h : r.hide = some ids)
    (rules : List Rule) {result hits : Fields} {documents : List Json}
    (hhits : hitsOf result = .ok (hits, documents)) :
    withoutHidden rules
        (result.insert "hits" (.object (counted (unhidden ids documents) hits))) =
      withoutHidden (r :: rules) result := by
  have hcons : (r :: rules).any (·.hide.isSome) := by simp [h]
  have hall : hiddenIds (r :: rules) = ids ++ hiddenIds rules := by
    rw [hiddenIds_cons, h, Option.getD_some]
  rw [withoutHidden_of_any hcons hhits, hall]
  by_cases hany : rules.any (·.hide.isSome)
  · rw [withoutHidden_of_any hany (hitsOf_insert_counted ids hhits), Fields.insert_insert,
      counted_counted, unhidden_unhidden]
  · rw [withoutHidden_of_not hany, hiddenIds_of_not hany, List.append_nil]

/-- **Rules that go through**: what a list of rules makes of a result with a list
of documents. -/
theorem applyFrom_of_hitsOf {result hits : Fields} {documents : List Json}
    (h : hitsOf result = .ok (hits, documents)) (rules : List Rule) :
    applyFrom result rules =
      (withPromoted (promoted? rules) (withoutHidden rules result), none) := by
  induction rules generalizing result hits documents with
  | nil => rw [withoutHidden_of_not (by simp)]; rfl
  | cons r rules ih =>
      -- neither kind of action takes the list of documents away
      have hpromoted : hitsOf (r.promoteIn result) = .ok (hits, documents) := by
        rw [promoteIn_eq, hitsOf_withPromoted, h]
      rw [applyFrom, promoted?_cons, ← withPromoted_withPromoted, ← withoutHidden_withPromoted,
        ← promoteIn_eq]
      cases hhide : r.hide with
      | none =>
          rw [withoutHidden_cons_of_none hhide]
          exact ih hpromoted
      | some ids =>
          simp only [hideFrom_of_hitsOf hpromoted ids]
          rw [ih (hitsOf_insert_counted ids hpromoted),
            withoutHidden_cons_of_some hhide _ hpromoted]

/-- The rules up to the first one that hides documents. -/
def untilHiding (rules : List Rule) : List Rule :=
  rules.take (rules.findIdx (·.hide.isSome) + 1)

/-- **Rules that fail**: in a result without a list of documents only values are
promoted, up to the first rule that hides. -/
theorem applyFrom_of_fault {result : Fields} {fault : Fault} (h : hitsOf result = .error fault)
    (rules : List Rule) :
    applyFrom result rules =
      (withPromoted (promoted? (untilHiding rules)) result,
        if rules.any (·.hide.isSome) then some fault else none) := by
  induction rules generalizing result with
  | nil => rfl
  | cons r rules ih =>
      have hpromoted : hitsOf (r.promoteIn result) = .error fault := by
        rw [promoteIn_eq, hitsOf_withPromoted, h]
      rw [applyFrom, untilHiding, List.findIdx_cons, List.any_cons]
      cases hhide : r.hide with
      | none =>
          simp only [Option.isSome_none, cond_false, Bool.false_or, List.take_succ_cons]
          rw [ih hpromoted, promoteIn_eq, promoted?_cons, withPromoted_withPromoted, untilHiding]
      | some ids =>
          simp only [hideFrom_of_fault hpromoted ids, Option.isSome_some, cond_true, Bool.true_or,
            List.take_succ_cons, List.take_zero, if_true]
          rw [promoteIn_eq, promoted?_cons]
          rfl

theorem untilHiding_of_not {rules : List Rule} (h : ¬ rules.any (·.hide.isSome)) :
    untilHiding rules = rules := by
  have hall : rules.findIdx (·.hide.isSome) = rules.length := by
    rw [List.findIdx_eq_length]
    intro r hr
    exact Bool.eq_false_iff.mpr fun hhide => h (List.any_eq_true.mpr ⟨r, hr, hhide⟩)
  rw [untilHiding, hall, List.take_of_length_le (Nat.le_succ _)]

/-- A list of rules goes through if and only if there is a list of documents
where one of them hides, and then this is what comes out. -/
theorem applyFrom_eq_ok_iff {rules : List Rule} {result changed : Fields} :
    applyFrom result rules = (changed, none) ↔
      (rules.any (·.hide.isSome) → Listed (.object result)) ∧
        changed = withPromoted (promoted? rules) (withoutHidden rules result) := by
  rw [listed_iff]
  cases hhits : hitsOf result with
  | ok found =>
      obtain ⟨hits, documents⟩ := found
      rw [applyFrom_of_hitsOf hhits, Prod.mk.injEq]
      exact ⟨fun h => ⟨fun _ => ⟨hits, documents, rfl⟩, h.1.symm⟩, fun h => ⟨h.2.symm, rfl⟩⟩
  | error fault =>
      rw [applyFrom_of_fault hhits, Prod.mk.injEq]
      by_cases hany : rules.any (·.hide.isSome)
      · simp [hany]
      · rw [untilHiding_of_not hany, withoutHidden_of_not hany, if_neg hany]
        exact ⟨fun h => ⟨fun htrue => absurd htrue hany, h.1.symm⟩, fun h => ⟨h.2.symm, rfl⟩⟩

/-- Rules that go through make an object of an object. -/
theorem applyAll_eq_ok_iff {rules : List Rule} {result changed : Json} :
    applyAll rules result = (changed, none) ↔
      ∃ before after, result = .object before ∧ changed = .object after ∧
        applyFrom before rules = (after, none) := by
  cases result with
  | object before =>
      rw [applyAll]
      constructor
      · intro h
        obtain ⟨hchanged, hnone⟩ := Prod.mk.inj h
        exact ⟨before, _, rfl, hchanged.symm, Prod.ext rfl hnone⟩
      · rintro ⟨_, after, hbefore, rfl, hrun⟩
        cases hbefore
        rw [hrun]
  | null | bool | number | string | array => simp [applyAll]

/-! ### what becomes of the hits -/

/-- Just these documents are left among the hits of a result, and they are
counted. -/
def Leaves (result : Json) (documents : List Json) : Prop :=
  documents? result = some documents ∧ total? result = some (.ofNat documents.length)

/-- What becomes of the hits of a result: nothing without a rule that hides,
and else those that one of the rules hides are taken out. -/
def HitsAfter (rules : List Rule) (result changed : Json) : Prop :=
  if rules.any (·.hide.isSome) then
    ∃ documents, documents? result = some documents ∧
      Leaves changed (unhidden (hiddenIds rules) documents)
  else hitsFields? changed = hitsFields? result

/-- A list of rules that goes through hides what one of them hides. -/
theorem applyFrom_spec {rules : List Rule} {result changed : Fields}
    (h : applyFrom result rules = (changed, none)) :
    HitsAfter rules (.object result) (.object changed) := by
  obtain ⟨hlisted, rfl⟩ := applyFrom_eq_ok_iff.mp h
  have hsame := find?_withPromoted_of_ne (promoted? rules)
    (withoutHidden rules result) (show "hits" ≠ "promoted" by decide)
  rw [HitsAfter]
  split
  · next hany =>
    obtain ⟨hits, documents, hhits⟩ := listed_iff.mp (hlisted hany)
    obtain ⟨hfound, hlist, -⟩ := hitsOf_eq_ok_iff.mp hhits
    rw [withoutHidden_of_any hany hhits] at hsame ⊢
    rw [Fields.find?_insert_self] at hsame
    have hafter := hitsFields?_of_find? hsame
    exact ⟨documents, documents?_of_hitsFields? (hitsFields?_of_find? hfound) hlist,
      documents?_of_hitsFields? hafter (find?_counted_hits _ _),
      (total?_of_hitsFields? hafter).trans (find?_counted_total _ _)⟩
  · next hany =>
    rw [withoutHidden_of_not hany] at hsame ⊢
    exact hitsFields?_congr hsame

/-- If every rule applies, the documents are those that no rule hides. -/
theorem applyAll_spec {rules : List Rule} {result changed : Json}
    (h : applyAll rules result = (changed, none)) : HitsAfter rules result changed := by
  obtain ⟨before, after, rfl, rfl, hrun⟩ := applyAll_eq_ok_iff.mp h
  exact applyFrom_spec hrun

/-! ### when rules go through -/

/-- A list of rules goes through if and only if the first one that hides finds
a list of documents. -/
theorem applyFrom_eq_none_iff {rules : List Rule} {result : Fields} :
    (applyFrom result rules).2 = none ↔
      (rules.any (·.hide.isSome) → Listed (.object result)) := by
  constructor
  · exact fun h => (applyFrom_eq_ok_iff.mp (Prod.ext rfl h)).1
  · exact fun h => congrArg Prod.snd (applyFrom_eq_ok_iff.mpr ⟨h, rfl⟩)

/-- Rules go through a result if and only if it is an object, and has a list of
documents where a rule hides. -/
theorem applyAll_eq_none_iff {rules : List Rule} {result : Json} :
    (applyAll rules result).2 = none ↔
      (∃ fields, result = .object fields) ∧ (rules.any (·.hide.isSome) → Listed result) := by
  cases result with
  | object fields =>
      rw [and_iff_right ⟨fields, rfl⟩]
      exact applyFrom_eq_none_iff
  | null | bool | number | string | array => simp [applyAll]

end SearchRelay.Rule
