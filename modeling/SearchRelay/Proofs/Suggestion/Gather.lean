import Mathlib.Data.List.Forall2
import SearchRelay.Suggestion.Gather

/-!
# SearchRelay.Proofs.Suggestion.Gather

What the two passes over the hits come to.

1. `candidates` lists what the fields of the hits give, in order, and `gated`
   those among them that have a word of the query.
2. `firstPerLabel` leaves one candidate per label, the first.
3. A pass is a run of `accept` over the candidates (`pass_eq_foldl`).  The
   gate only leaves candidates out (`accept_gated`), so both passes together
   are one ungated run over the gated candidates and then all of them.
4. Such a run adds the first candidate of every label that is not there yet
   (`foldl_accept`).

`forall₂_takenFrom_suggest` puts these together: without completions and with
every document kept, the suggestions are those of `reference`, one by one.
-/

namespace SearchRelay.Suggestion

variable {options : SuggestionOptions}

/-! ## The reference -/

/-- The fields that labels are looked for in. -/
def fieldsOf (options : SuggestionOptions) : List Hit → List String
  | [] => options.dataFields
  | first :: _ =>
    if options.dataFields = [] then FieldPath.leaves first.source else options.dataFields

/-- The candidates of a hit: the texts that its fields give and that are not blank. -/
def candidatesOf (query : String) (fields : List String) (hit : Hit) : List (Hit × String) :=
  ((fields.filterMap fun field => FieldPath.candidate? hit.highlighted field query).filter
    fun label => !Text.allBlank label).map fun label => (hit, label)

/-- The candidates of a list of hits, hit by hit. -/
def candidates (options : SuggestionOptions) (hits : List Hit) : List (Hit × String) :=
  hits.flatMap (candidatesOf options.value (fieldsOf options hits))

/-- The candidates whose plain text has a word of the query. -/
def gated (query : String) (cs : List (Hit × String)) : List (Hit × String) :=
  cs.filter fun c => Text.wordMatch query (Html.plainText c.2)

/-- The first candidate of every label. -/
def firstPerLabel : List (Hit × String) → List (Hit × String)
  | [] => []
  | c :: cs => c :: (firstPerLabel cs).filter (·.2 ≠ c.2)

/-- The candidates that become suggestions: the gated ones, and all of them
behind those if synonyms count and the gated ones are fewer than the hits. -/
def reference (options : SuggestionOptions) (hits : List Hit) : List (Hit × String) :=
  let all := candidates options hits
  let matching := gated options.value all
  if options.synonyms = false ∨ hits.length ≤ (firstPerLabel matching).length then
    firstPerLabel matching
  else firstPerLabel (matching ++ all)

/-- A text is found in a document under a configured field at its top. -/
def FoundAt (source : Json.Fields) (field : Option String) (text : String) : Prop :=
  ∃ key, field = some key ∧ source.find? key = some (.string text)

/-- A suggestion is the one that a hit gives under a label. -/
structure TakenFrom (options : SuggestionOptions) (c : Hit × String) (s : Suggestion) : Prop where
  label : s.label = c.2
  value : s.value = Html.plainText c.2
  id : s.id = c.1.id
  index : s.index = c.1.index
  score : s.score = c.1.score
  source : s.source = c.1.source
  url : ∀ text, s.url = some text ↔ FoundAt c.1.source options.urlField text
  category : ∀ text, s.category = some text ↔ FoundAt c.1.source options.categoryField text
  origin : s.origin = .index
  count : s.count = none

/-! ## One suggestion -/

/-- The text at the top of a document is the one under the configured field. -/
theorem topText_eq_some {source : Json.Fields} {field : Option String} {text : String} :
    topText source field = some text ↔ FoundAt source field text := by
  simp only [topText, FoundAt, Option.bind_eq_some_iff]
  constructor
  · rintro ⟨key, hkey, v, hv, htext⟩
    cases v <;> simp_all [Json.string?]
  · rintro ⟨key, hkey, hv⟩
    exact ⟨key, hkey, .string text, hv, rfl⟩

/-- A suggestion made of a hit is taken from it. -/
theorem takenFrom_ofHit (options : SuggestionOptions) (c : Hit × String) :
    TakenFrom options c (ofHit options c.1 c.2) where
  label := rfl
  value := rfl
  id := rfl
  index := rfl
  score := rfl
  source := rfl
  url _ := topText_eq_some
  category _ := topText_eq_some
  origin := rfl
  count := rfl

/-! ## Passes as runs over the candidates -/

/-- The fields that are read are the configured ones, or those inferred from the hits. -/
theorem fieldsToRead_eq (options : SuggestionOptions) (hits : List Hit) :
    fieldsToRead options hits = fieldsOf options hits := by
  cases hits <;> cases hfields : options.dataFields <;> simp [fieldsToRead, fieldsOf, hfields]

/-- A blank candidate changes nothing. -/
theorem accept_of_blank {gate : Bool} {hit : Hit} {taken : List Suggestion} {label : String}
    (h : Text.allBlank label = true) : accept options gate hit taken label = taken := by
  simp [accept, h]

/-- The candidates of a hit are accepted one by one. -/
theorem acceptHit_eq_foldl (fields : List String) (gate : Bool) (taken : List Suggestion)
    (hit : Hit) :
    acceptHit options fields gate taken hit =
      (candidatesOf options.value fields hit).foldl
        (fun taken c => accept options gate c.1 taken c.2) taken := by
  rw [candidatesOf, List.foldl_map, List.foldl_filter, List.foldl_filterMap, acceptHit]
  congr 1
  funext taken field
  cases FieldPath.candidate? hit.highlighted field options.value with
  | none => rfl
  | some label =>
      cases hblank : Text.allBlank label with
      | true => simp [accept_of_blank hblank, hblank]
      | false => simp [hblank]

/-- A pass accepts the candidates of all hits one by one. -/
theorem pass_eq_foldl (gate : Bool) (hits : List Hit) (taken : List Suggestion) :
    pass options (fieldsToRead options hits) gate hits taken =
      (candidates options hits).foldl (fun taken c => accept options gate c.1 taken c.2) taken := by
  rw [pass, candidates, List.foldl_flatMap, fieldsToRead_eq]
  congr 1
  funext taken hit
  exact acceptHit_eq_foldl (fieldsOf options hits) gate taken hit

/-- The gate leaves no trace of a candidate that fails it, and lets the others through. -/
theorem accept_gated (hit : Hit) (taken : List Suggestion) (label : String) :
    accept options true hit taken label =
      if Text.wordMatch options.value (Html.plainText label) then
        accept options false hit taken label
      else taken := by
  cases hmatch : Text.wordMatch options.value (Html.plainText label) <;>
    simp [accept, ofHit, hmatch]

/-- A pass with the gate is one without it over the candidates that pass it. -/
theorem foldl_accept_gated (cs : List (Hit × String)) (taken : List Suggestion) :
    cs.foldl (fun taken c => accept options true c.1 taken c.2) taken =
      (gated options.value cs).foldl (fun taken c => accept options false c.1 taken c.2) taken := by
  rw [gated, List.foldl_filter]
  congr 1
  funext taken c
  exact accept_gated c.1 taken c.2

/-! ## An ungated run -/

/-- A run adds, behind what was taken, the first candidate of every label that was not. -/
theorem foldl_accept (options : SuggestionOptions) {cs : List (Hit × String)}
    (hcs : ∀ c ∈ cs, Text.allBlank c.2 = false) (taken : List Suggestion) :
    (cs.foldl (fun taken c => accept options false c.1 taken c.2) taken).reverse =
      taken.reverse ++ ((firstPerLabel cs).filter fun c => c.2 ∉ taken.map Suggestion.label).map
        fun c => ofHit options c.1 c.2 := by
  induction cs generalizing taken with
  | nil => simp [firstPerLabel]
  | cons c cs ih =>
      have hblank : Text.allBlank c.2 = false := hcs c List.mem_cons_self
      have ih := ih fun c hc => hcs c (List.mem_cons_of_mem _ hc)
      rw [List.foldl_cons, ih, firstPerLabel, List.filter_cons]
      by_cases hseen : c.2 ∈ taken.map Suggestion.label
      · -- the label is there: nothing is taken, and the later ones of that label go as well
        have haccept : accept options false c.1 taken c.2 = taken := by
          obtain ⟨s, hs, hlabel⟩ := List.mem_map.mp hseen
          have hany : taken.any (·.label = c.2) = true := by
            simpa using ⟨s, hs, hlabel⟩
          simp [accept, hany]
        rw [haccept, if_neg (by simpa using hseen), List.filter_filter]
        congr 2
        refine List.filter_congr fun d _ => ?_
        by_cases hd : d.2 = c.2 <;> simp_all
      · -- the label is new: it is taken, and counts as there from now on
        have haccept : accept options false c.1 taken c.2 = ofHit options c.1 c.2 :: taken := by
          have hany : taken.any (·.label = c.2) = false := by
            simpa using hseen
          simp [accept, hblank, hany]
        rw [haccept, if_pos (by simpa using hseen), List.filter_filter, List.reverse_cons,
          List.map_cons, List.append_assoc, List.singleton_append]
        congr 3
        refine List.filter_congr fun d _ => ?_
        simp [ofHit, Bool.and_comm]

/-- No candidate is blank as it stands. -/
theorem not_blank_of_mem_candidates {hits : List Hit} {c : Hit × String}
    (hc : c ∈ candidates options hits) : Text.allBlank c.2 = false := by
  simp only [candidates, candidatesOf, List.mem_flatMap, List.mem_map, List.mem_filter] at hc
  obtain ⟨_, _, _, ⟨_, hlabel⟩, rfl⟩ := hc
  simpa using hlabel

/-- A run from nothing takes the first candidate of every label. -/
theorem foldl_accept_nil (options : SuggestionOptions) {cs : List (Hit × String)}
    (hcs : ∀ c ∈ cs, Text.allBlank c.2 = false) :
    (cs.foldl (fun taken c => accept options false c.1 taken c.2) []).reverse =
      (firstPerLabel cs).map fun c => ofHit options c.1 c.2 := by
  have h := foldl_accept options hcs []
  simpa using h

/-- Both passes together take the candidates of the reference. -/
theorem gather_eq_reference (options : SuggestionOptions) (hits : List Hit) :
    gather options hits = (reference options hits).map fun c => ofHit options c.1 c.2 := by
  have hall : ∀ c ∈ candidates options hits, Text.allBlank c.2 = false :=
    fun c hc => not_blank_of_mem_candidates hc
  have hmatching : ∀ c ∈ gated options.value (candidates options hits),
      Text.allBlank c.2 = false := fun c hc => hall c (List.mem_filter.mp hc).1
  have hboth : ∀ c ∈ gated options.value (candidates options hits) ++ candidates options hits,
      Text.allBlank c.2 = false := fun c hc => (List.mem_append.mp hc).elim (hmatching c) (hall c)
  have hfirst := foldl_accept_nil options hmatching
  have hlength := congrArg List.length hfirst
  rw [List.length_reverse, List.length_map] at hlength
  rw [gather, reference, pass_eq_foldl, pass_eq_foldl, foldl_accept_gated, hlength]
  by_cases hsecond : (firstPerLabel (gated options.value (candidates options hits))).length <
      hits.length ∧ options.synonyms
  · have hnot : ¬(options.synonyms = false ∨
        hits.length ≤ (firstPerLabel (gated options.value (candidates options hits))).length) := by
      simp [hsecond.2, hsecond.1]
    rw [if_pos hsecond, if_neg hnot, ← List.foldl_append]
    exact foldl_accept_nil options hboth
  · have honly : options.synonyms = false ∨
        hits.length ≤ (firstPerLabel (gated options.value (candidates options hits))).length := by
      cases hs : options.synonyms with
      | false => exact .inl rfl
      | true => exact .inr (Nat.le_of_not_lt fun hlt => hsecond ⟨hlt, hs⟩)
    rw [if_neg hsecond, if_pos honly]
    exact hfirst

/-! ## The suggestions of a query -/

/-- **The suggestions are those of the reference**: without completions and
with every document kept, there is one suggestion for each candidate of the
reference, in its order, and it carries the candidate's plain text and what is
known of its hit. -/
theorem forall₂_takenFrom_suggest (hpredictive : options.predictive = false)
    (hdistinct : options.distinct = false) (common : Stopwords) (hits : List Hit) :
    List.Forall₂ (TakenFrom options) (reference options hits) (suggest options common hits) := by
  simp only [suggest, hpredictive, hdistinct, Bool.false_eq_true, if_false]
  rw [gather_eq_reference, List.forall₂_map_right_iff]
  exact List.forall₂_same.mpr fun c _ => takenFrom_ofHit options c

/-- Documents about telephones, the first of which has no word of the query. -/
def phoneHits : List Hit := [
  { id := some "1", source := [("link", .string "/1"), ("title", .string "ios device")] },
  { id := some "2", source := [("link", .string "/2"), ("title", .string "iphone 12")] },
  { id := some "3", source := [("title", .string "iphone 12")] }]

/-- A query for them, with the titles as labels. -/
def phoneOptions : SuggestionOptions :=
  { value := "iphone", dataFields := ["title"], urlField := some "link" }

/-- Three hits with two titles, of which the one that matches comes first. -/
theorem forall₂_takenFrom_suggest_phones :
    (phoneOptions.predictive = false ∧ phoneOptions.distinct = false) ∧
      List.Forall₂ (TakenFrom phoneOptions) (reference phoneOptions phoneHits)
        (suggest phoneOptions Stopwords.english phoneHits) ∧
      (suggest phoneOptions Stopwords.english phoneHits).map (fun s => (s.label, s.url)) =
        [("iphone 12", some "/2"), ("ios device", some "/1")] :=
  ⟨⟨rfl, rfl⟩, forall₂_takenFrom_suggest rfl rfl Stopwords.english phoneHits,
    by decide +kernel⟩

end SearchRelay.Suggestion
