import SearchRelay.Proofs.Batch
import SearchRelay.Proofs.Json.Ordered
import SearchRelay.Proofs.Text.Split

/-!
# SearchRelay.Proofs.Batch.Framing

The payload of a batch, line by line.

Answers are tied to queries by their place, so the payload must have two lines
for each query, whatever the queries hold.

1. `payloadFrom_eq` — the payload is made of the headers and bodies of the
   queries, with a line feed behind each;
2. `Json.le_of_mem_text` — none of them holds a line feed of its own;
3. so the line feeds split the payload into these lines again
   (`splitBy_payload`), and each line is read as what it was written for.

`framed_payload` puts these together.
-/

namespace SearchRelay.Batch

open Json

/-! ## lines -/

/-- The headers and bodies of queries, in their order. -/
def lineTexts (queries : List Query) : List String :=
  queries.flatMap fun q => [(header q).compact, (q.body.getD .null).compact]

/-- What the header of a query says. -/
def headerOf : (index : Option String) → Json
  | none => .object []
  | some index => .object [("index", .string index)]

/-- The lines of a payload, two for each query: a header that names the index and
nothing else, and the body.  A body in order whose numbers read back is read from
its line; a limit on how deep it may nest is the only other thing that can stop
this. -/
structure Framed (queries : List Query) (lines : List String) : Prop where
  length : lines.length = 2 * queries.length
  /-- No line is broken by its own text. -/
  unbroken : ∀ line ∈ lines, '\n' ∉ line.toList
  header : ∀ (i : Nat) (q : Query), queries[i]? = some q →
    lines[2 * i]? = some (header q).compact ∧
      Json.parse? (Batch.header q).compact = some (headerOf q.index)
  body : ∀ (i : Nat) (q : Query), queries[i]? = some q →
    ∃ fields : Fields, q.body = some (.object fields) ∧
      lines[2 * i + 1]? = some (Json.object fields).compact ∧
      ((Json.object fields).Ordered →
        (∀ n ∈ (Json.object fields).numbers, n.readBack = some n) →
        (Document.parse? (Json.object fields).compact).bind Document.meaning? =
            some (.object fields) ∧
          Json.parse? (Json.object fields).compact =
            if (Document.ofJson (.object fields)).depth ≤ nestingLimit then
              some (.object fields) else none)

/-! ## places in pairs of lines -/

section

variable {α β : Type} (f g : α → β)

/-- Of texts in pairs the first ones stand at even places. -/
theorem getElem?_pairs_first (as : List α) (i : Nat) :
    (as.flatMap fun a => [f a, g a])[2 * i]? = as[i]?.map f := by
  induction as generalizing i with
  | nil => rfl
  | cons a as ih =>
      cases i with
      | zero => rfl
      | succ i => exact ih i

/-- The second ones stand behind them. -/
theorem getElem?_pairs_second (as : List α) (i : Nat) :
    (as.flatMap fun a => [f a, g a])[2 * i + 1]? = as[i]?.map g := by
  induction as generalizing i with
  | nil => rfl
  | cons a as ih =>
      cases i with
      | zero => rfl
      | succ i => exact ih i

end

/-! ## the payload -/

theorem body_eq_ok {q : Query} {v : Json} (h : body q = .ok v) :
    ∃ fields, q.body = some (.object fields) ∧ v = .object fields := by
  unfold body at h
  split at h
  · next fields hbody => exact ⟨fields, hbody, (Except.ok.inj h).symm⟩
  · contradiction
  · contradiction

/-- A query that was checked has an object for its body. -/
theorem body_of_checked {seen : List String} {q : Query} {text : String}
    (h : checked seen q = .ok text) :
    ∃ fields, q.body = some (.object fields) ∧ text = lines q (.object fields) := by
  have hlines : ∃ v, body q = .ok v ∧ text = lines q v := by
    rw [checked, idFault?_of_checked h] at h
    dsimp only at h
    split at h
    · obtain ⟨_, _, h⟩ := Except.bind_eq_ok.mp h
      obtain ⟨v, hv, h⟩ := Except.bind_eq_ok.mp h
      exact ⟨v, hv, (Except.pure_eq_ok.mp h).symm⟩
    · obtain ⟨v, hv, h⟩ := Except.bind_eq_ok.mp h
      exact ⟨v, hv, (Except.pure_eq_ok.mp h).symm⟩
  obtain ⟨v, hv, rfl⟩ := hlines
  obtain ⟨fields, hbody, rfl⟩ := body_eq_ok hv
  exact ⟨fields, hbody, rfl⟩

/-- A payload is made of lines that each end in a line feed. -/
theorem payloadFrom_eq {seen : List String} {queries : List Query} {payload : String}
    (h : payloadFrom seen queries = .ok payload) :
    payload.toList = (lineTexts queries).flatMap (fun line => line.toList ++ ['\n']) ∧
      ∀ q ∈ queries, ∃ fields, q.body = some (.object fields) := by
  induction queries generalizing seen payload with
  | nil =>
      cases h
      exact ⟨rfl, fun _ hq => nomatch hq⟩
  | cons q queries ih =>
      obtain ⟨first, hfirst, h⟩ := Except.bind_eq_ok.mp h
      obtain ⟨rest, hrest, h⟩ := Except.bind_eq_ok.mp h
      obtain ⟨hpayload, hbodies⟩ := ih hrest
      obtain ⟨fields, hbody, rfl⟩ := body_of_checked hfirst
      rw [Except.pure_eq_ok] at h
      subst h
      refine ⟨?_, List.forall_mem_cons.mpr ⟨⟨fields, hbody⟩, hbodies⟩⟩
      rw [lineTexts, List.flatMap_cons, List.flatMap_append, ← lineTexts, ← hpayload, hbody]
      simp [lines]

/-- No line is broken in two. -/
theorem lineFeed_notMem_lineTexts {queries : List Query} {line : String}
    (h : line ∈ lineTexts queries) : '\n' ∉ line.toList := by
  have htext : ∀ v : Json, '\n' ∉ v.compact.toList := by
    intro v hmem
    rw [compact, String.toList_ofList] at hmem
    exact absurd (le_of_mem_text hmem) (by decide)
  obtain ⟨q, -, hline⟩ := List.mem_flatMap.mp h
  simp only [List.mem_cons, List.not_mem_nil, or_false] at hline
  rcases hline with rfl | rfl
  · exact htext _
  · exact htext _

/-- The line feeds of a payload split it into its lines, with nothing behind the
last. -/
theorem splitBy_payload {queries : List Query} {batch : Batch}
    (h : ofQueries queries = .ok batch) :
    Text.splitBy (· = '\n') batch.payload.toList =
      (lineTexts queries).map String.toList ++ [[]] := by
  obtain ⟨hpayload, -⟩ := payloadFrom_eq (payloadFrom_of_ofQueries h).1
  have hpieces : (lineTexts queries).flatMap (fun line => line.toList ++ ['\n']) =
      ((lineTexts queries).map String.toList).flatMap (· ++ ['\n']) := by
    rw [List.flatMap_map]
  rw [hpayload, hpieces]
  refine Text.splitBy_flatMap_append (by decide) fun piece hpiece c hc => ?_
  obtain ⟨line, hline, rfl⟩ := List.mem_map.mp hpiece
  refine decide_eq_false fun heq => ?_
  exact lineFeed_notMem_lineTexts hline (heq ▸ hc)

theorem header_eq_headerOf (q : Query) : header q = headerOf q.index := by
  cases hindex : q.index <;> simp [header, headerOf, Json.optional, hindex]

/-- The header of a query is read from its line. -/
theorem parse?_header (q : Query) : Json.parse? (header q).compact = some (headerOf q.index) := by
  rw [header_eq_headerOf]
  cases q.index with
  | none =>
      have hordered : (headerOf none).Ordered := by
        simp [headerOf, Ordered, FieldsOrdered, Fields.Sorted]
      exact (parse?_bind_compact hordered (fun _ hn => absurd hn List.not_mem_nil)).2
  | some index =>
      have hordered : (headerOf (some index)).Ordered := by
        simp [headerOf, Ordered, FieldsOrdered, Fields.Sorted]
      exact (parse?_bind_compact hordered (fun _ hn => absurd hn List.not_mem_nil)).2

/-- **Framing**: at its line feeds the payload of a batch falls into two lines for
each query, in their order, and an empty piece behind them.  No text in a query can
add, drop or shift a line. -/
theorem framed_payload {queries : List Query} {batch : Batch}
    (h : ofQueries queries = .ok batch) :
    ∃ lines : List String,
      Text.splitBy (· = '\n') batch.payload.toList = lines.map String.toList ++ [[]] ∧
        Framed queries lines := by
  obtain ⟨-, hbodies⟩ := payloadFrom_eq (payloadFrom_of_ofQueries h).1
  refine ⟨lineTexts queries, splitBy_payload h, ?_, fun _ => lineFeed_notMem_lineTexts, ?_, ?_⟩
  · simp [lineTexts, List.length_flatMap, List.map_const', Nat.mul_comm]
  · intro i q hq
    refine ⟨?_, parse?_header q⟩
    rw [lineTexts, getElem?_pairs_first, hq]
    rfl
  · intro i q hq
    obtain ⟨fields, hbody⟩ := hbodies q (List.mem_of_getElem? hq)
    refine ⟨fields, hbody, ?_, parse?_bind_compact⟩
    rw [lineTexts, getElem?_pairs_second, hq, Option.map_some, hbody]
    rfl

/-- Two queries, the first with line feeds in its index, in a key and in a
string. -/
def brokenQueries : List Query := [
  { id := "a", index := some "products\n\x7b\x7d\n",
    body := some (.object [("line\nfeed", .string "\n"), ("size", .ofNat 3)]) },
  { id := "b", body := some (.object []) }]

/-- The batch of these queries. -/
def brokenBatch : Batch where
  queries := brokenQueries
  payload := "\x7b\"index\":\"products\\n\x7b\x7d\\n\"\x7d\n" ++
    "\x7b\"line\\nfeed\":\"\\n\",\"size\":3\x7d\n" ++ "\x7b\x7d\n\x7b\x7d\n"

/-- Line feeds in a body are escaped in its line. -/
theorem framed_payload_broken :
    ofQueries brokenQueries = .ok brokenBatch ∧
      ∃ lines : List String,
        Text.splitBy (· = '\n') brokenBatch.payload.toList = lines.map String.toList ++ [[]] ∧
          lines.length = 4 ∧
          Json.parse? brokenBatch.payload = none ∧
          (lines[1]?.bind Json.parse?) = (brokenQueries.head?.bind Query.body) := by
  have hbatch : ofQueries brokenQueries = .ok brokenBatch := rfl
  obtain ⟨lines, hsplit, hframed⟩ := framed_payload hbatch
  refine ⟨hbatch, lines, hsplit, hframed.length, by decide +kernel, ?_⟩
  obtain ⟨fields, hbody, hline, hread⟩ := hframed.body 0 _ rfl
  cases hbody
  rw [hline, Option.bind_some, (hread ?_ ?_).2]
  · rfl
  · exact ⟨List.pairwise_pair.mpr (by decide +kernel), trivial, trivial, trivial⟩
  · intro n hn
    obtain rfl : n = .integer 3 := by
      simpa [numbers, itemsNumbers, fieldsNumbers, Json.ofNat] using hn
    decide +kernel

end SearchRelay.Batch
