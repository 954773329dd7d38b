import SearchRelay.Proofs.Toml.Value

/-!
# SearchRelay.Proofs.Toml.Line

Values and lines of a TOML document, read from their tokens.

1. `value?_tokens` — the tokens of a value are read as this value, unless its
   arrays and tables nest too deep.
-/

namespace SearchRelay.Toml

open Value (nesting nestingOfItems nestingOfEntries nestingOfItems_cons_le
  nestingOfEntries_cons_le tokens itemsTokens pairsTokens ItemsWellFormed
  EntriesWellFormed)

theorem entriesToTable_append (front behind : Entries) :
    entriesToTable (front ++ behind) = entriesToTable front ++ entriesToTable behind := by
  induction front with
  | nil => rfl
  | cons entry front ih =>
      rw [List.cons_append, entriesToTable, entriesToTable, ih, List.cons_append]

theorem lookup_append_of_ne {key other : String} (h : key ≠ other) (entries : Entries)
    (node : Node) :
    (entries ++ [(other, node)]).lookup key = entries.lookup key := by
  have hne : (key == other) = false := by simpa using h
  simp [List.lookup_append, List.lookup_cons, hne]

namespace Line

variable {fuel depth : Nat}

/-! ## tokens in front of a value -/

/-- Whether a value may begin with a token. -/
def IsOpening : Token → Prop
  | .text _ _ | .word _ | .openBracket | .openBrace => True
  | _ => False

/-- The tokens of a value begin with such a one. -/
theorem exists_tokens_eq (v : Value) : ∃ t ts, v.tokens = t :: ts ∧ IsOpening t := by
  cases v with
  | array items =>
      match items with
      | [] => exact ⟨_, _, rfl, trivial⟩
      | [v] => exact ⟨_, _, rfl, trivial⟩
      | v :: w :: items => exact ⟨_, _, Value.tokens_array_cons_cons v w items, trivial⟩
  | table entries =>
      cases entries with
      | nil => exact ⟨_, _, rfl, trivial⟩
      | cons entry entries => exact ⟨_, _, Value.tokens_table_cons entry entries, trivial⟩
  | string | integer | double | notFinite | boolean | moment => exact ⟨_, _, rfl, trivial⟩

/-- No gap stands where a value begins. -/
theorem skipGaps_of_isOpening {t : Token} (h : IsOpening t) (ts : List Token) :
    skipGaps (t :: ts) = t :: ts := by
  cases t <;> first | rfl | exact h.elim

/-- No line ends where a value begins. -/
theorem skipLines_of_isOpening {t : Token} (h : IsOpening t) (ts : List Token) :
    skipLines (t :: ts) = t :: ts := by
  cases t <;> first | rfl | exact h.elim

/-- The tokens of a value begin with no gap. -/
theorem skipGaps_tokens (v : Value) (more : List Token) :
    skipGaps (v.tokens ++ more) = v.tokens ++ more := by
  obtain ⟨t, ts, heq, ht⟩ := exists_tokens_eq v
  rw [heq, List.cons_append, skipGaps_of_isOpening ht]

/-- The tokens of a path begin with a word or a text. -/
theorem exists_pathTokens_eq (word : List Char) (key : String) (path : List String) :
    ∃ t ts, pathTokens word (key :: path) = t :: ts ∧ IsOpening t ∧ t ≠ .openBracket := by
  induction path generalizing word key with
  | nil =>
      rw [pathTokens]
      split
      · exact ⟨_, _, rfl, trivial, by simp⟩
      · cases word with
        | nil => exact ⟨_, _, rfl, trivial, by simp⟩
        | cons c word => exact ⟨_, _, rfl, trivial, by simp⟩
  | cons next path ih =>
      rw [pathTokens_cons_cons]
      split
      · exact ih _ next
      · cases word with
        | nil => exact ⟨_, _, rfl, trivial, by simp⟩
        | cons c word => exact ⟨_, _, rfl, trivial, by simp⟩

/-- The entries of a table begin with a gap and a key. -/
theorem exists_pairsTokens_eq (first : String × Value) (entries : List (String × Value)) :
    ∃ t ts, pairsTokens (first :: entries) = .gap true :: t :: ts ∧ IsOpening t := by
  obtain ⟨t, ts, heq, ht, -⟩ := exists_pathTokens_eq [] first.1 []
  cases entries with
  | nil => exact ⟨t, _, by rw [pairsTokens, heq]; rfl, ht⟩
  | cons second entries => exact ⟨t, _, by rw [Value.pairsTokens_cons_cons, heq]; rfl, ht⟩

/-! ## scalars -/

/-- What follows is no time behind a date. -/
def NoTime (more : List Token) : Prop := ∀ cs ts, more ≠ .gap true :: .word cs :: ts

/-- A quoted text is a string. -/
theorem value?_text (cs : List Char) (several : Bool) (hfuel : 0 < fuel) (more : List Token) :
    value? fuel depth (.text cs several :: more) = some (.string (String.ofList cs), more) := by
  cases fuel with
  | zero => exact absurd hfuel (Nat.lt_irrefl 0)
  | succ fuel =>
      rw [value?]
      exact nofun

/-- A word that no time follows is read alone. -/
theorem value?_word {cs : List Char} {v : Value} (hword : Scalar.ofWord? cs = some v)
    (hfuel : 0 < fuel) {more : List Token} (hmore : NoTime more) :
    value? fuel depth (.word cs :: more) = some (v, more) := by
  cases fuel with
  | zero => exact absurd hfuel (Nat.lt_irrefl 0)
  | succ fuel =>
      rw [value?, hword]
      · rfl
      · exact hmore
      · exact nofun

/-! ## arrays -/

/-- An array is one level deeper than what it stands in. -/
theorem value?_openBracket (ts : List Token) :
    value? (fuel + 1) (depth + 1) (.openBracket :: ts) = items? fuel depth [] ts := by
  rw [value?]

/-- At the limit of depth no array is read. -/
theorem value?_openBracket_zero (ts : List Token) :
    value? fuel 0 (.openBracket :: ts) = none := by
  cases fuel <;> rw [value?] <;> exact nofun

theorem items?_closeBracket (done : List Value) (more : List Token) :
    items? (fuel + 1) depth done (.closeBracket :: more) = some (.array done.reverse, more) := by
  rw [items?]
  rfl

/-- The rest of an array that has an item in front. -/
theorem items?_item (v : Value) (done : List Value) (more : List Token) :
    items? (fuel + 1) depth done (v.tokens ++ more) =
      (value? fuel depth (v.tokens ++ more)).bind fun read =>
        match skipLines read.2 with
        | .comma :: rest => items? fuel depth (read.1 :: done) rest
        | .closeBracket :: rest => some (.array (read.1 :: done).reverse, rest)
        | _ => none := by
  obtain ⟨t, ts, heq, ht⟩ := exists_tokens_eq v
  rw [heq, List.cons_append, items?, skipLines_of_isOpening ht]
  split
  · next heq =>
    cases heq
    exact ht.elim
  · cases value? fuel depth (t :: (ts ++ more)) <;> rfl

theorem items?_lineFeed (done : List Value) (ts : List Token) :
    items? (fuel + 1) depth done (.lineFeed :: ts) = items? (fuel + 1) depth done ts := by
  rw [items?, items?]
  rfl

theorem items?_gap (single : Bool) (done : List Value) (ts : List Token) :
    items? (fuel + 1) depth done (.gap single :: ts) = items? (fuel + 1) depth done ts := by
  rw [items?, items?]
  rfl

/-! ## tables -/

/-- An empty table in braces. -/
theorem value?_openBrace (ts : List Token) :
    value? (fuel + 1) (depth + 1) (.openBrace :: .closeBrace :: ts) = some (.table [], ts) := by
  rw [value?]
  rfl

/-- At the limit of depth no table is read. -/
theorem value?_openBrace_zero (ts : List Token) : value? fuel 0 (.openBrace :: ts) = none := by
  cases fuel <;> rw [value?] <;> exact nofun

theorem key?_gap (single : Bool) (ts : List Token) : key? (.gap single :: ts) = key? ts := by
  rw [key?, key?]
  rfl

theorem pairs?_gap (single : Bool) (done : Entries) (ts : List Token) :
    pairs? fuel depth done (.gap single :: ts) = pairs? fuel depth done ts := by
  cases fuel with
  | zero => rw [pairs?, pairs?]
  | succ fuel => rw [pairs?, pairs?, key?_gap]

/-- A table on a line that holds an entry. -/
theorem value?_openBrace_gap {t : Token} (ht : IsOpening t) (single : Bool) (ts : List Token) :
    value? (fuel + 1) (depth + 1) (.openBrace :: .gap single :: t :: ts) =
      pairs? fuel depth [] (.gap single :: t :: ts) := by
  rw [value?, skipGaps, skipGaps_of_isOpening ht, pairs?_gap]
  split
  · next heq =>
    cases heq
    exact ht.elim
  · rfl

/-- What stands in front of the entry of a key is skipped. -/
theorem key?_pair (key : String) (more : List Token) :
    key? (.gap true :: (pathTokens [] [key] ++ .gap true :: .equals :: more)) =
      some (⟨[], key⟩, .equals :: more) := by
  have hrest : pieces? (.gap true :: .equals :: more) = some ([], .equals :: more) := rfl
  have hkey := @key?_pathTokens [] key _ _ hrest
  rw [key?_gap]
  exact hkey

/-- A new key goes to the end. -/
theorem addValue_of_lookup {key : String} {done : Entries} (h : done.lookup key = none)
    (v : Value) :
    Entries.addValue [] key v .header done = some (.header, done ++ [(key, .value v)]) := by
  simp [Entries.addValue, Entries.changeAt, h]

/-- The rest of a table that has an entry in front. -/
theorem pairs?_pair {key : String} {done : Entries} (hkey : done.lookup key = none) (v : Value)
    (more : List Token) :
    pairs? (fuel + 1) depth done (.gap true :: (pathTokens [] [key] ++
        .gap true :: .equals :: .gap true :: (v.tokens ++ more))) =
      (value? fuel depth (v.tokens ++ more)).bind fun read =>
        let done := done ++ [(key, .value read.1)]
        match skipGaps read.2 with
        | .comma :: rest => pairs? fuel depth done rest
        | .closeBrace :: rest => some (.table (entriesToTable done), rest)
        | _ => none := by
  have hgap : skipGaps (.gap true :: (v.tokens ++ more)) = v.tokens ++ more :=
    skipGaps_tokens v more
  rw [pairs?, key?_pair]
  simp only [Option.bind_eq_bind, Option.bind_some, hgap, addValue_of_lookup hkey]
  rfl

/-! ## values -/

/- The induction is on the value once more, over the tokens. Fuel is twice the number of
tokens, because brackets and commas cost a step each. -/

/-- A scalar is read from its word, unless a time may belong to it. -/
theorem value?_scalar {v : Value} {cs : List Char} (htokens : v.tokens = [.word cs])
    (hnesting : v.nesting = 0) (hword : Scalar.ofWord? cs = some v) {more : List Token}
    (hfuel : 2 * v.tokens.length ≤ fuel) (hmore : NoTime more) :
    value? fuel depth (v.tokens ++ more) = if v.nesting ≤ depth then some (v, more) else none := by
  rw [htokens, List.length_singleton] at hfuel
  rw [htokens, hnesting, if_pos (Nat.zero_le depth)]
  exact value?_word hword (by omega) hmore

mutual

/-- The tokens of a value are read as this value, unless its arrays and tables
nest too deep. -/
theorem value?_tokens : (v : Value) → v.WellFormed → (fuel depth : Nat) → (more : List Token) →
    2 * v.tokens.length ≤ fuel → NoTime more →
    value? fuel depth (v.tokens ++ more) = if v.nesting ≤ depth then some (v, more) else none
  | .string s, _, fuel, depth, more, hfuel, _ => by
      have hpos : 0 < fuel := Nat.lt_of_lt_of_le (by simp [tokens]) hfuel
      have hread := @value?_text fuel depth s.toList (Quoted.isLong s.toList) hpos more
      rw [String.ofList_toList] at hread
      simpa [tokens, nesting] using hread
  | .integer i, hv, fuel, depth, more, hfuel, hmore =>
      value?_scalar rfl rfl (Scalar.ofWord?_integerText hv) hfuel hmore
  | .double x, _, fuel, depth, more, hfuel, hmore =>
      value?_scalar rfl rfl (Scalar.ofWord?_doubleText x) hfuel hmore
  | .notFinite, _, fuel, depth, more, hfuel, hmore => value?_scalar rfl rfl rfl hfuel hmore
  | .boolean b, _, fuel, depth, more, hfuel, hmore =>
      value?_scalar rfl rfl (Scalar.ofWord?_boolean b) hfuel hmore
  | .array items, hv, fuel, 0, more, _, _ => by
      have hopen : ∃ ts, (Value.array items).tokens = .openBracket :: ts := by
        match items with
        | [] => exact ⟨_, rfl⟩
        | [v] => exact ⟨_, rfl⟩
        | v :: w :: items => exact ⟨_, Value.tokens_array_cons_cons v w items⟩
      obtain ⟨ts, heq⟩ := hopen
      rw [heq, List.cons_append, value?_openBracket_zero]
      simp [nesting]
  | .array [], _, fuel, depth + 1, more, hfuel, _ => by
      obtain ⟨fuel, rfl⟩ : ∃ n, fuel = n + 2 := ⟨fuel - 2, by simp [tokens] at hfuel; omega⟩
      simp [tokens, value?_openBracket, items?_closeBracket, nesting, nestingOfItems]
  -- a single item stands on the line of its array, several stand on lines of their own
  | .array [v], hv, fuel, depth + 1, more, hfuel, _ => by
      simp only [tokens, List.length_cons, List.length_append, List.length_nil] at hfuel
      obtain ⟨fuel, rfl⟩ : ∃ n, fuel = n + 2 := ⟨fuel - 2, by omega⟩
      have hvalue := value?_tokens v hv.1 fuel depth (.closeBracket :: more) (by omega)
        fun _ _ h => nomatch h
      simp only [tokens, List.cons_append, List.append_assoc, List.nil_append]
      rw [value?_openBracket, items?_item, hvalue]
      by_cases hdeep : v.nesting ≤ depth
      · simp [hdeep, skipLines, nesting, nestingOfItems]
      · simp [hdeep, nesting, nestingOfItems]
  | .array (v :: w :: items), hv, fuel, depth + 1, more, hfuel, _ => by
      simp only [Value.tokens_array_cons_cons, List.length_cons, List.length_append,
        List.length_nil] at hfuel
      obtain ⟨fuel, rfl⟩ : ∃ n, fuel = n + 1 := ⟨fuel - 1, by omega⟩
      have hitems := items?_tokens (v :: w :: items) hv fuel depth [] more (by omega)
      simp only [Value.tokens_array_cons_cons, List.cons_append, List.append_assoc, List.nil_append]
      rw [value?_openBracket, hitems]
      simp [nesting]
  | .table entries, hv, fuel, 0, more, _, _ => by
      have hopen : ∃ ts, (Value.table entries).tokens = .openBrace :: ts := by
        cases entries with
        | nil => exact ⟨_, rfl⟩
        | cons e entries => exact ⟨_, Value.tokens_table_cons e entries⟩
      obtain ⟨ts, heq⟩ := hopen
      rw [heq, List.cons_append, value?_openBrace_zero]
      simp [nesting]
  | .table [], _, fuel, depth + 1, more, hfuel, _ => by
      obtain ⟨fuel, rfl⟩ : ∃ n, fuel = n + 1 := ⟨fuel - 1, by simp [tokens] at hfuel; omega⟩
      simp [tokens, value?_openBrace, nesting, nestingOfEntries]
  | .table (e :: entries), hv, fuel, depth + 1, more, hfuel, _ => by
      simp only [Value.tokens_table_cons, List.length_cons, List.length_append,
        List.length_nil] at hfuel
      obtain ⟨fuel, rfl⟩ : ∃ n, fuel = n + 1 := ⟨fuel - 1, by omega⟩
      have hpairs := pairs?_tokens (e :: entries) (List.cons_ne_nil _ _) hv.1 hv.2 fuel depth []
        more (fun _ _ => rfl) (by omega)
      obtain ⟨t, ts, heq, ht⟩ := exists_pairsTokens_eq e entries
      rw [heq] at hpairs
      simp only [Value.tokens_table_cons, heq, List.cons_append, List.append_assoc,
        List.nil_append] at hpairs ⊢
      rw [value?_openBrace_gap ht, hpairs]
      simp [nesting, entriesToTable]

/-- The items of an array with several items. -/
theorem items?_tokens : (items : List Value) → ItemsWellFormed items → (fuel depth : Nat) →
    (done : List Value) → (more : List Token) → 2 * (itemsTokens items).length < fuel →
    items? fuel depth done (itemsTokens items ++ .lineFeed :: .closeBracket :: more) =
      if nestingOfItems items ≤ depth then some (.array (done.reverse ++ items), more) else none
  | _, _, 0, _, _, _, hfuel => absurd hfuel (Nat.not_lt_zero _)
  | [], _, fuel + 1, depth, done, more, hfuel => by
      rw [itemsTokens, List.nil_append, items?_lineFeed, items?_closeBracket]
      simp [nestingOfItems]
  | v :: vs, hv, fuel + 1, depth, done, more, hfuel => by
      simp only [itemsTokens, List.length_cons, List.length_append] at hfuel
      have hvalue := value?_tokens v hv.1 fuel depth
        (.comma :: (itemsTokens vs ++ .lineFeed :: .closeBracket :: more)) (by omega)
        fun _ _ h => nomatch h
      have hmore := items?_tokens vs hv.2 fuel depth (v :: done) more (by omega)
      simp only [itemsTokens, List.cons_append, List.append_assoc]
      rw [items?_lineFeed, items?_gap, items?_item, hvalue]
      by_cases hdeep : v.nesting ≤ depth
      · rw [if_pos hdeep, Option.bind_some]
        simp [skipLines, hmore, nestingOfItems_cons_le, hdeep]
      · simp [nestingOfItems_cons_le, hdeep]

/-- The entries of a table. -/
theorem pairs?_tokens : (entries : List (String × Value)) → entries ≠ [] →
    (entries.map Prod.fst).Nodup → EntriesWellFormed entries → (fuel depth : Nat) →
    (done : Entries) → (more : List Token) → (∀ e ∈ entries, done.lookup e.1 = none) →
    2 * (pairsTokens entries).length < fuel →
    pairs? fuel depth done (pairsTokens entries ++ .gap true :: .closeBrace :: more) =
      if nestingOfEntries entries ≤ depth then some (.table (entriesToTable done ++ entries), more)
      else none
  | [], hne, _, _, _, _, _, _, _, _ => absurd rfl hne
  | _ :: _, _, _, _, 0, _, _, _, _, hfuel => absurd hfuel (Nat.not_lt_zero _)
  | [(k, v)], _, _, hv, fuel + 1, depth, done, more, hdone, hfuel => by
      simp only [pairsTokens, List.length_cons, List.length_append] at hfuel
      have hvalue := value?_tokens v hv.1 fuel depth (.gap true :: .closeBrace :: more) (by omega)
        fun _ _ h => nomatch h
      have hpair := @pairs?_pair fuel depth k done (hdone _ List.mem_cons_self) v
        (.gap true :: .closeBrace :: more)
      simp only [pairsTokens, List.cons_append, List.append_assoc]
      rw [hpair, hvalue]
      by_cases hdeep : v.nesting ≤ depth
      · simp [hdeep, skipGaps, nestingOfEntries, entriesToTable_append, entriesToTable,
          Node.toValue]
      · simp [hdeep, nestingOfEntries]
  | (k, v) :: second :: entries, _, hnodup, hv, fuel + 1, depth, done, more, hdone, hfuel => by
      simp only [Value.pairsTokens_cons_cons, List.length_cons, List.length_append] at hfuel
      obtain ⟨hfresh, hnodup⟩ := List.nodup_cons.mp hnodup
      have hvalue := value?_tokens v hv.1 fuel depth
        (.comma :: (pairsTokens (second :: entries) ++ .gap true :: .closeBrace :: more)) (by omega)
        fun _ _ h => nomatch h
      have hpair := @pairs?_pair fuel depth k done (hdone _ List.mem_cons_self) v
        (.comma :: (pairsTokens (second :: entries) ++ .gap true :: .closeBrace :: more))
      have hnext : ∀ e ∈ second :: entries, (done ++ [(k, Node.value v)]).lookup e.1 = none := by
        intro e he
        have hmem : e.1 ∈ (second :: entries).map Prod.fst := List.mem_map_of_mem he
        have hne : e.1 ≠ k := fun heq => hfresh (heq ▸ hmem)
        rw [lookup_append_of_ne hne, hdone e (List.mem_cons_of_mem _ he)]
      have hmore := pairs?_tokens (second :: entries) (List.cons_ne_nil _ _) hnodup hv.2 fuel depth
        (done ++ [(k, .value v)]) more hnext (by omega)
      simp only [Value.pairsTokens_cons_cons, List.cons_append, List.append_assoc]
      rw [hpair, hvalue]
      by_cases hdeep : v.nesting ≤ depth
      · simp [hdeep, skipGaps, hmore, nestingOfEntries_cons_le, entriesToTable_append,
          entriesToTable, Node.toValue]
      · simp [hdeep, nestingOfEntries_cons_le]

end

end Line

end SearchRelay.Toml
