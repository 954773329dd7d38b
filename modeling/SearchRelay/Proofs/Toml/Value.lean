import SearchRelay.Proofs.Toml.Key
import SearchRelay.Proofs.Toml.Scalar

/-!
# SearchRelay.Proofs.Toml.Value

Values of a TOML document as they are written on a line.

1. `cut_text` — the text of a value is cut into its tokens;
2. `value?_tokens` — the tokens of a value are read as this value, unless its
   arrays and tables nest too deep.

Dates and times are left out: the values are those that come from JSON.
-/

namespace SearchRelay.Toml

namespace Value

mutual

/-- An integer is one of 64 bits, and a table holds every key once.  Dates and
times are left out. -/
def WellFormed : Value → Prop
  | .string _ | .double _ | .notFinite | .boolean _ => True
  | .integer i => leastInteger ≤ i ∧ i < integerEnd
  | .moment _ => False
  | .array items => ItemsWellFormed items
  | .table entries => (entries.map Prod.fst).Nodup ∧ EntriesWellFormed entries

/-- Every item is well-formed. -/
def ItemsWellFormed : List Value → Prop
  | [] => True
  | v :: vs => v.WellFormed ∧ ItemsWellFormed vs

/-- The value of every entry is well-formed. -/
def EntriesWellFormed : List (String × Value) → Prop
  | [] => True
  | (_, v) :: rest => v.WellFormed ∧ EntriesWellFormed rest

end

theorem itemsWellFormed_iff (items : List Value) :
    ItemsWellFormed items ↔ ∀ v ∈ items, v.WellFormed := by
  induction items with
  | nil => simp [ItemsWellFormed]
  | cons v vs ih => simp [ItemsWellFormed, ih]

theorem entriesWellFormed_iff (entries : List (String × Value)) :
    EntriesWellFormed entries ↔ ∀ entry ∈ entries, entry.2.WellFormed := by
  induction entries with
  | nil => simp [EntriesWellFormed]
  | cons entry rest ih => simp [EntriesWellFormed, ih]

mutual

/-- How deep the arrays and tables of a value nest. -/
def nesting : Value → Nat
  | .array items => nestingOfItems items + 1
  | .table entries => nestingOfEntries entries + 1
  | _ => 0

/-- How deep the arrays and tables of items nest. -/
def nestingOfItems : List Value → Nat
  | [] => 0
  | v :: vs => max v.nesting (nestingOfItems vs)

/-- How deep the arrays and tables of entries nest. -/
def nestingOfEntries : List (String × Value) → Nat
  | [] => 0
  | (_, v) :: rest => max v.nesting (nestingOfEntries rest)

end

/-- Items nest as deep as the deepest of them. -/
theorem nestingOfItems_cons_le {v : Value} {vs : List Value} {depth : Nat} :
    nestingOfItems (v :: vs) ≤ depth ↔ v.nesting ≤ depth ∧ nestingOfItems vs ≤ depth := by
  rw [nestingOfItems, Nat.max_le]

/-- Entries nest as deep as the deepest of them. -/
theorem nestingOfEntries_cons_le {entry : String × Value} {rest : List (String × Value)}
    {depth : Nat} : nestingOfEntries (entry :: rest) ≤ depth ↔
      entry.2.nesting ≤ depth ∧ nestingOfEntries rest ≤ depth := by
  rw [nestingOfEntries, Nat.max_le]

mutual

/-- The tokens of the text of a value. -/
def tokens : Value → List Token
  | .string s => [.text s.toList (Quoted.isLong s.toList)]
  | .array [] => [.openBracket, .closeBracket]
  | .array [v] => .openBracket :: (v.tokens ++ [.closeBracket])
  | .array items => .openBracket :: (itemsTokens items ++ [.lineFeed, .closeBracket])
  | .table [] => [.openBrace, .closeBrace]
  | .table entries => .openBrace :: (pairsTokens entries ++ [.gap true, .closeBrace])
  | v => [.word v.text]

/-- The tokens of the items of an array with several items. -/
def itemsTokens : List Value → List Token
  | [] => []
  | v :: vs => .lineFeed :: .gap false :: (v.tokens ++ .comma :: itemsTokens vs)

/-- The tokens of the entries of a table on a line. -/
def pairsTokens : List (String × Value) → List Token
  | [] => []
  | [(k, v)] =>
      .gap true :: (Line.pathTokens [] [k] ++ .gap true :: .equals :: .gap true :: v.tokens)
  | (k, v) :: rest => .gap true ::
    (Line.pathTokens [] [k] ++ .gap true :: .equals :: .gap true :: (v.tokens ++
      .comma :: pairsTokens rest))

end

/-! ## scalars -/

theorem isWordChar_of_isDigit {c : Char} (h : c.isDigit = true) : Token.isWordChar c = true := by
  simp [Token.isWordChar, Quoted.isKeyChar, Char.isAlphanum, h]

/-- The text of a number is a word. -/
theorem word_integerText (i : Int) :
    Json.integerText i ≠ [] ∧ ∀ c ∈ Json.integerText i, Token.isWordChar c = true := by
  rw [Json.integerText]
  refine ⟨by simp [Nat.toDigits_ne_nil], fun c hc => ?_⟩
  rcases List.mem_append.mp hc with hc | hc
  · split at hc
    · rw [List.mem_singleton.mp hc]
      decide
    · cases hc
  · exact isWordChar_of_isDigit (Json.isDigit_toDigits c hc)

/-- A double is written as a word. -/
theorem word_doubleText (x : Binary64) :
    doubleText x ≠ [] ∧ ∀ c ∈ doubleText x, Token.isWordChar c = true := by
  obtain ⟨whole, fraction, hparts, htext⟩ :=
    Json.exists_positional (@Binary64.shortest_digits_eq_zero x)
  rw [doubleText, htext]
  refine ⟨by simp, fun c hc => ?_⟩
  rcases List.mem_append.mp hc with hc | hc
  · split at hc
    · rw [List.mem_singleton.mp hc]
      decide
    · cases hc
  · rcases Scalar.mem_pointed hparts.isDigits_whole hparts.isDigits_fraction hc with h | rfl
    · exact isWordChar_of_isDigit h
    · decide

theorem word_boolean (b : Bool) :
    (boolean b).text ≠ [] ∧ ∀ c ∈ (boolean b).text, Token.isWordChar c = true := by
  cases b with
  | false => exact ⟨by decide, List.all_eq_true.mp (by decide)⟩
  | true => exact ⟨by decide, List.all_eq_true.mp (by decide)⟩

theorem word_notFinite :
    notFinite.text ≠ [] ∧ ∀ c ∈ notFinite.text, Token.isWordChar c = true :=
  ⟨by decide, List.all_eq_true.mp (by decide)⟩

/-! ## texts and tokens of arrays and tables -/

section

variable (v w : Value) (items : List Value) (entry : String × Value)
    (entries : List (String × Value))

theorem text_array_cons_cons :
    (array (v :: w :: items)).text = '[' :: (itemsText (v :: w :: items) ++ ['\n', ']']) := by
  rw [text] <;> exact nofun

theorem tokens_array_cons_cons :
    (array (v :: w :: items)).tokens =
      .openBracket :: (itemsTokens (v :: w :: items) ++ [.lineFeed, .closeBracket]) := by
  rw [tokens] <;> exact nofun

theorem text_table_cons :
    (table (entry :: entries)).text =
      '\x7b' :: (pairsText (entry :: entries) ++ [' ', '\x7d']) := by
  rw [text]
  exact nofun

theorem tokens_table_cons :
    (table (entry :: entries)).tokens =
      .openBrace :: (pairsTokens (entry :: entries) ++ [.gap true, .closeBrace]) := by
  rw [tokens]
  exact nofun

theorem pairsText_cons_cons (first : String × Value) :
    pairsText (first :: entry :: entries) =
      ' ' :: (keyText first.1 ++ [' ', '=', ' '] ++ first.2.text ++
        ',' :: pairsText (entry :: entries)) := by
  rw [pairsText]
  exact nofun

theorem pairsTokens_cons_cons (first : String × Value) :
    pairsTokens (first :: entry :: entries) =
      .gap true :: (Line.pathTokens [] [first.1] ++ .gap true :: .equals :: .gap true ::
        (first.2.tokens ++ .comma :: pairsTokens (entry :: entries))) := by
  rw [pairsTokens]
  exact nofun

end

/-! ## cutting -/

/- The induction is on the value, with the items of arrays and the entries of tables
beside it. What follows must not go on with the last word, and a comma, a bracket or the
end of a line never does. -/

section

variable {rest : List Char} {ts : List Token}

theorem noGap_of_isWordChar {front : List Char} (hne : front ≠ [])
    (hfront : ∀ c ∈ front, Token.isWordChar c = true) : NoGap (front ++ rest) := by
  cases front with
  | nil => exact absurd rfl hne
  | cons c front =>
      intro d hd
      cases hd
      cases hgap : Quoted.isGap c with
      | false => rfl
      | true =>
          have hc := hfront c List.mem_cons_self
          simp only [Quoted.isGap, Bool.or_eq_true, decide_eq_true_eq] at hgap
          rcases hgap with rfl | rfl <;> exact absurd hc (by decide)

theorem noGap_quoted {front : List Char} {read : List Char × Bool × List Char}
    (h : Quoted.read? front = some read) : NoGap (front ++ rest) := by
  have hhead := Quoted.head_of_read? h
  intro c hc
  cases front with
  | nil => simp at hhead
  | cons d front =>
      have hquote : d = '"' ∨ d = '\'' := by simpa using hhead
      cases hc
      rcases hquote with rfl | rfl <;> decide

/-- A text alone is read back. -/
theorem read?_write_nil (text : List Char) :
    Quoted.read? (Quoted.write text) = some (text, Quoted.isLong text, []) := by
  have hread := @Quoted.read?_write [] text nofun
  rwa [List.append_nil] at hread

/-- A value does not begin with a gap. -/
theorem noGap_text {v : Value} (hv : v.WellFormed) : NoGap (v.text ++ rest) := by
  cases v with
  | string s => exact noGap_quoted (read?_write_nil s.toList)
  | integer i => exact noGap_of_isWordChar (word_integerText i).1 (word_integerText i).2
  | double x => exact noGap_of_isWordChar (word_doubleText x).1 (word_doubleText x).2
  | notFinite => exact noGap_of_isWordChar word_notFinite.1 word_notFinite.2
  | boolean b => exact noGap_of_isWordChar (word_boolean b).1 (word_boolean b).2
  | moment s => exact hv.elim
  | array items =>
      match items with
      | [] => exact fun c hc => by cases hc; decide
      | [v] => exact fun c hc => by cases hc; decide
      | v :: w :: items =>
          rw [text_array_cons_cons]
          exact fun c hc => by cases hc; decide
  | table entries =>
      cases entries with
      | nil => exact fun c hc => by cases hc; decide
      | cons entry entries =>
          rw [text_table_cons]
          exact fun c hc => by cases hc; decide

/-- A key does not begin with a gap. -/
theorem noGap_keyText (key : String) : NoGap (keyText key ++ rest) := by
  by_cases hbare : Quoted.IsBare key.toList
  · rw [keyText, Quoted.writeKey_of_bare hbare]
    exact noGap_of_isWordChar hbare.1 fun c hc => Line.isWordChar_of_isKeyChar (hbare.2 c hc)
  · have hread := @Quoted.read?_writeKey [] key.toList hbare (by simp [Quoted.NoQuote])
    rw [List.append_nil] at hread
    exact noGap_quoted hread

/-- The text of an entry on a line. -/
theorem cut_pair (key : String) {valueText : List Char} {valueTokens : List Token}
    (hgap : NoGap valueText) (h : Cut valueText valueTokens) :
    Cut (keyText key ++ ([' ', '=', ' '] ++ valueText))
      (Line.pathTokens [] [key] ++ .gap true :: .equals :: .gap true :: valueTokens) := by
  have hmark : Cut (' ' :: '=' :: ' ' :: valueText)
      (.gap true :: .equals :: .gap true :: valueTokens) :=
    .space (by intro c hc; cases hc; decide) (.mark rfl (.space hgap h))
  have hkey := Line.cut_pathText (List.cons_ne_nil key []) Line.Begun.nothing
    (Breaks.cons (by decide) _) hmark
  have htext : Block.pathText [key] = keyText key := by simp [Block.pathText]
  rwa [htext] at hkey

mutual

/-- The text of a value is cut into its tokens. -/
theorem cut_text : (v : Value) → v.WellFormed → {rest : List Char} → {ts : List Token} →
    Breaks rest → Cut rest ts → Cut (v.text ++ rest) (v.tokens ++ ts)
  | .string s, _, rest, ts, hrest, h => by
      have hne : Quoted.write s.toList ≠ [] := by
        intro hnil
        have hread := read?_write_nil s.toList
        rw [hnil] at hread
        cases hread
      exact h.text hne (Quoted.read?_write s.toList hrest.noQuote)
  | .integer i, _, rest, ts, hrest, h =>
      h.word (word_integerText i).1 (word_integerText i).2 fun c hc => (hrest c hc).1
  | .double x, _, rest, ts, hrest, h =>
      h.word (word_doubleText x).1 (word_doubleText x).2 fun c hc => (hrest c hc).1
  | .notFinite, _, rest, ts, hrest, h =>
      h.word word_notFinite.1 word_notFinite.2 fun c hc => (hrest c hc).1
  | .boolean b, _, rest, ts, hrest, h =>
      h.word (word_boolean b).1 (word_boolean b).2 fun c hc => (hrest c hc).1
  | .array [], _, rest, ts, hrest, h => .mark rfl (.mark rfl h)
  | .array [v], hv, rest, ts, hrest, h => by
      have hclose : Cut (']' :: rest) (.closeBracket :: ts) := .mark rfl h
      have hitem := cut_text v hv.1 (Breaks.cons (by decide) rest) hclose
      have hopen := Cut.mark (c := '[') rfl hitem
      simpa [text, tokens] using hopen
  | .array (v :: w :: items), hv, rest, ts, hrest, h => by
      rw [text_array_cons_cons, tokens_array_cons_cons]
      have hclose : Cut ('\n' :: ']' :: rest) (.lineFeed :: .closeBracket :: ts) :=
        .mark rfl (.mark rfl h)
      have hitems := cut_itemsText (v :: w :: items) hv hclose
      simpa using Cut.mark (c := '[') rfl hitems
  | .table [], _, rest, ts, hrest, h => .mark rfl (.mark rfl h)
  | .table (entry :: entries), hv, rest, ts, hrest, h => by
      rw [text_table_cons, tokens_table_cons]
      have hclose : Cut (' ' :: '\x7d' :: rest) (.gap true :: .closeBrace :: ts) :=
        .space (by intro c hc; cases hc; decide) (.mark rfl h)
      have hpairs := cut_pairsText (entry :: entries) (List.cons_ne_nil _ _) hv.2
        (Breaks.cons (by decide) _) hclose
      simpa using Cut.mark (c := '\x7b') rfl hpairs

theorem cut_itemsText : (items : List Value) → ItemsWellFormed items → {rest : List Char} →
    {ts : List Token} → Cut rest ts → Cut (itemsText items ++ rest) (itemsTokens items ++ ts)
  | [], _, rest, ts, h => h
  | v :: vs, hv, rest, ts, h => by
      have hmore := cut_itemsText vs hv.2 h
      have hitem := cut_text v hv.1 (Breaks.cons (by decide) _) (Cut.mark (c := ',') rfl hmore)
      have hindent :=
        @Cut.gap _ [' ', ' ', ' '] _ ' ' rfl (by simp [Quoted.isGap]) (noGap_text hv.1)
        hitem
      have hfeed := Cut.mark (c := '\n') rfl hindent
      simpa [itemsText, itemsTokens, indent] using hfeed

theorem cut_pairsText : (entries : List (String × Value)) → entries ≠ [] →
    EntriesWellFormed entries → {rest : List Char} → {ts : List Token} → Breaks rest →
    Cut rest ts → Cut (pairsText entries ++ rest) (pairsTokens entries ++ ts)
  | [], hne, _, _, _, _, _ => absurd rfl hne
  | [(k, v)], _, hv, rest, ts, hrest, h => by
      have hvalue := cut_text v hv.1 hrest h
      have hpair := cut_pair k (noGap_text hv.1) hvalue
      have hgap := Cut.space (noGap_keyText k) hpair
      simpa [pairsText, pairsTokens] using hgap
  | (k, v) :: entry :: entries, _, hv, rest, ts, hrest, h => by
      have hmore := cut_pairsText (entry :: entries) (List.cons_ne_nil _ _) hv.2 hrest h
      have hvalue := cut_text v hv.1 (Breaks.cons (by decide) _) (Cut.mark (c := ',') rfl hmore)
      have hpair := cut_pair k (noGap_text hv.1) hvalue
      have hgap := Cut.space (noGap_keyText k) hpair
      rw [pairsText_cons_cons, pairsTokens_cons_cons]
      simpa using hgap

end

end

/-! ## characters -/

theorem needsEscape_of_isWordChar {c : Char} (h : Token.isWordChar c = true) :
    Quoted.needsEscape c = false := by
  simp only [Token.isWordChar, Bool.or_eq_true, decide_eq_true_eq] at h
  rcases h with ((h | rfl) | rfl) | rfl
  · exact Quoted.needsEscape_of_isKeyChar h
  all_goals decide

mutual

/-- No character that needs an escape stands in the text of a value. -/
theorem needsEscape_of_mem_text : (v : Value) → v.WellFormed → ∀ c ∈ v.text,
    Quoted.needsEscape c = false
  | .string s, _ => fun _ => Quoted.needsEscape_of_mem_write
  | .integer i, _ => fun c hc => needsEscape_of_isWordChar ((word_integerText i).2 c hc)
  | .double x, _ => fun c hc => needsEscape_of_isWordChar ((word_doubleText x).2 c hc)
  | .notFinite, _ => fun c hc => needsEscape_of_isWordChar (word_notFinite.2 c hc)
  | .boolean b, _ => fun c hc => needsEscape_of_isWordChar ((word_boolean b).2 c hc)
  | .array [], _ => by simp [text, Quoted.needsEscape]
  | .array [v], hv => by
      have hitem := needsEscape_of_mem_text v hv.1
      have hmarks : Quoted.needsEscape '[' = false ∧ Quoted.needsEscape ']' = false := by decide
      simpa [text, or_imp, forall_and, hmarks] using hitem
  | .array (v :: w :: items), hv => by
      have hitems := needsEscape_of_mem_itemsText (v :: w :: items) hv
      have hmarks : Quoted.needsEscape '[' = false ∧ Quoted.needsEscape ']' = false ∧
          Quoted.needsEscape '\n' = false := by decide
      rw [text_array_cons_cons]
      simpa [or_imp, forall_and, hmarks] using hitems
  | .table [], _ => by simp [text, Quoted.needsEscape]
  | .table (entry :: entries), hv => by
      have hpairs := needsEscape_of_mem_pairsText (entry :: entries) hv.2
      have hmarks : Quoted.needsEscape '\x7b' = false ∧ Quoted.needsEscape '\x7d' = false ∧
          Quoted.needsEscape ' ' = false := by decide
      rw [text_table_cons]
      simpa [or_imp, forall_and, hmarks] using hpairs

theorem needsEscape_of_mem_itemsText : (items : List Value) → ItemsWellFormed items →
    ∀ c ∈ itemsText items, Quoted.needsEscape c = false
  | [], _ => nofun
  | v :: vs, hv => by
      have hitem := needsEscape_of_mem_text v hv.1
      have hmore := needsEscape_of_mem_itemsText vs hv.2
      have hmarks : Quoted.needsEscape '\n' = false ∧ Quoted.needsEscape ' ' = false ∧
          Quoted.needsEscape ',' = false := by decide
      simpa [itemsText, indent, or_imp, forall_and, hmarks] using ⟨hitem, hmore⟩

theorem needsEscape_of_mem_pairsText : (entries : List (String × Value)) →
    EntriesWellFormed entries → ∀ c ∈ pairsText entries, Quoted.needsEscape c = false
  | [], _ => nofun
  | [(k, v)], hv => by
      have hkey : ∀ c ∈ keyText k, Quoted.needsEscape c = false := fun _ =>
        Quoted.needsEscape_of_mem_writeKey
      have hitem := needsEscape_of_mem_text v hv.1
      have hmarks : Quoted.needsEscape ' ' = false ∧ Quoted.needsEscape '=' = false := by decide
      simpa [pairsText, or_imp, forall_and, hmarks] using ⟨hkey, hitem⟩
  | (k, v) :: entry :: entries, hv => by
      have hkey : ∀ c ∈ keyText k, Quoted.needsEscape c = false := fun _ =>
        Quoted.needsEscape_of_mem_writeKey
      have hitem := needsEscape_of_mem_text v hv.1
      have hmore := needsEscape_of_mem_pairsText (entry :: entries) hv.2
      have hmarks : Quoted.needsEscape ' ' = false ∧ Quoted.needsEscape '=' = false ∧
          Quoted.needsEscape ',' = false := by decide
      rw [pairsText_cons_cons]
      simpa [or_imp, forall_and, hmarks] using ⟨hkey, hitem, hmore⟩

end

end Value

end SearchRelay.Toml
