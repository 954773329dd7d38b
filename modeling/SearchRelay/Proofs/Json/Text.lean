import SearchRelay.Json.Document
import SearchRelay.Proofs.Json.Number
import SearchRelay.Proofs.Json.Quote

/-!
# SearchRelay.Proofs.Json.Text

JSON texts that were written by the printer.

1. `ofTokens?_tokens` — the tokens of a document (`Document.tokens`) are read
   as this document;
2. `tokens?_text` — the text of a value has the tokens of `Document.reread`,
   which is the value with each number as it reads back;
3. `parse?_compact` — so the text of a value is read as `Document.reread`;
4. `text_eq_flatMap` — the text of a value is that of its tokens.
-/

namespace SearchRelay.Json

namespace Document

/-! ## the tokens of a document -/

mutual

/-- The tokens of a document. -/
def tokens : Document → List Token
  | .null => [.null]
  | .bool b => [.bool b]
  | .number n => [.number n]
  | .string s => [.string s]
  | .array [] => [.beginArray, .endArray]
  | .array (d :: ds) => .beginArray :: (tokens d ++ itemsTokens ds)
  | .object [] => [.beginObject, .endObject]
  | .object ((k, d) :: rest) =>
    .beginObject :: .string k :: .colon :: (tokens d ++ fieldsTokens rest)

/-- The tokens of the items after the first, with the closing bracket. -/
def itemsTokens : List Document → List Token
  | [] => [.endArray]
  | d :: ds => .comma :: (tokens d ++ itemsTokens ds)

/-- The tokens of the fields after the first, with the closing brace. -/
def fieldsTokens : List (Option String × Document) → List Token
  | [] => [.endObject]
  | (k, d) :: rest => .comma :: .string k :: .colon :: (tokens d ++ fieldsTokens rest)

end

/-! ## reading tokens -/

/- The reader is a machine over tokens with a stack of open containers. Reading the
tokens of a document from a state where a value is awaited leads to the state behind
this value, with the stack as it was. -/

/-- A document opens with a token that closes no array. -/
theorem head_tokens (d : Document) : ∃ t ts, d.tokens = t :: ts ∧ t ≠ .endArray := by
  cases d with
  | null | bool | number | string => exact ⟨_, _, rfl, by simp⟩
  | array items => cases items <;> exact ⟨_, _, rfl, by simp⟩
  | object fields =>
      cases fields with
      | nil => exact ⟨_, _, rfl, by simp⟩
      | cons field rest =>
          obtain ⟨k, d⟩ := field
          exact ⟨_, _, rfl, by simp⟩

/-- A value may stand where the first item of an array may. -/
theorem foldlM_firstItem (d : Document) (frames : List Frame) :
    d.tokens.foldlM Reader.step ⟨.firstItem, frames⟩ =
      d.tokens.foldlM Reader.step ⟨.value, frames⟩ := by
  obtain ⟨t, ts, htokens, hne⟩ := head_tokens d
  rw [htokens, List.foldlM_cons, List.foldlM_cons]
  congr 1
  cases t with
  | endArray => exact absurd rfl hne
  | _ => rfl

mutual

/-- The tokens of a document are read as it, whatever is open. -/
theorem foldlM_tokens : (d : Document) → (frames : List Frame) →
    d.tokens.foldlM Reader.step ⟨.value, frames⟩ = some ⟨.after d, frames⟩
  | .null, _ | .bool _, _ | .number _, _ | .string _, _ | .array [], _ | .object [], _ => rfl
  | .array (d :: ds), frames => by
      have hitem := foldlM_tokens d (.array [] :: frames)
      have hitems := foldlM_itemsTokens ds d [] frames
      rw [tokens, List.foldlM_cons]
      show (tokens d ++ itemsTokens ds).foldlM Reader.step ⟨.firstItem, .array [] :: frames⟩ = _
      rw [List.foldlM_append, foldlM_firstItem, hitem]
      exact hitems
  | .object ((k, d) :: rest), frames => by
      have hfield := foldlM_tokens d (.object [] k :: frames)
      have hfields := foldlM_fieldsTokens rest k d [] frames
      rw [tokens, List.foldlM_cons, Option.bind_eq_bind]
      show (tokens d ++ fieldsTokens rest).foldlM Reader.step ⟨.value, .object [] k :: frames⟩ = _
      rw [List.foldlM_append, hfield]
      exact hfields

/-- The rest of the items is read into the array that is open. -/
theorem foldlM_itemsTokens : (ds : List Document) → (d : Document) → (before : List Document) →
    (frames : List Frame) →
      (itemsTokens ds).foldlM Reader.step ⟨.after d, .array before :: frames⟩ =
        some ⟨.after (.array (before.reverse ++ d :: ds)), frames⟩
  | [], d, before, frames => by
      simp [itemsTokens, Reader.step, Reader.afterValue]
  | e :: ds, d, before, frames => by
      have hitem := foldlM_tokens e (.array (d :: before) :: frames)
      have hitems := foldlM_itemsTokens ds e (d :: before) frames
      rw [itemsTokens, List.foldlM_cons]
      show (tokens e ++ itemsTokens ds).foldlM Reader.step
        ⟨.value, .array (d :: before) :: frames⟩ = _
      rw [List.foldlM_append, hitem]
      rw [List.reverse_cons, List.append_assoc] at hitems
      exact hitems

/-- The rest of the entries is read into the object that is open. -/
theorem foldlM_fieldsTokens : (rest : List (Option String × Document)) → (k : Option String) →
    (d : Document) → (before : List (Option String × Document)) → (frames : List Frame) →
      (fieldsTokens rest).foldlM Reader.step ⟨.after d, .object before k :: frames⟩ =
        some ⟨.after (.object (before.reverse ++ (k, d) :: rest)), frames⟩
  | [], k, d, before, frames => by
      simp [fieldsTokens, Reader.step, Reader.afterValue]
  | (l, e) :: rest, k, d, before, frames => by
      have hfield := foldlM_tokens e (.object ((k, d) :: before) l :: frames)
      have hfields := foldlM_fieldsTokens rest l e ((k, d) :: before) frames
      rw [fieldsTokens, List.foldlM_cons]
      show (tokens e ++ fieldsTokens rest).foldlM Reader.step
        ⟨.value, .object ((k, d) :: before) l :: frames⟩ = _
      rw [List.foldlM_append, hfield]
      rw [List.reverse_cons, List.append_assoc] at hfields
      exact hfields

end

/-- The tokens of a document are read as it. -/
theorem ofTokens?_tokens (d : Document) : ofTokens? d.tokens = some d := by
  rw [ofTokens?, foldlM_tokens]
  rfl

/-! ## a value as it reads back -/

mutual

/-- A value as a document, with each number as it reads back. -/
def reread : Json → Document
  | .null => .null
  | .bool b => .bool b
  | .number n => .number n.readBack
  | .string s => .string (some s)
  | .array items => .array (rereadItems items)
  | .object fields => .object (rereadFields fields)

/-- Items as documents, with each number as it reads back. -/
def rereadItems : List Json → List Document
  | [] => []
  | v :: vs => reread v :: rereadItems vs

/-- Fields as documents, with each number as it reads back. -/
def rereadFields : Fields → List (Option String × Document)
  | [] => []
  | (k, v) :: rest => (some k, reread v) :: rereadFields rest

end

end Document

/-! ## the tokens of a text -/

/- The text of a value is cut into the tokens of the value, numbers being read back. The
induction carries what follows, because a number ends only where no digit does. -/

/-- A token in front of a text. -/
theorem tokens?_append {front rest : List Char} {token : Token}
    (hfirst : ∃ c cs, front = c :: cs ∧ isBlank c = false)
    (hscan : scanToken (front ++ rest) = some (token, rest)) :
    tokens? (front ++ rest) = (tokens? rest).map (token :: ·) := by
  obtain ⟨c, cs, rfl, hblank⟩ := hfirst
  rw [List.cons_append] at hscan ⊢
  rw [tokens?, if_neg (by rw [hblank]; exact Bool.false_ne_true)]
  split
  · next hnone => rw [hscan] at hnone; cases hnone
  · next heq =>
    rw [hscan] at heq
    cases heq
    rfl

theorem tokens?_cons {c : Char} {rest : List Char} {token : Token} (hblank : isBlank c = false)
    (hscan : scanToken (c :: rest) = some (token, rest)) :
    tokens? (c :: rest) = (tokens? rest).map (token :: ·) :=
  tokens?_append ⟨c, [], rfl, hblank⟩ hscan

theorem tokens?_beginArray (rest : List Char) :
    tokens? ('[' :: rest) = (tokens? rest).map (.beginArray :: ·) := tokens?_cons rfl rfl

theorem tokens?_endArray (rest : List Char) :
    tokens? (']' :: rest) = (tokens? rest).map (.endArray :: ·) := tokens?_cons rfl rfl

theorem tokens?_beginObject (rest : List Char) :
    tokens? ('{' :: rest) = (tokens? rest).map (.beginObject :: ·) := tokens?_cons rfl rfl

theorem tokens?_endObject (rest : List Char) :
    tokens? ('}' :: rest) = (tokens? rest).map (.endObject :: ·) := tokens?_cons rfl rfl

theorem tokens?_colon (rest : List Char) :
    tokens? (':' :: rest) = (tokens? rest).map (.colon :: ·) := tokens?_cons rfl rfl

theorem tokens?_comma (rest : List Char) :
    tokens? (',' :: rest) = (tokens? rest).map (.comma :: ·) := tokens?_cons rfl rfl

/-- A quoted text is one token. -/
theorem tokens?_quote (s : String) (rest : List Char) :
    tokens? (quote s ++ rest) = (tokens? rest).map (.string (some s) :: ·) :=
  tokens?_append ⟨'"', _, rfl, rfl⟩ (scanToken_quote s rest)

/-- The text of a number is one token with the number read back, if no digit follows. -/
theorem tokens?_number (n : Number) {rest : List Char} (h : Ends rest) :
    tokens? (n.text ++ rest) = (tokens? rest).map (.number n.readBack :: ·) := by
  obtain ⟨c, cs, htext, hother⟩ := head_text n
  refine tokens?_append ⟨c, cs, htext, ?_⟩ (scanToken_number n h)
  simp [isBlank, hother ' ' (by decide) (by decide), hother '\t' (by decide) (by decide),
    hother '\n' (by decide) (by decide), hother '\r' (by decide) (by decide)]

theorem Ends.cons {c : Char} {rest : List Char}
    (h : c.isDigit = false ∧ c ≠ '.' ∧ c ≠ 'e' ∧ c ≠ 'E') : Ends (c :: rest) := by
  rintro _ ⟨⟩
  exact h

/-- A number ends where further items or the closing bracket follow. -/
theorem ends_itemsText (vs : List Json) (rest : List Char) : Ends (itemsText vs ++ rest) := by
  cases vs <;> exact Ends.cons (by decide)

/-- A number ends where further entries or the closing brace follow. -/
theorem ends_fieldsText (fields : Fields) (rest : List Char) :
    Ends (fieldsText fields ++ rest) := by
  cases fields with
  | nil => exact Ends.cons (by decide)
  | cons field fields => exact Ends.cons (by decide)

open Document in
mutual

/-- The text of a value has the tokens of the value as it reads back. -/
theorem tokens?_text : (v : Json) → (rest : List Char) → Ends rest →
    tokens? (v.text ++ rest) = (tokens? rest).map ((reread v).tokens ++ ·)
  | .null, rest, _ => tokens?_append ⟨'n', _, rfl, rfl⟩ rfl
  | .bool true, rest, _ => tokens?_append ⟨'t', _, rfl, rfl⟩ rfl
  | .bool false, rest, _ => tokens?_append ⟨'f', _, rfl, rfl⟩ rfl
  | .number n, rest, hrest => tokens?_number n hrest
  | .string s, rest, _ => tokens?_quote s rest
  | .array [], rest, _ => by
      show tokens? ('[' :: ']' :: rest) = _
      rw [tokens?_beginArray, tokens?_endArray, Option.map_map]
      rfl
  | .array (v :: vs), rest, _ => by
      rw [text, List.cons_append, List.append_assoc, tokens?_beginArray,
        tokens?_text v _ (ends_itemsText vs rest), tokens?_itemsText, Option.map_map,
        Option.map_map, reread, rereadItems, tokens]
      simp only [List.cons_append, List.append_assoc]
      rfl
  | .object [], rest, _ => by
      show tokens? ('{' :: '}' :: rest) = _
      rw [tokens?_beginObject, tokens?_endObject, Option.map_map]
      rfl
  | .object ((k, v) :: fields), rest, _ => by
      rw [text, List.cons_append, List.append_assoc, List.cons_append, List.append_assoc,
        tokens?_beginObject, tokens?_quote, tokens?_colon,
        tokens?_text v _ (ends_fieldsText fields rest), tokens?_fieldsText, Option.map_map,
        Option.map_map, Option.map_map, Option.map_map, reread, rereadFields, tokens]
      simp only [List.cons_append, List.append_assoc]
      rfl

theorem tokens?_itemsText : (vs : List Json) → (rest : List Char) →
    tokens? (itemsText vs ++ rest) = (tokens? rest).map (itemsTokens (rereadItems vs) ++ ·)
  | [], rest => tokens?_endArray rest
  | v :: vs, rest => by
      rw [itemsText, List.cons_append, List.append_assoc, tokens?_comma,
        tokens?_text v _ (ends_itemsText vs rest), tokens?_itemsText vs, Option.map_map,
        Option.map_map, rereadItems, itemsTokens]
      simp only [List.cons_append, List.append_assoc]
      rfl

theorem tokens?_fieldsText : (fields : Fields) → (rest : List Char) →
    tokens? (fieldsText fields ++ rest) =
      (tokens? rest).map (fieldsTokens (rereadFields fields) ++ ·)
  | [], rest => tokens?_endObject rest
  | (k, v) :: fields, rest => by
      rw [fieldsText, List.cons_append, List.append_assoc, List.cons_append, List.append_assoc,
        tokens?_comma, tokens?_quote, tokens?_colon,
        tokens?_text v _ (ends_fieldsText fields rest), tokens?_fieldsText fields, Option.map_map,
        Option.map_map, Option.map_map, Option.map_map, rereadFields, fieldsTokens]
      simp only [List.cons_append, List.append_assoc]
      rfl

end

/-- **The text of a value** is read as the value, with each number as it reads
back. -/
theorem parse?_compact (v : Json) : Document.parse? v.compact = some (Document.reread v) := by
  have htokens := tokens?_text v [] ends_nil
  rw [List.append_nil, show tokens? [] = some [] by rw [tokens?], Option.map_some,
    List.append_nil] at htokens
  rw [Document.parse?, compact, String.toList_ofList, htokens, Option.bind_some,
    Document.ofTokens?_tokens]

/-! ## the text of tokens -/

/-- The text of a token; nothing if it has no value. -/
def Token.text : Token → List Char
  | .beginArray => ['[']
  | .endArray => [']']
  | .beginObject => ['{']
  | .endObject => ['}']
  | .colon => [':']
  | .comma => [',']
  | .null => ['n', 'u', 'l', 'l']
  | .bool true => ['t', 'r', 'u', 'e']
  | .bool false => ['f', 'a', 'l', 's', 'e']
  | .number n => n.elim [] Number.text
  | .string s => s.elim [] quote

open Document in
mutual

/-- The text of a value is that of its tokens. -/
theorem text_eq_flatMap : (v : Json) → v.text = (ofJson v).tokens.flatMap Token.text
  | .null | .bool true | .bool false | .array [] | .object [] => rfl
  | .number n => (List.append_nil n.text).symm
  | .string s => (List.append_nil (quote s)).symm
  | .array (v :: vs) => by
      rw [text, text_eq_flatMap v, itemsText_eq_flatMap vs, ofJson, ofItems, tokens,
        List.flatMap_cons, List.flatMap_append]
      rfl
  | .object ((k, v) :: fields) => by
      rw [text, text_eq_flatMap v, fieldsText_eq_flatMap fields, ofJson, Document.ofFields, tokens,
        List.flatMap_cons, List.flatMap_cons, List.flatMap_cons, List.flatMap_append]
      rfl

theorem itemsText_eq_flatMap : (vs : List Json) →
    itemsText vs = (itemsTokens (ofItems vs)).flatMap Token.text
  | [] => rfl
  | v :: vs => by
      rw [itemsText, text_eq_flatMap v, itemsText_eq_flatMap vs, ofItems, itemsTokens,
        List.flatMap_cons, List.flatMap_append]
      rfl

theorem fieldsText_eq_flatMap : (fields : Fields) →
    fieldsText fields = (fieldsTokens (Document.ofFields fields)).flatMap Token.text
  | [] => rfl
  | (k, v) :: fields => by
      rw [fieldsText, text_eq_flatMap v, fieldsText_eq_flatMap fields, Document.ofFields,
        fieldsTokens, List.flatMap_cons, List.flatMap_cons, List.flatMap_cons, List.flatMap_append]
      rfl

end

/-! ## controls -/

/-- Escaping leaves no control character. -/
theorem le_of_mem_escapeChar {c d : Char} (h : d ∈ escapeChar c) : 32 ≤ d.toNat := by
  unfold escapeChar at h
  iterate 7
    split at h
    · simp only [List.mem_cons, List.not_mem_nil, or_false] at h
      rcases h with rfl | rfl <;> decide
  split at h
  · next hlow =>
    have hcode : c.val.toNat < 32 := hlow
    have hdigit : ∀ n < 16, 32 ≤ (hexDigit n).toNat := by decide
    simp only [List.mem_cons, List.not_mem_nil, or_false] at h
    rcases h with rfl | rfl | rfl | rfl | rfl | rfl
    iterate 4 decide
    · exact hdigit _ (by omega)
    · exact hdigit _ (by omega)
  · next hlow =>
    rw [List.mem_singleton.mp h]
    exact Nat.le_of_not_lt hlow

/-- A number has no control character. -/
theorem le_of_mem_number {n : Number} {c : Char} (h : c ∈ n.text) : 32 ≤ c.toNat := by
  rcases isDigit_or_mem_of_mem_text h with hdigit | hother
  · have hlow : '0'.toNat ≤ c.toNat := (Char.isDigit_iff_toNat.mp hdigit).1
    exact Nat.le_trans (by decide) hlow
  · have hall : ∀ d ∈ ['-', '+', '.', 'e'], 32 ≤ d.toNat := by simp
    exact hall c hother

/-- A token has no control character. -/
theorem le_of_mem_token {t : Token} {c : Char} (h : c ∈ t.text) : 32 ≤ c.toNat := by
  have hfixed : ∀ s : List Char, (s.all fun d => 32 ≤ d.toNat) = true → c ∈ s → 32 ≤ c.toNat :=
    fun s hs hc => by simpa using List.all_eq_true.mp hs c hc
  cases t with
  | number n =>
      cases n with
      | none => contradiction
      | some n => exact le_of_mem_number h
  | string s =>
      cases s with
      | none => contradiction
      | some s =>
          rw [Token.text, Option.elim_some, quote, List.mem_cons, List.mem_append,
            List.mem_singleton, List.mem_flatMap] at h
          rcases h with rfl | ⟨d, -, hd⟩ | rfl
          · decide
          · exact le_of_mem_escapeChar hd
          · decide
  | bool b => cases b <;> exact hfixed _ (by decide) h
  | beginArray | endArray | beginObject | endObject | colon | comma | null =>
      exact hfixed _ (by decide) h

/-- No control stands in the text of a value. -/
theorem le_of_mem_text {v : Json} {c : Char} (h : c ∈ v.text) : 32 ≤ c.toNat := by
  rw [text_eq_flatMap, List.mem_flatMap] at h
  obtain ⟨t, -, ht⟩ := h
  exact le_of_mem_token ht

end SearchRelay.Json
