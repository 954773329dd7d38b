import SearchRelay.Proofs.Alias.Quoted
import SearchRelay.Proofs.Json.Relabel
import SearchRelay.Search

/-!
# SearchRelay.Proofs.Translation

Names replaced in the text of a value.

An entry of an envelope is written, its quoted names are replaced byte by byte,
and the text is read again.  This should rename the strings and keys of the
entry that are names, and nothing else.

1. `gaps` — between two strings stands punctuation; a name that is spelled like
   it would be found there;
2. `translate_compact` — of plain names none of which is such a gap, the
   replaced text is the text of the value under `renameTail`;
3. `reads_renamed_iff` — so the entry is renamed if and only if none of its
   strings ends in a quotation mark and a name, and all its numbers read back.
-/

namespace SearchRelay.Search

open Json Alias Substitution Text.Utf8

/-! ## between strings -/

/- Between two strings stands punctuation, a number, or a word such as `true`. A name
could be spelled by it, from the closing mark of one string to the opening mark of the
next. -/

/-- The text up to the next string, if there is one. -/
def gapOf : List Token → Option (List Char)
  | [] => none
  | .string (some _) :: _ => some []
  | t :: ts => (gapOf ts).map (t.text ++ ·)

/-- The texts between one string and the next. -/
def gaps : List Token → List (List Char)
  | [] => []
  | .string (some _) :: ts => (gapOf ts).toList ++ gaps ts
  | _ :: ts => gaps ts

/-- A number is written without quotation marks. -/
theorem mark_notMem_number (n : Number) : '"' ∉ n.text := by
  intro hmem
  rcases isDigit_or_mem_of_mem_text hmem with h | h
  · exact absurd h (by decide)
  · exact absurd h (by decide)

/-- Only strings have a quotation mark in their text. -/
theorem mark_notMem_token {t : Token} (h : ∀ s, t ≠ .string (some s)) : '"' ∉ t.text := by
  cases t with
  | number n =>
      cases n with
      | none => exact List.not_mem_nil
      | some n => exact mark_notMem_number n
  | string s =>
      cases s with
      | none => exact List.not_mem_nil
      | some s => exact absurd rfl (h s)
  | bool b => cases b <;> decide
  | beginArray | endArray | beginObject | endObject | colon | comma | null => decide

theorem gapOf_cons {t : Token} (h : ∀ s, t ≠ .string (some s)) (ts : List Token) :
    gapOf (t :: ts) = (gapOf ts).map (t.text ++ ·) := by
  rw [gapOf]
  exact h

theorem gaps_cons {t : Token} (h : ∀ s, t ≠ .string (some s)) (ts : List Token) :
    gaps (t :: ts) = gaps ts := by
  rw [gaps]
  exact h

/-- What runs up to a mark begins with a text that has none. -/
theorem exists_of_prefix_append {name front rest : List Char} (hfront : '"' ∉ front)
    (h : name ++ ['"'] <+: front ++ rest) :
    ∃ more, name = front ++ more ∧ more ++ ['"'] <+: rest := by
  induction front generalizing name with
  | nil => exact ⟨name, rfl, h⟩
  | cons c front ih =>
      cases name with
      | nil =>
          have hc : '"' = c := (List.cons_prefix_cons.mp h).1
          exact absurd (hc ▸ List.mem_cons_self) hfront
      | cons b name =>
          obtain ⟨hbc, htail⟩ := List.cons_prefix_cons.mp h
          obtain ⟨more, hmore, hprefix⟩ :=
            ih (fun hmem => hfront (List.mem_cons_of_mem _ hmem)) htail
          exact ⟨more, by rw [hbc, hmore, List.cons_append], hprefix⟩

/-- What runs up to the next mark is the gap in front of the next string. -/
theorem gapOf_of_prefix {name : List Char} (hname : '"' ∉ name) (ts : List Token)
    (h : name ++ ['"'] <+: ts.flatMap Token.text) : gapOf ts = some name := by
  induction ts generalizing name with
  | nil =>
      have hnil := List.prefix_nil.mp h
      simp at hnil
  | cons t ts ih =>
      by_cases ht : ∃ s, t = .string (some s)
      · obtain ⟨s, rfl⟩ := ht
        cases name with
        | nil => rfl
        | cons b name =>
            have hb : b = '"' := (List.cons_prefix_cons.mp h).1
            exact absurd (hb ▸ List.mem_cons_self) hname
      · have hother : ∀ s, t ≠ .string (some s) := fun s heq => ht ⟨s, heq⟩
        rw [List.flatMap_cons] at h
        obtain ⟨more, rfl, hprefix⟩ := exists_of_prefix_append (mark_notMem_token hother) h
        rw [gapOf_cons hother, ih (fun hmem => hname (List.mem_append_right _ hmem)) hprefix]
        rfl

/-! ## the text of a value -/

section

variable {rs : List (String × String)} (h : PlainNames rs)

include h

/-- In the text of tokens each string becomes `renameTail` of it. -/
theorem translateFrom_tokens (ts : List Token)
    (hgaps : ∀ gap ∈ gaps ts, ∀ r ∈ rs, r.1.toList ≠ gap) :
    translateFrom '"' (rs.map .ofPair) 0 (ts.flatMap Token.text) =
      (ts.map (Token.relabel (renameTail rs))).flatMap Token.text := by
  induction ts with
  | nil => rfl
  | cons t ts ih =>
      by_cases ht : ∃ s, t = .string (some s)
      · obtain ⟨s, rfl⟩ := ht
        rw [gaps] at hgaps
        have hclosed : Closed rs (ts.flatMap Token.text) := by
          intro r hr hprefix
          have hgap := gapOf_of_prefix (mark_notMem_of_plain (h.plain r hr).1) ts hprefix
          exact hgaps _ (by simp [hgap]) r hr rfl
        have hrest := ih fun gap hgap => hgaps gap (List.mem_append_right _ hgap)
        rw [List.flatMap_cons, List.map_cons, List.flatMap_cons, ← hrest]
        exact translateFrom_quote h s hclosed
      · have hother : ∀ s, t ≠ .string (some s) := fun s heq => ht ⟨s, heq⟩
        have hsame : t.relabel (renameTail rs) = t := by
          unfold Token.relabel
          split
          · next s => exact absurd rfl (hother s)
          · rfl
        rw [gaps_cons hother] at hgaps
        rw [List.flatMap_cons, List.map_cons, List.flatMap_cons, hsame,
          translateFrom_append_of_notMem _ (mark_notMem_token hother), ih hgaps]

/-- Replacing names in a text renames the strings, if no gap between strings spells a
name. -/
theorem translateFrom_text (v : Json)
    (hgaps : ∀ gap ∈ gaps (Document.ofJson v).tokens, ∀ r ∈ rs, r.1.toList ≠ gap) :
    translateFrom '"' (rs.map .ofPair) 0 v.text = (v.relabel (renameTail rs)).text := by
  rw [text_eq_flatMap, translateFrom_tokens h _ hgaps, text_eq_flatMap, tokens_relabel]

end

/-! ## an entry -/

section

variable {names : List String} {t : Alias.Table}
  (hplain : ∀ r ∈ renamings names t, Plain r.1 ∧ Plain r.2)

include hplain

/-- The names to be replaced are plain, and none occurs twice. -/
theorem plainNames_renamings : PlainNames (renamings names t) where
  nodup := (renamings_distinct names t).1
  ne := (renamings_distinct names t).2
  plain := hplain

variable {v : Json}
  (hgaps : ∀ gap ∈ gaps (Document.ofJson v).tokens, ∀ r ∈ renamings names t, r.1.toList ≠ gap)

include hgaps

/-- Translating the text of a value is renaming its strings. -/
theorem translate_compact :
    translate (plan names t) (utf8 v.compact) =
      encode (v.relabel (renameTail (renamings names t))).text := by
  rw [plan_eq_map_renamings, translate_utf8, compact, String.toList_ofList,
    translateFrom_text (plainNames_renamings hplain) v hgaps]

/-- The document that bytes are read as. -/
def documentOf? (bytes : List UInt8) : Option Document :=
  (String.fromUTF8? ⟨bytes.toArray⟩).bind Document.parse?

omit hplain hgaps in
/-- Bytes are parsed as a document, and then as its value. -/
theorem parseBytes?_eq_bind (bytes : List UInt8) :
    parseBytes? bytes = (documentOf? bytes).bind (Document.value? (some nestingLimit)) := by
  rw [documentOf?, Option.bind_assoc]
  rfl

omit hplain hgaps in
/-- The text of a value is parsed as the value, its numbers read back. -/
theorem documentOf?_encode_text (w : Json) :
    documentOf? (encode w.text) = some (Document.reread w) := by
  rw [documentOf?, fromUTF8?_encode, Option.bind_some]
  exact parse?_compact w

/-- **Names in an entry**: the text of a value with its names replaced reads as
the value with its names replaced if and only if no string of it ends in a
quotation mark and a name and all its numbers read back.  Then the entry is
renamed if and only if it does not nest too deep. -/
theorem reads_renamed_iff :
    (documentOf? (translate (plan names t) (utf8 v.compact)) =
        some (Document.ofJson (v.relabel (rename (renamings names t)))) ↔
      (∀ s ∈ v.strings, ¬ EndsInMarked (renamings names t) s) ∧
        ∀ n ∈ v.numbers, n.readBack = some n) ∧
    ∀ key, (∀ s ∈ v.strings, ¬ EndsInMarked (renamings names t) s) →
      (∀ n ∈ v.numbers, n.readBack = some n) →
        (translateEntry (plan names t) (key, v) =
            .ok (key, v.mapTexts (rename (renamings names t))) ↔
          (Document.ofJson v).depth ≤ nestingLimit) := by
  have hnames := plainNames_renamings hplain
  have hiff := reread_relabel_iff (renameTail (renamings names t)) (rename (renamings names t)) v
  simp only [hnames.renameTail_eq_rename_iff] at hiff
  have hdocument : documentOf? (translate (plan names t) (utf8 v.compact)) =
      some (Document.reread (v.relabel (renameTail (renamings names t)))) := by
    rw [translate_compact hplain hgaps, documentOf?_encode_text]
  constructor
  · rw [hdocument, Option.some.injEq]
    exact hiff
  · intro key hstrings hnumbers
    have hparsed : parseBytes? (translate (plan names t) (utf8 v.compact)) =
        if (Document.ofJson v).depth ≤ nestingLimit then
          some (v.mapTexts (rename (renamings names t))) else none := by
      rw [parseBytes?_eq_bind, hdocument, Option.bind_some, hiff.mpr ⟨hstrings, hnumbers⟩,
        Document.value?, Document.fits, depth_relabel, meaning?_ofJson_relabel]
      simp only [decide_eq_true_eq]
    by_cases hdepth : (Document.ofJson v).depth ≤ nestingLimit
    · rw [if_pos hdepth] at hparsed
      rw [translateEntry, hparsed]
      exact iff_of_true rfl hdepth
    · rw [if_neg hdepth] at hparsed
      rw [translateEntry, hparsed]
      exact iff_of_false (fun heq => nomatch heq) hdepth

end

/-! ## a hit -/

/-- The table of one index and its alias. -/
def catalogTable : Alias.Table := ⟨[("products", "catalog")], by decide⟩

/-- A hit of that index. -/
def productHit : Json := .object [
  ("_index", .string "products"),
  ("price", .number (.integer 5)),
  ("title", .string "my products")]

/-- The name of the index is replaced, and not the word in the title. -/
theorem reads_renamed_iff_productHit :
    (∀ r ∈ renamings ["products"] catalogTable, Plain r.1 ∧ Plain r.2) ∧
      (∀ gap ∈ gaps (Document.ofJson productHit).tokens,
        ∀ r ∈ renamings ["products"] catalogTable, r.1.toList ≠ gap) ∧
      translateEntry (plan ["products"] catalogTable) ("results", productHit) =
        .ok ("results", .object [
          ("_index", .string "catalog"),
          ("price", .number (.integer 5)),
          ("title", .string "my products")]) := by
  have hplain : ∀ r ∈ renamings ["products"] catalogTable, Plain r.1 ∧ Plain r.2 := by decide
  have hgaps : ∀ gap ∈ gaps (Document.ofJson productHit).tokens,
      ∀ r ∈ renamings ["products"] catalogTable, r.1.toList ≠ gap := by decide
  exact ⟨hplain, hgaps, ((reads_renamed_iff hplain hgaps).2 "results" (by decide)
    (by decide +kernel)).mpr (by decide)⟩

/-- A score that its own text reads back one rank lower. -/
def closeScore : Json := .number (.double ⟨false, 4607182432380264209, by decide⟩)

/-- None of the conditions can be dropped.  A string that ends in a quotation
mark and a name is changed, though it is no name; a score changes with no name
near it; a name that is spelled like a gap breaks the text; and a name with a
backslash is not found. -/
theorem translateEntry_ne_renamed :
    Alias.Table.ofPairs [("products", "catalog")] = .ok catalogTable ∧
      (translateEntry (plan ["products"] catalogTable)
        ("results", .string "a \"products")).toOption =
          some ("results", .string "a \"catalog") ∧
      (Json.string "a \"products").mapTexts (rename (renamings ["products"] catalogTable)) =
        .string "a \"products" ∧
      (translateEntry (plan ["products"] catalogTable) ("results", closeScore)).toOption ≠
        some ("results", closeScore) ∧
      (translateEntry (plan [","] ⟨[(",", "comma")], by decide⟩)
        ("results", .array [.string "a", .string "b"])).toOption = none ∧
      (translateEntry (plan ["a\\b"] ⟨[("a\\b", "c")], by decide⟩)
        ("results", .string "a\\b")).toOption ≠
        some ("results", .string "c") :=
  ⟨rfl, by decide +kernel, by decide, by decide +kernel, by decide +kernel, by decide +kernel⟩

end SearchRelay.Search
