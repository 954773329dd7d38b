import SearchRelay.Proofs.Toml.Line

/-!
# SearchRelay.Proofs.Toml.Block

The blocks of a TOML document, read as lines.

A block is shallow if its header has fewer than `depthLimit` parts and no value
in it nests as deep as that.

1. `cut_intercalate` — the text of blocks is cut into their tokens;
2. `reads_intercalate` — these are read as the lines of the blocks if all of
   them are shallow, and else not at all.
-/

namespace SearchRelay.Toml

open Line (pathTokens)

/-! ## blocks -/

/-- The path of a header. -/
def Header.path : Header → List String
  | .none => []
  | .table path | .list path => path

/-- A path that has parts. -/
def Header.WellFormed : Header → Prop
  | .none => True
  | .table path | .list path => path ≠ []

namespace Block

/-- The header has parts, and the values are well-formed. -/
structure WellFormed (b : Block) : Prop where
  header : b.header.WellFormed
  entries : ∀ entry ∈ b.entries, entry.2.WellFormed

/-- A block that is not too deep to be read. -/
structure Shallow (b : Block) : Prop where
  path : b.header.path.length < depthLimit
  entries : ∀ entry ∈ b.entries, entry.2.nesting < depthLimit

/-- A block is shallow if its path is and all its values are. -/
theorem shallow_iff (b : Block) :
    b.Shallow ↔
      b.header.path.length < depthLimit ∧ ∀ entry ∈ b.entries, entry.2.nesting < depthLimit :=
  ⟨fun h => ⟨h.path, h.entries⟩, fun h => ⟨h.1, h.2⟩⟩

instance (b : Block) : Decidable b.Shallow := decidable_of_iff _ b.shallow_iff.symm

/-- The tokens of a header. -/
def headerTokens : Header → List Token
  | .none => []
  | .table path => .openBracket :: (pathTokens [] path ++ [.closeBracket, .lineFeed])
  | .list path => .openBracket :: .openBracket ::
    (pathTokens [] path ++ [.closeBracket, .closeBracket, .lineFeed])

/-- The tokens of the line of an entry. -/
def lineTokens (entry : String × Value) : List Token :=
  pathTokens [] [entry.1] ++ .gap true :: .equals :: .gap true :: (entry.2.tokens ++ [.lineFeed])

def tokens (b : Block) : List Token := headerTokens b.header ++ b.entries.flatMap lineTokens

/-- The key of a path. -/
def keyOf (path : List String) : Key := ⟨path.dropLast, path.getLastD ""⟩

/-- The line of a header. -/
def headerLines : Header → List Line
  | .none => []
  | .table path => [.header (keyOf path)]
  | .list path => [.listHeader (keyOf path)]

/-- The lines of a block. -/
def lines (b : Block) : List Line :=
  headerLines b.header ++ b.entries.map fun entry => .entry ⟨[], entry.1⟩ entry.2

end Block

namespace Block

/-! ## cutting -/

/- Text and tokens of a block are made of the same parts in the same order, so each part
is cut on its own, in front of anything that does not go on with its last word. -/

section

variable {rest : List Char} {ts : List Token}

/-- The text of a header is cut into its tokens. -/
theorem cut_headerText {header : Header} (hheader : header.WellFormed) (h : Cut rest ts) :
    Cut (headerText header ++ rest) (headerTokens header ++ ts) := by
  cases header with
  | none => exact h
  | table path =>
      have hclose : Cut (']' :: '\n' :: rest) (.closeBracket :: .lineFeed :: ts) :=
        .mark rfl (.mark rfl h)
      have hpath := Line.cut_pathText hheader Line.Begun.nothing (Breaks.cons (by decide) _) hclose
      simpa [headerText, headerTokens] using Cut.mark (c := '[') rfl hpath
  | list path =>
      have hclose : Cut (']' :: ']' :: '\n' :: rest)
          (.closeBracket :: .closeBracket :: .lineFeed :: ts) :=
        .mark rfl (.mark rfl (.mark rfl h))
      have hpath := Line.cut_pathText hheader Line.Begun.nothing (Breaks.cons (by decide) _) hclose
      have hopen := Cut.mark (c := '[') rfl (Cut.mark (c := '[') rfl hpath)
      simpa [headerText, headerTokens] using hopen

/-- The text of an entry is cut into its tokens. -/
theorem cut_lineText {entry : String × Value} (hentry : entry.2.WellFormed) (h : Cut rest ts) :
    Cut (lineText entry ++ rest) (lineTokens entry ++ ts) := by
  have hfeed : Cut ('\n' :: rest) (.lineFeed :: ts) := .mark rfl h
  have hvalue := Value.cut_text entry.2 hentry (Breaks.cons (by decide) _) hfeed
  have hpair := Value.cut_pair entry.1 (Value.noGap_text hentry) hvalue
  simpa [lineText, lineTokens] using hpair

/-- The lines of entries are cut into their tokens. -/
theorem cut_lines {entries : List (String × Value)}
    (hentries : ∀ entry ∈ entries, entry.2.WellFormed)
    (h : Cut rest ts) :
    Cut (entries.flatMap lineText ++ rest) (entries.flatMap lineTokens ++ ts) := by
  induction entries with
  | nil => exact h
  | cons entry entries ih =>
      obtain ⟨hentry, hentries⟩ := List.forall_mem_cons.mp hentries
      simpa using cut_lineText hentry (ih hentries)

/-- The text of a block is cut into its tokens. -/
theorem cut_text {b : Block} (hb : b.WellFormed) (h : Cut rest ts) :
    Cut (b.text ++ rest) (b.tokens ++ ts) := by
  simpa [text, tokens] using cut_headerText hb.header (cut_lines hb.entries h)

/-- The text of blocks is cut into their tokens. -/
theorem cut_intercalate {blocks : List Block} (hblocks : ∀ b ∈ blocks, b.WellFormed) :
    Cut (List.intercalate ['\n'] (blocks.map text))
      (List.intercalate [.lineFeed] (blocks.map tokens)) := by
  induction blocks with
  | nil => exact Cut.nil
  | cons b blocks ih =>
      obtain ⟨hb, hblocks⟩ := List.forall_mem_cons.mp hblocks
      cases blocks with
      | nil => simpa using cut_text hb Cut.nil
      | cons next blocks =>
          have hmore := cut_text hb (Cut.mark (c := '\n') rfl (ih hblocks))
          simpa [List.intercalate_cons_cons] using hmore

end

/-! ## characters -/

section

open Quoted (needsEscape)

/-- A key is written without bare controls. -/
theorem needsEscape_of_mem_keyText {key : String} :
    ∀ c ∈ Value.keyText key, needsEscape c = false :=
  fun _ => Quoted.needsEscape_of_mem_writeKey

theorem needsEscape_of_mem_pathText (path : List String) :
    ∀ c ∈ pathText path, needsEscape c = false := by
  induction path with
  | nil => exact nofun
  | cons key path ih =>
      cases path with
      | nil =>
          have htext : pathText [key] = Value.keyText key := by simp [pathText]
          exact htext ▸ needsEscape_of_mem_keyText
      | cons next path =>
          have htext : pathText (key :: next :: path) =
              Value.keyText key ++ '.' :: pathText (next :: path) := by
            simp [pathText, List.intercalate_cons_cons]
          have hpoint : needsEscape '.' = false := by decide
          have hkey := @needsEscape_of_mem_keyText key
          rw [htext]
          simpa [or_imp, forall_and, hpoint] using ⟨hkey, ih⟩

theorem needsEscape_of_mem_headerText (header : Header) :
    ∀ c ∈ headerText header, needsEscape c = false := by
  have hmarks : needsEscape '[' = false ∧ needsEscape ']' = false ∧ needsEscape '\n' = false := by
    decide
  cases header with
  | none => exact nofun
  | table path | list path =>
      have hpath := needsEscape_of_mem_pathText path
      simpa [headerText, or_imp, forall_and, hmarks] using hpath

theorem needsEscape_of_mem_lineText {entry : String × Value} (hentry : entry.2.WellFormed) :
    ∀ c ∈ lineText entry, needsEscape c = false := by
  have hmarks : needsEscape ' ' = false ∧ needsEscape '=' = false ∧ needsEscape '\n' = false := by
    decide
  have hkey := @needsEscape_of_mem_keyText entry.1
  have hvalue := Value.needsEscape_of_mem_text entry.2 hentry
  simpa [lineText, or_imp, forall_and, hmarks] using ⟨hkey, hvalue⟩

/-- A block is written without bare controls. -/
theorem needsEscape_of_mem_text {b : Block} (hb : b.WellFormed) :
    ∀ c ∈ b.text, needsEscape c = false := by
  intro c hc
  rcases List.mem_append.mp hc with hc | hc
  · exact needsEscape_of_mem_headerText _ c hc
  · obtain ⟨entry, hentry, hc⟩ := List.mem_flatMap.mp hc
    exact needsEscape_of_mem_lineText (hb.entries entry hentry) c hc

/-- Blocks are written without bare controls. -/
theorem needsEscape_of_mem_intercalate {blocks : List Block}
    (hblocks : ∀ b ∈ blocks, b.WellFormed) :
    ∀ c ∈ List.intercalate ['\n'] (blocks.map text), needsEscape c = false := by
  induction blocks with
  | nil => exact nofun
  | cons b blocks ih =>
      obtain ⟨hb, hblocks⟩ := List.forall_mem_cons.mp hblocks
      have hfront := needsEscape_of_mem_text hb
      have hmore := ih hblocks
      cases blocks with
      | nil => simpa using hfront
      | cons next blocks =>
          have hfeed : needsEscape '\n' = false := by decide
          rw [List.map_cons, List.map_cons, List.intercalate_cons_cons]
          simpa [or_imp, forall_and, hfeed] using ⟨hfront, hmore⟩

end

end Block

/-! ## reading -/

/- Every line is read with the fuel of the whole document, which counts tokens. `Reads`
leaves the fuel open, so that lines can be put one in front of the other. -/

/-- The tokens are read with this result. -/
def Reads (ts : List Token) (result : Option (List Line)) : Prop :=
  ∀ fuel, ts.length < fuel → Line.lines? fuel ts = result

namespace Reads

variable {ts rest : List Token} {result : Option (List Line)}

theorem nil : Reads [] (some []) := by
  intro fuel hfuel
  cases fuel with
  | zero => exact absurd hfuel (Nat.not_lt_zero _)
  | succ fuel => rw [Line.lines?]; rfl

theorem lineFeed (h : Reads ts result) : Reads (.lineFeed :: ts) result := by
  intro fuel hfuel
  cases fuel with
  | zero => exact absurd hfuel (Nat.not_lt_zero _)
  | succ fuel =>
      have hmore := h (fuel + 1) (Nat.lt_of_succ_lt hfuel)
      rw [Line.lines?] at hmore ⊢
      exact hmore

/-- A line in front. -/
theorem line {t : Token} (ht : Line.IsOpening t) {read : Line}
    (hread : Line.line? (t :: ts) = some (read, .lineFeed :: rest))
    (hrest : rest.length ≤ ts.length)
    (h : Reads rest result) : Reads (t :: ts) (result.map (read :: ·)) := by
  intro fuel hfuel
  cases fuel with
  | zero => exact absurd hfuel (Nat.not_lt_zero _)
  | succ fuel =>
      have hmore := h fuel (by simp only [List.length_cons] at hfuel; omega)
      simp only [Line.lines?, Line.skipLines_of_isOpening ht, hread, Option.bind_eq_bind,
        Option.bind_some, Line.skipGaps, hmore]
      cases result <;> rfl

/-- A line in front that cannot be read. -/
theorem none {t : Token} (ht : Line.IsOpening t) (hread : Line.line? (t :: ts) = .none) :
    Reads (t :: ts) .none := by
  intro fuel hfuel
  cases fuel with
  | zero => exact absurd hfuel (Nat.not_lt_zero _)
  | succ fuel =>
      simp only [Line.lines?, Line.skipLines_of_isOpening ht, hread, Option.bind_eq_bind,
        Option.bind_none]

end Reads

namespace Block

open Line (IsOpening exists_pathTokens_eq)

theorem exists_keyOf_eq {path : List String} (hpath : path ≠ []) :
    ∃ front last, path = front ++ [last] ∧ keyOf path = ⟨front, last⟩ := by
  obtain ⟨front, last, rfl⟩ := List.eq_nil_or_concat path |>.resolve_left hpath
  exact ⟨front, last, List.concat_eq_append, by simp [keyOf]⟩

/-- A path in brackets, as a key. -/
theorem key?_path {path : List String} (hpath : path ≠ []) (more : List Token) :
    Line.key? (pathTokens [] path ++ .closeBracket :: more) =
      if path.length < depthLimit then some (keyOf path, .closeBracket :: more) else none := by
  obtain ⟨front, last, rfl, hkey⟩ := exists_keyOf_eq hpath
  have hrest : Line.pieces? (.closeBracket :: more) = some ([], .closeBracket :: more) := rfl
  rw [Line.key?_pathTokens hrest, hkey, List.length_append, List.length_singleton]

/-- A header is read as one, unless its path is too long. -/
theorem line?_header {path : List String} (hpath : path ≠ []) (more : List Token) :
    Line.line? (.openBracket :: (pathTokens [] path ++ .closeBracket :: more)) =
      if path.length < depthLimit then some (.header (keyOf path), more) else none := by
  have hkey := key?_path hpath more
  obtain ⟨key, rest, rfl⟩ := List.exists_cons_of_ne_nil hpath
  obtain ⟨t, ts, heq, -, hne⟩ := exists_pathTokens_eq [] key rest
  rw [heq, List.cons_append] at hkey ⊢
  rw [Line.line?, hkey]
  · split <;> rfl
  · rintro _ heq
    cases heq
    exact hne rfl

/-- A header of a list is read as one, unless its path is too long. -/
theorem line?_listHeader {path : List String} (hpath : path ≠ []) (more : List Token) :
    Line.line? (.openBracket :: .openBracket ::
        (pathTokens [] path ++ .closeBracket :: .closeBracket :: more)) =
      if path.length < depthLimit then some (.listHeader (keyOf path), more) else none := by
  rw [Line.line?, key?_path hpath]
  split <;> rfl

/-- The tokens of an entry begin with its key. -/
theorem exists_lineTokens_eq (entry : String × Value) :
    ∃ t ts, lineTokens entry = t :: ts ∧ IsOpening t ∧ t ≠ .openBracket := by
  obtain ⟨t, ts, heq, ht, hne⟩ := exists_pathTokens_eq [] entry.1 []
  exact ⟨t, _, by rw [lineTokens, heq, List.cons_append], ht, hne⟩

/-- A line with a key in front is an entry. -/
theorem line?_of_ne {t : Token} (hne : t ≠ .openBracket) (ts : List Token) :
    Line.line? (t :: ts) = (Line.key? (t :: ts)).bind fun read =>
      match read with
      | (key, .equals :: rest) =>
        (Line.value? (2 * rest.length + 1) (depthLimit - 1) (Line.skipGaps rest)).map fun read =>
          (.entry key read.1, read.2)
      | _ => none := by
  rw [Line.line?]
  · cases Line.key? (t :: ts) with
    | none => rfl
    | some read =>
        obtain ⟨key, rest⟩ := read
        cases rest with
        | nil => rfl
        | cons u rest => cases u <;> first | rfl | exact Option.map_eq_bind.symm
  · rintro _ heq
    cases heq
    exact hne rfl
  · rintro _ heq
    cases heq
    exact hne rfl

/-- The line of an entry. -/
theorem line?_entry {entry : String × Value} (hentry : entry.2.WellFormed) (more : List Token) :
    Line.line? (lineTokens entry ++ more) =
      if entry.2.nesting < depthLimit then some (.entry ⟨[], entry.1⟩ entry.2, .lineFeed :: more)
      else none := by
  obtain ⟨key, v⟩ := entry
  have htokens : lineTokens (key, v) ++ more =
      pathTokens [] [key] ++
        .gap true :: .equals :: .gap true :: (v.tokens ++ .lineFeed :: more) := by
    simp [lineTokens]
  have hrest : Line.pieces? (.gap true :: .equals :: .gap true :: (v.tokens ++ .lineFeed :: more)) =
      some ([], .equals :: .gap true :: (v.tokens ++ .lineFeed :: more)) := rfl
  have hkey := @Line.key?_pathTokens [] key _ _ hrest
  rw [List.nil_append, ← htokens, List.length_nil, if_pos (by decide)] at hkey
  have hgap : Line.skipGaps (.gap true :: (v.tokens ++ .lineFeed :: more)) =
      v.tokens ++ .lineFeed :: more := Line.skipGaps_tokens v _
  have hvalue := Line.value?_tokens v hentry
    (2 * (Token.gap true :: (v.tokens ++ .lineFeed :: more)).length + 1) (depthLimit - 1)
    (.lineFeed :: more) (by simp only [List.length_cons, List.length_append]; omega)
    fun _ _ h => nomatch h
  obtain ⟨t, ts, heq, -, hne⟩ := exists_lineTokens_eq (key, v)
  rw [heq, List.cons_append] at hkey ⊢
  rw [line?_of_ne hne, hkey, Option.bind_some]
  simp only [hgap, hvalue]
  by_cases hdeep : v.nesting < depthLimit
  · rw [if_pos hdeep, if_pos (Nat.le_sub_one_of_lt hdeep)]
    rfl
  · have hle : ¬ v.nesting ≤ depthLimit - 1 := fun hle => hdeep (Nat.lt_of_le_pred (by decide) hle)
    rw [if_neg hdeep, if_neg hle]
    rfl

section

variable {more : List Token} {result : Option (List Line)}

/-- Two conditions in turn, each with its part in front of the result. -/
theorem ite_map_ite {p q : Prop} [Decidable p] [Decidable q] (f g : List Line → List Line) :
    (if p then (if q then result.map g else none).map f else none) =
      if p ∧ q then result.map (f ∘ g) else none := by
  by_cases hp : p <;> by_cases hq : q <;> simp [hp, hq]

/-- An entry is read as one, unless its value nests too deep. -/
theorem reads_entry {entry : String × Value} (hentry : entry.2.WellFormed) (h : Reads more result) :
    Reads (lineTokens entry ++ more)
      (if entry.2.nesting < depthLimit then result.map (.entry ⟨[], entry.1⟩ entry.2 :: ·)
      else none) := by
  have hline := line?_entry hentry more
  have hlength : more.length + 1 ≤ (lineTokens entry ++ more).length := by
    simp only [lineTokens, List.length_append, List.length_cons]
    omega
  obtain ⟨t, ts, heq, ht, -⟩ := exists_lineTokens_eq entry
  rw [heq, List.cons_append] at hline hlength ⊢
  split at hline
  · next hdeep =>
    rw [if_pos hdeep]
    exact h.line ht hline (Nat.le_of_succ_le_succ hlength)
  · next hdeep =>
    rw [if_neg hdeep]
    exact Reads.none ht hline

/-- Entries are read one by one, unless some value nests too deep. -/
theorem reads_entries {entries : List (String × Value)}
    (hentries : ∀ entry ∈ entries, entry.2.WellFormed) (h : Reads more result) :
    Reads (entries.flatMap lineTokens ++ more)
      (if ∀ entry ∈ entries, entry.2.nesting < depthLimit then
        result.map ((entries.map fun entry => .entry ⟨[], entry.1⟩ entry.2) ++ ·)
      else none) := by
  induction entries with
  | nil => simpa using h
  | cons entry entries ih =>
      obtain ⟨hentry, hentries⟩ := List.forall_mem_cons.mp hentries
      have hread := reads_entry hentry (ih hentries)
      rw [ite_map_ite] at hread
      simpa [Function.comp_def, -Prod.forall] using hread

/-- The header of a block is read as it is, unless its path is too long. -/
theorem reads_header {header : Header} (hheader : header.WellFormed) (h : Reads more result) :
    Reads (headerTokens header ++ more)
      (if header.path.length < depthLimit then result.map (headerLines header ++ ·) else none) := by
  have hopen : IsOpening .openBracket := trivial
  cases header with
  | none => simpa [headerTokens, headerLines, Header.path, depthLimit] using h
  | table path =>
      have hline := line?_header hheader (.lineFeed :: more)
      have htokens : headerTokens (.table path) ++ more =
          .openBracket :: (pathTokens [] path ++ .closeBracket :: .lineFeed :: more) := by
        simp [headerTokens]
      rw [htokens]
      split at hline
      · next hpath =>
        rw [Header.path, if_pos hpath]
        exact h.line hopen hline (by simp only [List.length_append, List.length_cons]; omega)
      · next hpath =>
        rw [Header.path, if_neg hpath]
        exact Reads.none hopen hline
  | list path =>
      have hline := line?_listHeader hheader (.lineFeed :: more)
      have htokens : headerTokens (.list path) ++ more = .openBracket :: .openBracket ::
          (pathTokens [] path ++ .closeBracket :: .closeBracket :: .lineFeed :: more) := by
        simp [headerTokens]
      rw [htokens]
      split at hline
      · next hpath =>
        rw [Header.path, if_pos hpath]
        exact h.line hopen hline (by simp only [List.length_append, List.length_cons]; omega)
      · next hpath =>
        rw [Header.path, if_neg hpath]
        exact Reads.none hopen hline

/-- The tokens of a block are read as its lines, unless it is too deep. -/
theorem reads_tokens {b : Block} (hb : b.WellFormed) (h : Reads more result) :
    Reads (b.tokens ++ more) (if b.Shallow then result.map (b.lines ++ ·) else none) := by
  have hread := reads_header hb.header (reads_entries hb.entries h)
  rw [ite_map_ite] at hread
  simpa [shallow_iff, tokens, lines, Function.comp_def, -Prod.forall] using hread

/-- Blocks are read as their lines if all of them are shallow, and else not at
all. -/
theorem reads_intercalate {blocks : List Block} (hblocks : ∀ b ∈ blocks, b.WellFormed) :
    Reads (List.intercalate [.lineFeed] (blocks.map tokens))
      (if ∀ b ∈ blocks, b.Shallow then some (blocks.flatMap lines) else none) := by
  induction blocks with
  | nil => exact Reads.nil
  | cons b blocks ih =>
      obtain ⟨hb, hblocks⟩ := List.forall_mem_cons.mp hblocks
      have hmore : ∃ more, List.intercalate [.lineFeed] ((b :: blocks).map tokens) =
          b.tokens ++ more ∧
            Reads more (if ∀ b ∈ blocks, b.Shallow then some (blocks.flatMap lines) else none) := by
        cases blocks with
        | nil => exact ⟨[], by simp, Reads.nil⟩
        | cons next blocks =>
            exact ⟨_, by simp [List.intercalate_cons_cons], (ih hblocks).lineFeed⟩
      obtain ⟨more, heq, hmore⟩ := hmore
      have hread := reads_tokens hb hmore
      have hfold : ∀ p : Prop, [Decidable p] → (if p then some (blocks.flatMap lines) else none) =
          if p then (some (blocks.flatMap lines)).map id else none := fun _ => by simp
      rw [hfold, ite_map_ite] at hread
      rw [heq]
      simpa using hread

end

end Block

end SearchRelay.Toml
