import SearchRelay.Toml.Quoted

/-!
# SearchRelay.Proofs.Toml.Quoted

Quoted texts of a TOML document as they are written.

1. `unescape_escape` — the escapes of a text give the text back;
2. `splitLine_escape`, `splitLines_escape` — a text with escapes ends at its
   closing quotes, whatever it holds; `splitLine_literal` and
   `splitLines_literal` state this for a text without escapes that holds no
   quote, or not too many of them in a row;
3. `read?_write`, `read?_writeKey` — so a text and a key are read back in each
   of their forms, up to what follows them.
-/

namespace SearchRelay.Toml.Quoted

/-! ## escapes -/

section

variable {several : Bool}

/-- Escapes are undone one character at a time. -/
theorem unescape_cons (p : Pending) (c : Char) (cs : List Char) :
    unescape several p (c :: cs) =
      (step several p c).bind fun next => (unescape several next.2 cs).map (next.1 ++ ·) := by
  have hstep : unescape several p (c :: cs) =
      step several p c >>= fun next =>
        unescape several next.2 cs >>= fun more => pure (next.1 ++ more) := by
    cases p <;> rw [unescape]
  rw [hstep]
  cases step several p c with
  | none => rfl
  | some next => cases hrest : unescape several next.2 cs <;> simp [hrest]

/-- A capital hexadecimal digit is read as the number it was written for. -/
theorem hexValue?_capitalDigit {n : Nat} (h : n < 16) :
    Json.hexValue? (capitalDigit n) = some n := by
  revert n
  decide

/-- Only ASCII characters need an escape. -/
theorem toNat_lt_of_needsEscape {c : Char} (h : needsEscape c = true) : c.toNat < 128 := by
  simp only [needsEscape, Bool.or_eq_true, Bool.and_eq_true, decide_eq_true_eq] at h
  rcases h with h | rfl
  · omega
  · decide

/-- An escape by code point is undone. -/
theorem unescape_pointEscape {c : Char} (hc : c.toNat < 128) (cs : List Char) :
    unescape several .nothing (pointEscape c ++ cs) =
      (unescape several .nothing cs).map (c :: ·) := by
  have hhigh := hexValue?_capitalDigit (show c.toNat / 16 < 16 by omega)
  have hlow := hexValue?_capitalDigit (show c.toNat % 16 < 16 by omega)
  have hzero : Json.hexValue? '0' = some 0 := by decide
  have hpoint : c.toNat / 16 * 16 + c.toNat % 16 = c.toNat := Nat.div_add_mod' _ _
  have hvalid : c.toNat.isValidChar := c.valid
  simp [pointEscape, unescape_cons, step, plainStep, afterBackslash, afterDigit, hhigh, hlow,
    hzero, hpoint, character?, hvalid, Char.ofNat_toNat, Function.comp_def]

/-- What a character other than a quote is written as: itself, or a backslash
with a mark and perhaps digits behind. -/
theorem escapeChar_eq (c : Char) :
    (escapeChar several c = [c] ∧ c ≠ '\\' ∧ needsEscape c = false ∧
      (c = '\n' → several = true)) ∨
    ∃ mark more, escapeChar several c = '\\' :: mark :: more ∧
      (mark = '\\' ∨ mark.isAlphanum = true) ∧ ∀ d ∈ more, d.isAlphanum = true := by
  unfold escapeChar
  split
  iterate 5 · exact .inr ⟨_, [], rfl, by decide, by simp⟩
  · cases several with
    | true => exact .inl ⟨rfl, by decide, by decide, fun _ => rfl⟩
    | false => exact .inr ⟨_, [], rfl, by decide, by simp⟩
  · next hslash hfeed =>
    split
    · next hc =>
      have hcode := toNat_lt_of_needsEscape hc
      have hdigit : ∀ n, n < 16 → (capitalDigit n).isAlphanum = true := by decide
      refine .inr ⟨'u', _, rfl, by decide, ?_⟩
      simp [hdigit (c.toNat / 16) (by omega), hdigit (c.toNat % 16) (by omega)]
    · next hc => exact .inl ⟨rfl, hslash, by simpa using hc, fun h => absurd h hfeed⟩

/-- The escape of a character is undone. -/
theorem unescape_escapeChar (c : Char) (cs : List Char) :
    unescape several .nothing (escapeChar several c ++ cs) =
      (unescape several .nothing cs).map (c :: ·) := by
  unfold escapeChar
  split
  iterate 5
    · simp [unescape_cons, step, plainStep, afterBackslash, letter?, isGap, Function.comp_def]
  · cases several with
    | true => simp [unescape_cons, step, plainStep]
    | false => simp [unescape_cons, step, plainStep, afterBackslash, letter?, Function.comp_def]
  · next hslash _ =>
    split
    · next hc => exact unescape_pointEscape (toNat_lt_of_needsEscape hc) cs
    · have hplain : c ≠ '\\' := hslash
      simp [unescape_cons, step, plainStep, hplain]

/-- A text is read from its escapes. -/
theorem unescape_escape (allowed run : Nat) (cs : List Char) :
    unescape several .nothing (escape several allowed run cs) = some cs := by
  induction cs generalizing run with
  | nil => rfl
  | cons c cs ih =>
      rw [escape]
      split
      · next hquote =>
        subst hquote
        split
        · simp [unescape_cons, step, plainStep, ih]
        · simp [unescape_cons, step, plainStep, afterBackslash, letter?, isGap, ih]
      · rw [unescape_escapeChar, ih]
        rfl

end

/-! ## texts on one line -/

/- The reader looks for the closing mark and only keeps in mind whether the last
character was a backslash. An escape is two characters or more, none of which is the
mark by itself. -/

section

variable {quote : Char} {escapes : Bool} {cs raw rest : List Char}

/-- A character that does not close the text belongs to it. -/
theorem splitLine_cons {escaped next : Bool} {c : Char} (hfeed : c ≠ '\n')
    (hquote : c = quote → escaped = true)
    (hnext : (escapes && c = '\\' && !escaped) = next)
    (h : splitLine quote escapes next cs = some (raw, rest)) :
    splitLine quote escapes escaped (c :: cs) = some (c :: raw, rest) := by
  have hopen : ¬ (c = quote ∧ ¬ escaped = true) := fun hc => hc.2 (hquote hc.1)
  rw [splitLine, if_neg hfeed, if_neg hopen, hnext, h]
  rfl

/-- Characters that are no line feed, no quote and no backslash. -/
theorem splitLine_append {front : List Char}
    (hfront : ∀ c ∈ front, c ≠ '\n' ∧ c ≠ quote ∧ (escapes = true → c ≠ '\\'))
    (h : splitLine quote escapes false cs = some (raw, rest)) :
    splitLine quote escapes false (front ++ cs) = some (front ++ raw, rest) := by
  induction front with
  | nil => exact h
  | cons c front ih =>
      obtain ⟨⟨hfeed, hquote, hslash⟩, hfront⟩ := List.forall_mem_cons.mp hfront
      have hnext : (escapes && c = '\\' && !false) = false := by
        cases escapes <;> simp [hslash]
      exact splitLine_cons hfeed (fun heq => absurd heq hquote) hnext (ih hfront)

/-- The quotation mark closes the text. -/
theorem splitLine_close (hquote : quote ≠ '\n') (rest : List Char) :
    splitLine quote escapes false (quote :: rest) = some ([], rest) := by
  rw [splitLine, if_neg hquote, if_pos ⟨rfl, Bool.false_ne_true⟩]

/-- A text without escapes that holds no quote. -/
theorem splitLine_literal (hquote : quote ≠ '\n') (hcs : ∀ c ∈ cs, c ≠ '\n' ∧ c ≠ quote)
    (rest : List Char) :
    splitLine quote false false (cs ++ quote :: rest) = some (cs, rest) := by
  have hplain : ∀ c ∈ cs, c ≠ '\n' ∧ c ≠ quote ∧ (false = true → c ≠ '\\') := fun c hc =>
    ⟨(hcs c hc).1, (hcs c hc).2, fun h => absurd h Bool.false_ne_true⟩
  have happend := splitLine_append hplain (splitLine_close hquote rest)
  rwa [List.append_nil] at happend

end

theorem ne_mark_of_isAlphanum {c : Char} (h : c.isAlphanum = true) :
    c ≠ '\n' ∧ c ≠ '"' ∧ c ≠ '\\' := by
  refine ⟨?_, ?_, ?_⟩ <;> rintro rfl <;> exact absurd h (by decide)

/-- An escaped character belongs to the text. -/
theorem splitLine_escapeChar {c : Char} (hc : c ≠ '"') {cs raw rest : List Char}
    (h : splitLine '"' true false cs = some (raw, rest)) :
    splitLine '"' true false (escapeChar false c ++ cs) =
      some (escapeChar false c ++ raw, rest) := by
  rcases escapeChar_eq c with ⟨heq, hslash, -, hfeed⟩ | ⟨mark, more, heq, hmark, hmore⟩
  · rw [heq]
    refine splitLine_append (fun d hd => ?_) h
    rw [List.mem_singleton.mp hd]
    exact ⟨fun hd => absurd (hfeed hd) Bool.false_ne_true, hc, fun _ => hslash⟩
  · rw [heq]
    have hplain : ∀ d ∈ more, d ≠ '\n' ∧ d ≠ '"' ∧ (true = true → d ≠ '\\') := fun d hd =>
      have hne := ne_mark_of_isAlphanum (hmore d hd)
      ⟨hne.1, hne.2.1, fun _ => hne.2.2⟩
    have hfeed : mark ≠ '\n' := by
      rintro rfl
      exact absurd hmark (by decide)
    refine splitLine_cons (by decide) (fun h => absurd h (by decide)) rfl ?_
    exact splitLine_cons hfeed (fun _ => rfl) (by simp) (splitLine_append hplain h)

/-- A text with escapes ends at its closing quote. -/
theorem splitLine_escape (run : Nat) (cs rest : List Char) :
    splitLine '"' true false (escape false 0 run cs ++ '"' :: rest) =
      some (escape false 0 run cs, rest) := by
  induction cs generalizing run with
  | nil => exact splitLine_close (by decide) rest
  | cons c cs ih =>
      rw [escape]
      split
      · rw [if_neg (Nat.not_lt_zero run)]
        refine splitLine_cons (by decide) (fun h => absurd h (by decide)) rfl ?_
        exact splitLine_cons (by decide) (fun _ => rfl) rfl (ih 0)
      · next hc =>
        rw [List.append_assoc]
        exact splitLine_escapeChar hc (ih 0)

/-! ## texts of several lines -/

/- Here three marks close the text, so the reader counts those in a row. The writer
escapes the third mark in a row, or chooses marks of which there are no three in a row.
-/

section

variable {quote : Char} {escapes : Bool} {run : Nat} {cs raw rest : List Char}

/-- A character that does not close the text belongs to it, over several lines. -/
theorem splitLines_cons {escaped next : Bool} {c : Char} (hrun : run ≤ 2)
    (hquote : c = quote → escaped = true)
    (hnext : (escapes && c = '\\' && !escaped) = next)
    (h : splitLines quote escapes 0 next cs = some (raw, rest)) :
    splitLines quote escapes run escaped (c :: cs) = some (c :: raw, rest) := by
  have hopen : ¬ (c = quote ∧ ¬ escaped = true) := fun hc => hc.2 (hquote hc.1)
  have hfew : ¬ quoteCount ≤ run := by
    simp only [quoteCount]
    omega
  rw [splitLines, if_neg hopen, if_neg hfew, hnext, h]
  rfl

/-- A quote in a row of quotes. -/
theorem splitLines_quote (hrun : run + 1 ≤ 4)
    (h : splitLines quote escapes (run + 1) false cs = some (raw, rest)) :
    splitLines quote escapes run false (quote :: cs) = some (quote :: raw, rest) := by
  have hshort : ¬ run + 1 = longestEnd := by
    simp only [longestEnd]
    omega
  rw [splitLines, if_pos ⟨rfl, Bool.false_ne_true⟩, if_neg hshort, h]
  rfl

/-- Behind at most two quotes, three quotes end a text if no other follows. -/
theorem splitLines_close (hrun : run ≤ 2) (hrest : ∀ c ∈ rest.head?, c ≠ quote) :
    splitLines quote escapes run false (quote :: quote :: quote :: rest) =
      some ([quote, quote, quote], rest) := by
  have hend : ∀ n, quoteCount ≤ n → splitLines quote escapes n false rest = some ([], rest) := by
    intro n hn
    cases rest with
    | nil => rw [splitLines, if_pos hn]
    | cons c rest =>
        have hopen : ¬ (c = quote ∧ ¬ false = true) := fun hc => hrest c rfl hc.1
        rw [splitLines, if_neg hopen, if_pos hn]
  refine splitLines_quote (by omega) (splitLines_quote (by omega) ?_)
  by_cases hlong : run = 2
  · subst hlong
    rw [splitLines, if_pos ⟨rfl, Bool.false_ne_true⟩, if_pos (by decide)]
  · exact splitLines_quote (by omega) (hend _ (by simp only [quoteCount]; omega))

/-- Characters that are no quote and no backslash end a row of quotes. -/
theorem splitLines_append {front : List Char} (hrun : run ≤ 2) (hne : front ≠ [])
    (hfront : ∀ c ∈ front, c ≠ quote ∧ (escapes = true → c ≠ '\\'))
    (h : splitLines quote escapes 0 false cs = some (raw, rest)) :
    splitLines quote escapes run false (front ++ cs) = some (front ++ raw, rest) := by
  induction front generalizing run with
  | nil => exact absurd rfl hne
  | cons c front ih =>
      obtain ⟨⟨hquote, hslash⟩, hfront⟩ := List.forall_mem_cons.mp hfront
      have hnext : (escapes && c = '\\' && !false) = false := by
        cases escapes <;> simp [hslash]
      refine splitLines_cons hrun (fun heq => absurd heq hquote) hnext ?_
      cases front with
      | nil => exact h
      | cons d front => exact ih (Nat.zero_le 2) (List.cons_ne_nil _ _) hfront

/-- One character of a text, for the longest run and the run at hand. -/
def countRun (quote : Char) (counts : Nat × Nat) (c : Char) : Nat × Nat :=
  if c = quote then (max counts.1 (counts.2 + 1), counts.2 + 1) else (counts.1, 0)

/-- The longest run of a character, counted from the left. -/
theorem longestRun_eq (quote : Char) (cs : List Char) :
    longestRun quote cs = (cs.foldl (countRun quote) (0, 0)).1 := rfl

/-- The longest run so far never shrinks. -/
theorem le_foldl_countRun (quote : Char) (cs : List Char) (counts : Nat × Nat) :
    counts.1 ≤ (cs.foldl (countRun quote) counts).1 := by
  induction cs generalizing counts with
  | nil => exact Nat.le_refl _
  | cons c cs ih =>
      have hstep : counts.1 ≤ (countRun quote counts c).1 := by
        rw [countRun]
        split
        · exact Nat.le_max_left _ _
        · exact Nat.le_refl _
      exact Nat.le_trans hstep (ih _)

/-- Without a run, the character does not occur. -/
theorem notMem_of_longestRun (h : longestRun quote cs = 0) : quote ∉ cs := by
  intro hmem
  obtain ⟨front, behind, rfl⟩ := List.append_of_mem hmem
  rw [longestRun_eq, List.foldl_append, List.foldl_cons] at h
  generalize front.foldl (countRun quote) (0, 0) = counts at h
  have hgrow := le_foldl_countRun quote behind (countRun quote counts quote)
  have hstep : 1 ≤ (countRun quote counts quote).1 := by
    rw [countRun, if_pos rfl]
    exact Nat.le_trans (Nat.le_add_left 1 counts.2) (Nat.le_max_right _ _)
  omega

/-- A text without escapes that holds at most two quotes in a row. -/
theorem splitLines_literal {longest : Nat} (hrun : run ≤ 2)
    (hcs : (cs.foldl (countRun quote) (longest, run)).1 ≤ 2) (hrest : ∀ c ∈ rest.head?, c ≠ quote) :
    splitLines quote false run false (cs ++ quote :: quote :: quote :: rest) =
      some (cs ++ [quote, quote, quote], rest) := by
  induction cs generalizing longest run with
  | nil => exact splitLines_close hrun hrest
  | cons c cs ih =>
      rw [List.foldl_cons, countRun] at hcs
      by_cases hc : c = quote
      · subst hc
        rw [if_pos rfl] at hcs
        have hgrow := le_foldl_countRun c cs (max longest (run + 1), run + 1)
        have hmore : run + 1 ≤ 2 :=
          Nat.le_trans (Nat.le_trans (Nat.le_max_right _ _) hgrow) hcs
        exact splitLines_quote (by omega) (ih hmore hcs)
      · rw [if_neg hc] at hcs
        exact splitLines_cons hrun (fun heq => absurd heq hc) rfl (ih (Nat.zero_le 2) hcs)

end

/-- An escaped character belongs to the text, over several lines. -/
theorem splitLines_escapeChar {run : Nat} (hrun : run ≤ 2) {c : Char} (hc : c ≠ '"')
    {cs raw rest : List Char} (h : splitLines '"' true 0 false cs = some (raw, rest)) :
    splitLines '"' true run false (escapeChar true c ++ cs) =
      some (escapeChar true c ++ raw, rest) := by
  rcases escapeChar_eq c with ⟨heq, hslash, -, -⟩ | ⟨mark, more, heq, -, hmore⟩
  · rw [heq]
    refine splitLines_append hrun (List.cons_ne_nil _ _) (fun d hd => ?_) h
    rw [List.mem_singleton.mp hd]
    exact ⟨hc, fun _ => hslash⟩
  · rw [heq]
    have hplain : ∀ d ∈ more, d ≠ '"' ∧ (true = true → d ≠ '\\') := fun d hd =>
      have hne := ne_mark_of_isAlphanum (hmore d hd)
      ⟨hne.2.1, fun _ => hne.2.2⟩
    have hrest : splitLines '"' true 0 false (more ++ cs) = some (more ++ raw, rest) := by
      by_cases hnil : more = []
      · rw [hnil]
        exact h
      · exact splitLines_append (Nat.zero_le 2) hnil hplain h
    refine splitLines_cons hrun (fun h => absurd h (by decide)) rfl ?_
    exact splitLines_cons (Nat.zero_le 2) (fun _ => rfl) (by simp) hrest

/-- A text with escapes ends at its closing quotes. -/
theorem splitLines_escape {run : Nat} (hrun : run ≤ 2) (cs : List Char) {rest : List Char}
    (hrest : ∀ c ∈ rest.head?, c ≠ '"') :
    splitLines '"' true run false (escape true 2 run cs ++ '"' :: '"' :: '"' :: rest) =
      some (escape true 2 run cs ++ ['"', '"', '"'], rest) := by
  induction cs generalizing run with
  | nil => exact splitLines_close hrun hrest
  | cons c cs ih =>
      rw [escape]
      split
      · split
        · exact splitLines_quote (by omega) (ih (by omega))
        · refine splitLines_cons hrun (fun h => absurd h (by decide)) rfl ?_
          exact splitLines_cons (Nat.zero_le 2) (fun _ => rfl) rfl (ih (Nat.zero_le 2))
      · next hc =>
        rw [List.append_assoc, List.append_assoc]
        exact splitLines_escapeChar hrun hc (ih (Nat.zero_le 2))

/-! ## texts -/

/- Which of the four forms is written depends on the characters of the text. Each form
is read back by a lemma of its own, and `read?_write` puts them together. -/

def NoQuote (rest : List Char) : Prop := ∀ c ∈ rest.head?, c ≠ '"' ∧ c ≠ '\''

theorem NoQuote.ne {rest : List Char} (h : NoQuote rest) {quote : Char}
    (hquote : quote = '"' ∨ quote = '\'') : ∀ c ∈ rest.head?, c ≠ quote := by
  intro c hc
  rcases hquote with rfl | rfl
  · exact (h c hc).1
  · exact (h c hc).2

/-- A quote that no two others follow opens a text on one line. -/
theorem read?_double {cs : List Char} (h : ∀ more, cs ≠ '"' :: '"' :: more) :
    read? ('"' :: cs) = do
      let (raw, rest) ← splitLine '"' true false cs
      return (← unescape false .nothing raw, false, rest) := by
  unfold read?
  split
  · next heq => exact absurd (List.cons.inj heq).2 (h _)
  · next heq => cases heq
  · next heq =>
    cases heq
    rfl
  · next heq => cases heq
  · next heq _ => exact absurd rfl (heq cs)

/-- A text in single quotes is read as it stands. -/
theorem read?_single {cs : List Char} (h : ∀ more, cs ≠ '\'' :: '\'' :: more) :
    read? ('\'' :: cs) = do
      let (raw, rest) ← splitLine '\'' false false cs
      return (raw, false, rest) := by
  unfold read?
  split
  · next heq => cases heq
  · next heq => exact absurd (List.cons.inj heq).2 (h _)
  · next heq => cases heq
  · next heq =>
    cases heq
    rfl
  · next _ heq => exact absurd rfl (heq cs)

/-- The closing quote of a text that does not begin with one is not taken for
an opening one. -/
theorem ne_quotes {quote : Char} {body rest : List Char} (hbody : ∀ c ∈ body.head?, c ≠ quote)
    (hrest : ∀ c ∈ rest.head?, c ≠ quote) (more : List Char) :
    body ++ quote :: rest ≠ quote :: quote :: more := by
  intro heq
  cases body with
  | nil =>
      have hnext : rest = quote :: more := (List.cons.inj heq).2
      exact hrest quote (by simp [hnext]) rfl
  | cons c body => exact hbody c rfl (List.cons.inj heq).1

section

variable {text rest : List Char}

/-- The first character of a text with escapes is no quote. -/
theorem head_escape (text : List Char) : ∀ c ∈ (escape false 0 0 text).head?, c ≠ '"' := by
  cases text with
  | nil => exact fun _ hc => nomatch hc
  | cons first text =>
      intro c hc
      rw [escape, if_neg (Nat.lt_irrefl 0)] at hc
      split at hc
      · cases hc
        decide
      · next hfirst =>
        rcases @escapeChar_eq false first with ⟨heq, -⟩ | ⟨mark, more, heq, -⟩
        · rw [heq] at hc
          cases hc
          exact hfirst
        · rw [heq] at hc
          cases hc
          decide

/-- Reads a text on one line in double quotes. -/
theorem read?_onLine_escape (text : List Char) (hrest : NoQuote rest) :
    read? (onLine '"' (escape false 0 0 text) ++ rest) = some (text, false, rest) := by
  rw [onLine, List.cons_append, List.append_assoc, List.singleton_append,
    read?_double (ne_quotes (head_escape text) (hrest.ne (.inl rfl))), splitLine_escape]
  simp [unescape_escape]

/-- Reads a text on one line in single quotes. -/
theorem read?_onLine_literal (htext : ∀ c ∈ text, c ≠ '\n' ∧ c ≠ '\'') (hrest : NoQuote rest) :
    read? (onLine '\'' text ++ rest) = some (text, false, rest) := by
  have hhead : ∀ c ∈ text.head?, c ≠ '\'' := fun c hc => (htext c (List.mem_of_head? hc)).2
  rw [onLine, List.cons_append, List.append_assoc, List.singleton_append,
    read?_single (ne_quotes hhead (hrest.ne (.inr rfl))), splitLine_literal (by decide) htext]
  rfl

/-- A line feed stands in front exactly if the text has several lines, so none of
the text is lost. -/
theorem dropLineFeed_append {body cs : List Char} (hbody : '\n' ∉ text → body.head? ≠ some '\n')
    (hcs : cs.head? ≠ some '\n') :
    dropLineFeed ((if text.contains '\n' then ['\n'] else []) ++ (body ++ cs)) = body ++ cs := by
  by_cases hfeed : text.contains '\n' = true
  · rw [if_pos hfeed]
    rfl
  · have hhead : (body ++ cs).head? ≠ some '\n' := by
      cases body with
      | nil => exact hcs
      | cons c body => exact hbody (by simpa using hfeed)
    rw [if_neg hfeed, List.nil_append]
    cases hall : body ++ cs with
    | nil => rfl
    | cons c rest =>
        rw [hall] at hhead
        unfold dropLineFeed
        split
        · next heq =>
          cases heq
          exact absurd rfl hhead
        · rfl

/-- The first character of a text with escapes is a line feed only if the text
begins with one. -/
theorem head_escape_ne_lineFeed (allowed run : Nat) (h : '\n' ∉ text) :
    (escape true allowed run text).head? ≠ some '\n' := by
  cases text with
  | nil => exact nofun
  | cons first text =>
      rw [escape]
      split
      · split <;> simp
      · rcases @escapeChar_eq true first with ⟨heq, -⟩ | ⟨mark, more, heq, -⟩
        · rw [heq]
          have hne : first ≠ '\n' := fun hfirst => h (hfirst ▸ List.mem_cons_self)
          simpa using hne
        · simp [heq]

/-- Reads a text of several lines in double quotes. -/
theorem read?_onLines_escape (text : List Char) (hrest : NoQuote rest) :
    read? (onLines '"' text (escape true 2 0 text) ++ rest) = some (text, true, rest) := by
  have hdrop := dropLineFeed_append (@head_escape_ne_lineFeed text 2 0)
    (show ('"' :: '"' :: '"' :: rest).head? ≠ some '\n' by simp)
  have hsplit := splitLines_escape (Nat.zero_le 2) text (hrest.ne (.inl rfl))
  have hunescape := @unescape_escape true 2 0 text
  simp only [onLines, quoteCount, List.replicate, List.append_assoc, List.cons_append,
    List.nil_append, read?, hdrop, hsplit]
  simp [hunescape]

/-- Reads a text of several lines in single quotes. -/
theorem read?_onLines_literal (htext : longestRun '\'' text ≤ 2) (hrest : NoQuote rest) :
    read? (onLines '\'' text text ++ rest) = some (text, true, rest) := by
  have hhead : '\n' ∉ text → text.head? ≠ some '\n' := fun hfeed hhead =>
    hfeed (List.mem_of_head? hhead)
  have hdrop := dropLineFeed_append hhead
    (show ('\'' :: '\'' :: '\'' :: rest).head? ≠ some '\n' by simp)
  have hsplit := splitLines_literal (Nat.zero_le 2) htext (hrest.ne (.inr rfl))
  simp only [onLines, quoteCount, List.replicate, List.append_assoc, List.cons_append,
    List.nil_append, read?, hdrop, hsplit]
  simp

/-- Whether a text is written between three quotes. -/
def isLong (text : List Char) : Bool := (read? (write text)).any fun read => read.2.1

/-- What is written is read back, on one line or on several. -/
theorem exists_read?_write (text : List Char) :
    ∃ several, ∀ rest, NoQuote rest → read? (write text ++ rest) = some (text, several, rest) := by
  unfold write
  dsimp only
  split
  · exact ⟨_, fun rest => read?_onLine_escape text⟩
  · split
    · next h =>
      have hfeed : '\n' ∉ text := by simpa using h.2.2
      have hquote : '\'' ∉ text := notMem_of_longestRun h.2.1
      have hplain : ∀ c ∈ text, c ≠ '\n' ∧ c ≠ '\'' := fun c hc =>
        ⟨fun heq => hfeed (heq ▸ hc), fun heq => hquote (heq ▸ hc)⟩
      exact ⟨_, fun rest => read?_onLine_literal hplain⟩
    · split
      · exact ⟨_, fun rest => read?_onLines_escape text⟩
      · split
        · next h => exact ⟨_, fun rest => read?_onLines_literal h.2⟩
        · split
          · exact ⟨_, fun rest => read?_onLines_escape text⟩
          · exact ⟨_, fun rest => read?_onLine_escape text⟩

/-- A text is read back from the form in which it is written. -/
theorem read?_write (text : List Char) (hrest : NoQuote rest) :
    read? (write text ++ rest) = some (text, isLong text, rest) := by
  -- the form does not depend on what follows, so the text alone tells it
  obtain ⟨several, hread⟩ := exists_read?_write text
  have hlong : isLong text = several := by
    have halone := hread [] nofun
    rw [List.append_nil] at halone
    rw [isLong, halone, Option.any_some]
  rw [hread rest hrest, hlong]

/-- A quoted text begins with a quote. -/
theorem head_of_read? {cs : List Char} {read : List Char × Bool × List Char}
    (h : read? cs = some read) : cs.head? = some '"' ∨ cs.head? = some '\'' := by
  unfold read? at h
  split at h
  · exact .inl rfl
  · exact .inr rfl
  · exact .inl rfl
  · exact .inr rfl
  · contradiction

def IsBare (key : List Char) : Prop := key ≠ [] ∧ ∀ c ∈ key, isKeyChar c = true

/-- A bare key is written as it is. -/
theorem writeKey_of_bare {key : List Char} (h : IsBare key) : writeKey key = key := by
  have hall : key.all isKeyChar = true := List.all_eq_true.mpr h.2
  rw [writeKey]
  simp [h.1, hall]

/-- A key with quotes is read back. -/
theorem read?_writeKey {key : List Char} (h : ¬ IsBare key) (hrest : NoQuote rest) :
    read? (writeKey key ++ rest) = some (key, false, rest) := by
  have hquoted : ¬ (¬ key.isEmpty = true ∧ key.all isKeyChar = true) := fun hbare =>
    h ⟨by simpa using hbare.1, List.all_eq_true.mp hbare.2⟩
  unfold writeKey
  dsimp only
  rw [if_neg hquoted]
  split
  · exact read?_onLine_escape key hrest
  · split
    · next hliteral =>
      refine read?_onLine_literal (fun c hc => ⟨?_, ?_⟩) hrest
      · rintro rfl
        exact hliteral.1 (List.any_eq_true.mpr ⟨_, hc, by decide⟩)
      · rintro rfl
        exact hliteral.2 (List.contains_iff_mem.mpr hc)
    · exact read?_onLine_escape key hrest

end

/-! ## characters -/

theorem needsEscape_of_isAlphanum {c : Char} (h : c.isAlphanum = true) : needsEscape c = false := by
  cases hc : needsEscape c with
  | false => rfl
  | true =>
      have hall : ∀ n, n < 128 → needsEscape (Char.ofNat n) = true →
          (Char.ofNat n).isAlphanum = false := by decide +kernel
      have hcode := hall c.toNat (toNat_lt_of_needsEscape hc)
      rw [Char.ofNat_toNat, h] at hcode
      exact absurd (hcode hc) (by decide)

/-- Nothing in a text with escapes needs one. -/
theorem needsEscape_of_mem_escape {several : Bool} {allowed run : Nat} {text : List Char} {c : Char}
    (h : c ∈ escape several allowed run text) : needsEscape c = false := by
  induction text generalizing run with
  | nil => cases h
  | cons d text ih =>
      rw [escape] at h
      split at h
      · split at h
        · rcases List.mem_cons.mp h with rfl | h
          · decide
          · exact ih h
        · rcases List.mem_cons.mp h with rfl | h
          · decide
          · rcases List.mem_cons.mp h with rfl | h
            · decide
            · exact ih h
      · rcases List.mem_append.mp h with h | h
        · rcases @escapeChar_eq several d with ⟨heq, -, hplain, -⟩ | ⟨mark, more, heq, hmark, hmore⟩
          · rw [heq, List.mem_singleton] at h
            rwa [h]
          · rw [heq, List.mem_cons, List.mem_cons] at h
            rcases h with rfl | rfl | h
            · decide
            · rcases hmark with rfl | hmark
              · decide
              · exact needsEscape_of_isAlphanum hmark
            · exact needsEscape_of_isAlphanum (hmore c h)
        · exact ih h

section

variable {quote : Char} {text body : List Char} {c : Char}

/-- A text on one line has no bare controls if its body has none. -/
theorem needsEscape_of_mem_onLine (hquote : needsEscape quote = false)
    (hbody : ∀ c ∈ body, needsEscape c = false) (h : c ∈ onLine quote body) :
    needsEscape c = false := by
  simp only [onLine, List.mem_cons, List.mem_append, List.not_mem_nil, or_false] at h
  rcases h with rfl | h | rfl
  · exact hquote
  · exact hbody c h
  · exact hquote

/-- A text on several lines has no bare controls if its body has none. -/
theorem needsEscape_of_mem_onLines (hquote : needsEscape quote = false)
    (hbody : ∀ c ∈ body, needsEscape c = false) (h : c ∈ onLines quote text body) :
    needsEscape c = false := by
  simp only [onLines, List.mem_append, List.mem_replicate] at h
  rcases h with ((⟨-, rfl⟩ | h) | h) | ⟨-, rfl⟩
  · exact hquote
  · split at h
    · rw [List.mem_singleton.mp h]
      decide
    · cases h
  · exact hbody c h
  · exact hquote

/-- No character that needs an escape stands in a written text. -/
theorem needsEscape_of_mem_write (h : c ∈ write text) : needsEscape c = false := by
  have hescape : ∀ several allowed, ∀ c ∈ escape several allowed 0 text, needsEscape c = false :=
    fun _ _ _ => needsEscape_of_mem_escape
  have hliteral : ¬ text.any needsEscape = true → ∀ c ∈ text, needsEscape c = false :=
    fun hcoded c hc => by simpa using fun hneeds => hcoded (List.any_eq_true.mpr ⟨c, hc, hneeds⟩)
  unfold write at h
  dsimp only at h
  split at h
  · exact needsEscape_of_mem_onLine (by decide) (hescape _ _) h
  · split at h
    · next hcoded => exact needsEscape_of_mem_onLine (by decide) (hliteral hcoded.1) h
    · split at h
      · exact needsEscape_of_mem_onLines (by decide) (hescape _ _) h
      · split at h
        · next hcoded => exact needsEscape_of_mem_onLines (by decide) (hliteral hcoded.1) h
        · split at h
          · exact needsEscape_of_mem_onLines (by decide) (hescape _ _) h
          · exact needsEscape_of_mem_onLine (by decide) (hescape _ _) h

theorem needsEscape_of_isKeyChar (h : isKeyChar c = true) : needsEscape c = false := by
  simp only [isKeyChar, Bool.or_eq_true, decide_eq_true_eq] at h
  rcases h with (h | rfl) | rfl
  · exact needsEscape_of_isAlphanum h
  · decide
  · decide

/-- No character that needs an escape stands in a written key. -/
theorem needsEscape_of_mem_writeKey (h : c ∈ writeKey text) : needsEscape c = false := by
  have hescape : ∀ c ∈ escape false 0 0 text, needsEscape c = false :=
    fun _ => needsEscape_of_mem_escape
  unfold writeKey at h
  dsimp only at h
  split at h
  · next hbare => exact needsEscape_of_isKeyChar (List.all_eq_true.mp hbare.2 c h)
  · split at h
    · exact needsEscape_of_mem_onLine (by decide) hescape h
    · split at h
      · next hcoded =>
        refine needsEscape_of_mem_onLine (by decide) (fun d hd => ?_) h
        cases hneeds : needsEscape d with
        | false => rfl
        | true => exact absurd (List.any_eq_true.mpr ⟨d, hd, by simp [hneeds]⟩) hcoded.1
      · exact needsEscape_of_mem_onLine (by decide) hescape h

end

end SearchRelay.Toml.Quoted
