import Mathlib.Data.List.Nodup
import SearchRelay.Proofs.Alias
import SearchRelay.Proofs.Json.Quote

/-!
# SearchRelay.Proofs.Alias.Quoted

Names replaced in a written string.

A name is looked for between two quotation marks.  In a written string these
are the marks around it and the escaped ones in it, so plain names
(`PlainNames`) are found in two places: as the whole string, and as what
stands behind the last quotation mark in it.  `renameTail` is what becomes of
the string, and `translateFrom_quote` states this.

`renameTail_eq_rename_iff` — the two differ exactly on the strings that end in
a quotation mark and a name (`EndsInMarked`).
-/

namespace SearchRelay.Alias

open Substitution Json

/-! ## renaming a string -/

/- In the text of a value a string is written between quotation marks, and a mark within
it is escaped by a backslash in front. The scan does not know of escapes, so to it the
string goes on behind its last mark. -/

/-- A string, or what it is replaced by. -/
def rename (rs : List (String × String)) (s : String) : String := (rs.lookup s).getD s

/-- The characters of a string with the name behind its last quotation mark
replaced, or with the whole string replaced if it has no mark. -/
def renameTailChars (rs : List (String × String)) : List Char → List Char
  | [] => (rename rs "").toList
  | c :: cs =>
    if '"' ∈ c :: cs then c :: renameTailChars rs cs
    else (rename rs (String.ofList (c :: cs))).toList

/-- A string with the name behind its last quotation mark replaced. -/
def renameTail (rs : List (String × String)) (s : String) : String :=
  String.ofList (renameTailChars rs s.toList)

/-- A string that ends in a quotation mark and a name that is replaced. -/
def EndsInMarked (rs : List (String × String)) (s : String) : Prop :=
  ∃ r ∈ rs, ('"' :: r.1.toList) <:+ s.toList

instance (rs : List (String × String)) (s : String) : Decidable (EndsInMarked rs s) :=
  List.decidableBEx (fun r : String × String => ('"' :: r.1.toList) <:+ s.toList) rs

/-- Different plain names, each for another one. -/
structure PlainNames (rs : List (String × String)) : Prop where
  nodup : (rs.map Prod.fst).Nodup
  ne : ∀ r ∈ rs, r.1 ≠ r.2
  plain : ∀ r ∈ rs, Plain r.1 ∧ Plain r.2

/-- Without a mark the whole text is the tail. -/
theorem renameTailChars_of_notMem (rs : List (String × String)) {cs : List Char} (h : '"' ∉ cs) :
    renameTailChars rs cs = (rename rs (String.ofList cs)).toList := by
  cases cs with
  | nil => rfl
  | cons c cs => rw [renameTailChars, if_neg h]

/-- The tail is what stands behind the last mark. -/
theorem renameTailChars_append (rs : List (String × String)) (front : List Char) {tail : List Char}
    (h : '"' ∉ tail) :
    renameTailChars rs (front ++ '"' :: tail) =
      front ++ '"' :: (rename rs (String.ofList tail)).toList := by
  induction front with
  | nil =>
      rw [List.nil_append, renameTailChars, if_pos List.mem_cons_self,
        renameTailChars_of_notMem rs h]
      rfl
  | cons c front ih =>
      rw [List.cons_append, renameTailChars, if_pos (by simp), ih]
      rfl

/-- A text with marks has a last one. -/
theorem exists_last_mark {cs : List Char} (h : '"' ∈ cs) :
    ∃ front tail, cs = front ++ '"' :: tail ∧ '"' ∉ tail := by
  obtain ⟨tail, front, hcs, htail⟩ := List.eq_append_cons_of_mem (List.mem_reverse.mpr h)
  refine ⟨front.reverse, tail.reverse, ?_, fun hmem => htail (List.mem_reverse.mp hmem)⟩
  rw [← List.reverse_reverse cs, hcs]
  simp

/-- A mark and a name without marks end a text just if the name is its tail. -/
theorem mark_cons_suffix_iff {front tail name : List Char} (htail : '"' ∉ tail)
    (hname : '"' ∉ name) : ('"' :: name) <:+ (front ++ '"' :: tail) ↔ name = tail := by
  constructor
  · rintro ⟨before, hbefore⟩
    -- the last mark of a list stands in one place only
    rcases List.append_eq_append_iff.mp hbefore with ⟨mid, hfront, hmid⟩ | ⟨mid, _, hmid⟩
    · cases mid with
      | nil => exact (List.cons.inj hmid).2
      | cons c mid =>
          have hmem : '"' ∈ name := by
            rw [(List.cons.inj hmid).2]
            simp
          exact absurd hmem hname
    · cases mid with
      | nil => exact (List.cons.inj hmid).2.symm
      | cons c mid =>
          have hmem : '"' ∈ tail := by
            rw [(List.cons.inj hmid).2]
            simp
          exact absurd hmem htail
  · rintro rfl
    exact List.suffix_append front _

section

variable {rs : List (String × String)} (h : PlainNames rs)

include h

/-- A name is replaced by the one it is paired with. -/
theorem PlainNames.rename_of_mem {r : String × String} (hr : r ∈ rs) : rename rs r.1 = r.2 := by
  cases hlookup : rs.lookup r.1 with
  | none =>
      have hne := List.lookup_eq_none_iff.mp hlookup r hr
      simp at hne
  | some target =>
      obtain ⟨before, after, hsplit, -⟩ := List.lookup_eq_some_iff.mp hlookup
      have hmem : (r.1, target) ∈ rs := by simp [hsplit]
      have hpair := List.inj_on_of_nodup_map h.nodup hmem hr rfl
      rw [rename, hlookup, Option.getD_some, ← hpair]

omit h in
/-- Other texts stay as they are. -/
theorem rename_of_notMem {s : String} (hs : ∀ r ∈ rs, r.1 ≠ s) : rename rs s = s := by
  have hlookup : rs.lookup s = none := by
    rw [List.lookup_eq_none_iff]
    exact fun r hr => by simpa using (hs r hr).symm
  rw [rename, hlookup, Option.getD_none]

/-- Since no name is replaced by itself, only other texts stay. -/
theorem PlainNames.rename_eq_self_iff (s : String) : rename rs s = s ↔ ¬ ∃ r ∈ rs, r.1 = s := by
  constructor
  · rintro hself ⟨r, hr, rfl⟩
    rw [h.rename_of_mem hr] at hself
    exact h.ne r hr hself.symm
  · exact fun hnone => rename_of_notMem fun r hr hname => hnone ⟨r, hr, hname⟩

/-- Whether a name ends a text behind a mark shows in its tail. -/
theorem PlainNames.endsInMarked_iff {s : String} {front tail : List Char}
    (hs : s.toList = front ++ '"' :: tail) (htail : '"' ∉ tail) :
    EndsInMarked rs s ↔ ∃ r ∈ rs, r.1 = String.ofList tail := by
  unfold EndsInMarked
  refine exists_congr fun r => and_congr_right fun hr => ?_
  rw [hs, mark_cons_suffix_iff htail (mark_notMem_of_plain (h.plain r hr).1)]
  constructor
  · exact fun hname => by rw [← hname, String.ofList_toList]
  · exact fun hname => by rw [hname, String.toList_ofList]

/-- Replacing the name behind the last quotation mark is replacing whole
strings, but for the strings that end in a mark and a name. -/
theorem PlainNames.renameTail_eq_rename_iff (s : String) :
    renameTail rs s = rename rs s ↔ ¬ EndsInMarked rs s := by
  by_cases hs : '"' ∈ s.toList
  · obtain ⟨front, tail, hsplit, htail⟩ := exists_last_mark hs
    have hself : rename rs s = s := by
      apply rename_of_notMem
      rintro r hr rfl
      exact mark_notMem_of_plain (h.plain r hr).1 hs
    rw [hself, h.endsInMarked_iff hsplit htail, ← h.rename_eq_self_iff, ← String.toList_inj,
      renameTail, String.toList_ofList, hsplit, renameTailChars_append rs front htail,
      List.append_cancel_left_eq, List.cons.injEq, ← String.toList_inj, String.toList_ofList]
    exact and_iff_right rfl
  · have hnone : ¬ EndsInMarked rs s := by
      rintro ⟨r, -, hsuffix⟩
      exact hs (hsuffix.subset List.mem_cons_self)
    have hsame : renameTail rs s = rename rs s := by
      rw [renameTail, renameTailChars_of_notMem rs hs, String.ofList_toList, String.ofList_toList]
    exact iff_of_true hsame hnone

end

/-! ## written characters -/

/-- Escaping brings in no marks. -/
theorem mark_notMem_escapeChar {c : Char} (h : c ≠ '"') : '"' ∉ escapeChar c := by
  have hhex : ∀ n : Fin 16, '"' ≠ hexDigit n := by decide
  unfold escapeChar
  rw [if_neg h]
  iterate 6
    split
    · decide
  split
  · next hlow =>
    have hcode : c.val.toNat < 32 := hlow
    have hhigh : '"' ≠ hexDigit (c.toNat / 16) := hhex ⟨c.val.toNat / 16, by omega⟩
    have hrest : '"' ≠ hexDigit (c.toNat % 16) := hhex ⟨c.val.toNat % 16, by omega⟩
    simp [hhigh, hrest]
  · simpa using h.symm

theorem mark_notMem_flatMap_escapeChar {cs : List Char} (h : '"' ∉ cs) :
    '"' ∉ cs.flatMap escapeChar := by
  intro hmem
  obtain ⟨c, hc, hmark⟩ := List.mem_flatMap.mp hmem
  exact mark_notMem_escapeChar (fun heq => h (heq ▸ hc)) hmark

/-- A character that is not written as it is has a backslash in front. -/
theorem escapeChar_eq_or (c : Char) : escapeChar c = [c] ∨ '\\' ∈ escapeChar c := by
  unfold escapeChar
  iterate 8
    split
    · exact .inr List.mem_cons_self
  exact .inl rfl

/-- Only a plain string is written as a plain name. -/
theorem eq_of_flatMap_escapeChar_eq {s : String} {cs : List Char} (h : Plain s)
    (heq : cs.flatMap escapeChar = s.toList) : cs = s.toList := by
  have hchars : ∀ c ∈ cs, escapeChar c = [c] := by
    intro c hc
    rcases escapeChar_eq_or c with hself | hslash
    · exact hself
    · have hmem : '\\' ∈ s.toList := heq ▸ List.mem_flatMap.mpr ⟨c, hc, hslash⟩
      exact absurd rfl (h _ hmem).2.1
  rw [← heq, List.flatMap_def, List.map_congr_left hchars, ← List.flatMap_def,
    List.flatMap_singleton']

/-! ## the scan of a written string -/

/- The characters of a string are scanned one after the other. A mark can only open a
name if the closing mark of the string ends it, since the names contain no marks. -/

/-- No name stands between the mark in front of a text and the next one. -/
def Closed (rs : List (String × String)) (rest : List Char) : Prop :=
  ∀ r ∈ rs, ¬ r.1.toList ++ ['"'] <+: rest

section

variable {rs : List (String × String)}

/-- In front of a text where no name is closed a mark is passed on. -/
theorem translateFrom_mark_of_closed {rest : List Char} (h : Closed rs rest) :
    translateFrom '"' (rs.map .ofPair) 0 ('"' :: rest) =
      '"' :: translateFrom '"' (rs.map .ofPair) 0 rest := by
  apply translateFrom_cons
  apply longest?_eq_none
  intro s hs hprefix
  obtain ⟨r, hr, rfl⟩ := List.mem_map.mp hs
  exact h r hr (quoteName_prefix_iff.mp hprefix)

variable (h : PlainNames rs)

include h

omit h in
theorem quoteName_ofPair (r : String × String) (rest : List Char) :
    quoteName '"' (Substitution.ofPair r).source ++ rest = '"' :: (r.1.toList ++ '"' :: rest) := by
  simp [quoteName, Substitution.ofPair]

/-- A name between two marks is the one that is found there. -/
theorem longest?_of_name {r : String × String} (hr : r ∈ rs) (rest : List Char) :
    longest? '"' (rs.map .ofPair) (quoteName '"' (Substitution.ofPair r).source ++ rest) =
      some (Substitution.ofPair r) := by
  have hnames : ∀ p ∈ rs, ∀ q ∈ rs, p.1.toList = q.1.toList → p = q := fun p hp q hq heq =>
    List.inj_on_of_nodup_map h.nodup hp hq (String.toList_inj.mp heq)
  refine longest?_quoteName ?_ ?_ (List.mem_map_of_mem hr) rest
  · exact List.forall_mem_map.mpr fun p hp => mark_notMem_of_plain (h.plain p hp).1
  · exact List.forall_mem_map.mpr fun p hp => List.forall_mem_map.mpr fun q hq heq =>
      congrArg Substitution.ofPair (hnames p hp q hq heq)

/-- A string without a quotation mark is replaced as a whole. -/
theorem translateFrom_chunk {cs : List Char} (hcs : '"' ∉ cs) {rest : List Char}
    (hrest : Closed rs rest) :
    translateFrom '"' (rs.map .ofPair) 0 ('"' :: (cs.flatMap escapeChar ++ '"' :: rest)) =
      '"' :: ((renameTailChars rs cs).flatMap escapeChar ++
        '"' :: translateFrom '"' (rs.map .ofPair) 0 rest) := by
  rw [renameTailChars_of_notMem rs hcs]
  by_cases hname : ∃ r ∈ rs, r.1.toList = cs
  · obtain ⟨r, hr, rfl⟩ := hname
    rw [String.ofList_toList, h.rename_of_mem hr, flatMap_escapeChar_of_plain (h.plain r hr).1,
      flatMap_escapeChar_of_plain (h.plain r hr).2, ← quoteName_ofPair,
      translateFrom_of_longest? (longest?_of_name h hr rest)]
    simp [quoteName, Substitution.ofPair]
  · have hself : rename rs (String.ofList cs) = String.ofList cs := by
      apply rename_of_notMem
      intro r hr heq
      exact hname ⟨r, hr, by rw [heq, String.toList_ofList]⟩
    have hopen : Closed rs (cs.flatMap escapeChar ++ '"' :: rest) := by
      intro r hr hprefix
      have heq := (append_mark_prefix_iff (mark_notMem_of_plain (h.plain r hr).1)
        (mark_notMem_flatMap_escapeChar hcs)).mp hprefix
      exact hname ⟨r, hr, (eq_of_flatMap_escapeChar_eq (h.plain r hr).1 heq.symm).symm⟩
    rw [hself, String.toList_ofList, translateFrom_mark_of_closed hopen,
      translateFrom_append_of_notMem _ (mark_notMem_flatMap_escapeChar hcs),
      translateFrom_mark_of_closed hrest]

/-- In front of an escaped mark stands a backslash, so no name ends there. -/
theorem closed_of_mem {cs : List Char} (hcs : '"' ∈ cs) (rest : List Char) :
    Closed rs (cs.flatMap escapeChar ++ rest) := by
  obtain ⟨before, after, hsplit, hbefore⟩ := List.eq_append_cons_of_mem hcs
  have htext : cs.flatMap escapeChar ++ rest =
      (before.flatMap escapeChar ++ ['\\']) ++ '"' :: (after.flatMap escapeChar ++ rest) := by
    rw [hsplit, List.flatMap_append, List.flatMap_cons]
    simp [escapeChar]
  have hchunk : '"' ∉ before.flatMap escapeChar ++ ['\\'] := by
    rw [List.mem_append]
    rintro (hmem | hmem)
    · exact mark_notMem_flatMap_escapeChar hbefore hmem
    · exact absurd hmem (by decide)
  intro r hr hprefix
  rw [htext] at hprefix
  have heq := (append_mark_prefix_iff (mark_notMem_of_plain (h.plain r hr).1) hchunk).mp hprefix
  have hslash : '\\' ∈ r.1.toList := by
    rw [heq]
    simp
  exact ((h.plain r hr).1 _ hslash).2.1 rfl

/-- What becomes of the characters of a string up to its closing mark: first
for a string behind its opening mark that still has a mark, then for a whole
string. -/
theorem translateFrom_chars (cs : List Char) {rest : List Char} (hrest : Closed rs rest) :
    ('"' ∈ cs → translateFrom '"' (rs.map .ofPair) 0 (cs.flatMap escapeChar ++ '"' :: rest) =
      (renameTailChars rs cs).flatMap escapeChar ++
        '"' :: translateFrom '"' (rs.map .ofPair) 0 rest) ∧
    translateFrom '"' (rs.map .ofPair) 0 ('"' :: (cs.flatMap escapeChar ++ '"' :: rest)) =
      '"' :: ((renameTailChars rs cs).flatMap escapeChar ++
        '"' :: translateFrom '"' (rs.map .ofPair) 0 rest) := by
  induction cs with
  | nil => exact ⟨(fun hmem => nomatch hmem), translateFrom_chunk h List.not_mem_nil hrest⟩
  | cons c cs ih =>
      have hinside : '"' ∈ c :: cs →
          translateFrom '"' (rs.map .ofPair) 0 ((c :: cs).flatMap escapeChar ++ '"' :: rest) =
            (renameTailChars rs (c :: cs)).flatMap escapeChar ++
              '"' :: translateFrom '"' (rs.map .ofPair) 0 rest := by
        intro hmem
        rw [renameTailChars, if_pos hmem, List.flatMap_cons, List.flatMap_cons, List.append_assoc,
          List.append_assoc]
        by_cases hc : c = '"'
        · -- behind the escaped mark the rest of the string is scanned as a string
          subst hc
          have hescape : escapeChar '"' = ['\\'] ++ ['"'] := rfl
          rw [hescape, List.append_assoc, List.append_assoc,
            translateFrom_append_of_notMem _ (by decide), List.singleton_append,
            List.singleton_append, ih.2]
          rfl
        · have hrestmem : '"' ∈ cs := by
            rcases List.mem_cons.mp hmem with heq | hmem
            · exact absurd heq.symm hc
            · exact hmem
          rw [translateFrom_append_of_notMem _ (mark_notMem_escapeChar hc), ih.1 hrestmem]
      refine ⟨hinside, ?_⟩
      by_cases hmem : '"' ∈ c :: cs
      · rw [translateFrom_mark_of_closed (closed_of_mem h hmem _), hinside hmem]
      · exact translateFrom_chunk h hmem hrest

/-- **Names in a written string**: the string becomes `renameTail` of it. -/
theorem translateFrom_quote (s : String) {rest : List Char} (hrest : Closed rs rest) :
    translateFrom '"' (rs.map .ofPair) 0 (quote s ++ rest) =
      quote (renameTail rs s) ++ translateFrom '"' (rs.map .ofPair) 0 rest := by
  have hchars := (translateFrom_chars h s.toList hrest).2
  rw [quote, quote, renameTail, String.toList_ofList, List.cons_append, List.append_assoc,
    List.singleton_append, hchars, List.cons_append, List.append_assoc, List.singleton_append]

end

end SearchRelay.Alias
