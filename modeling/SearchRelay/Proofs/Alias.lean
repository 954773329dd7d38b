import SearchRelay.Proofs.Text.Utf8

/-!
# SearchRelay.Proofs.Alias

Quoted names replaced in a text.

1. `isLongest_longest?` — of the quoted names that begin a text `longest?`
   gives a longest one, and nothing if there is none;
2. `longest?_quoteName` — of names without a mark it gives the one that stands
   in quotes at the front of a text;
3. `translateFrom_append_of_notMem`, `translateFrom_of_longest?` — what stands
   outside quotation marks passes, and a quoted name is replaced as a whole;
4. `translate_utf8` — replacing names in the bytes of a text is replacing them
   in its characters;
5. `plan_eq_map_renamings` — the substitutions of a search are `renamings`,
   pairs of different names of which no first name occurs twice.
-/

namespace SearchRelay.Alias

open Substitution Text.Utf8

/-! ## the longest name -/

/- Several quoted names may begin a text, but with the closing mark in them none is the
beginning of another one, if none contains a mark. The scan does not rely on this and
takes the longest. -/

section

variable {α : Type} [DecidableEq α] {mark : α} {subs : List (Substitution α)}

/-- A name matches where its quoted form stands. -/
theorem matchesAt_iff (s : Substitution α) (text : List α) :
    s.matchesAt mark text = true ↔ quoteName mark s.source <+: text :=
  List.isPrefixOf_iff_prefix

/-- What is to be replaced at the front of a text. -/
def IsLongest (mark : α) (subs : List (Substitution α)) (text : List α) :
    Option (Substitution α) → Prop
  | none => ∀ s ∈ subs, ¬ quoteName mark s.source <+: text
  | some s => s ∈ subs ∧ quoteName mark s.source <+: text ∧
      ∀ r ∈ subs, quoteName mark r.source <+: text → r.source.length ≤ s.source.length

/-- One step of the search: the longest of the substitutions so far and of one more. -/
theorem isLongest_better {text : List α} {best : Option (Substitution α)}
    (s : Substitution α) (h : IsLongest mark subs text best) :
    IsLongest mark (subs ++ [s]) text (better mark text best s) := by
  simp only [better, matchesAt_iff]
  cases best with
  | none =>
      by_cases hs : quoteName mark s.source <+: text
      · rw [if_pos ⟨hs, rfl⟩]
        refine ⟨by simp, hs, ?_⟩
        intro r hr hmatch
        rcases List.mem_append.mp hr with hr | hr
        · exact absurd hmatch (h r hr)
        · exact Nat.le_of_eq (by rw [List.mem_singleton.mp hr])
      · rw [if_neg fun hboth => hs hboth.1]
        intro r hr
        rcases List.mem_append.mp hr with hr | hr
        · exact h r hr
        · rw [List.mem_singleton.mp hr]
          exact hs
  | some b =>
      obtain ⟨hmem, hb, hmax⟩ := h
      by_cases hs : quoteName mark s.source <+: text ∧ b.source.length < s.source.length
      · rw [if_pos ⟨hs.1, by simpa using hs.2⟩]
        refine ⟨by simp, hs.1, ?_⟩
        intro r hr hmatch
        rcases List.mem_append.mp hr with hr | hr
        · exact Nat.le_of_lt (Nat.lt_of_le_of_lt (hmax r hr hmatch) hs.2)
        · exact Nat.le_of_eq (by rw [List.mem_singleton.mp hr])
      · rw [if_neg fun hboth => hs ⟨hboth.1, by simpa using hboth.2⟩]
        refine ⟨by simp [hmem], hb, ?_⟩
        intro r hr hmatch
        rcases List.mem_append.mp hr with hr | hr
        · exact hmax r hr hmatch
        · rw [List.mem_singleton.mp hr] at hmatch ⊢
          exact Nat.le_of_not_lt fun hlt => hs ⟨hmatch, hlt⟩

/-- What the search finds is longest among all substitutions. -/
theorem isLongest_longest? (mark : α) (subs : List (Substitution α)) (text : List α) :
    IsLongest mark subs text (longest? mark subs text) := by
  have hfold : ∀ (rest done : List (Substitution α)) (best : Option (Substitution α)),
      IsLongest mark done text best →
        IsLongest mark (done ++ rest) text (rest.foldl (better mark text) best) := by
    intro rest
    induction rest with
    | nil =>
        intro done best h
        rw [List.append_nil]
        exact h
    | cons s rest ih =>
        intro done best h
        rw [List.append_cons]
        exact ih (done ++ [s]) _ (isLongest_better s h)
  exact hfold subs [] none (by simp [IsLongest])

/-- Where no quoted source begins, nothing is replaced. -/
theorem longest?_eq_none {text : List α} (h : ∀ s ∈ subs, ¬ quoteName mark s.source <+: text) :
    longest? mark subs text = none := by
  have hlongest := isLongest_longest? mark subs text
  cases hfound : longest? mark subs text with
  | none => rfl
  | some s =>
      rw [hfound] at hlongest
      exact absurd hlongest.2.1 (h s hlongest.1)

/-! ### names between two marks -/

omit [DecidableEq α] in
/-- A name without marks and the mark behind it begin a text just if the text has this
name up to its first mark. -/
theorem append_mark_prefix_iff {name chunk rest : List α} (hname : mark ∉ name)
    (hchunk : mark ∉ chunk) : name ++ [mark] <+: chunk ++ mark :: rest ↔ name = chunk := by
  constructor
  · induction name generalizing chunk with
    | nil =>
        intro hprefix
        cases chunk with
        | nil => rfl
        | cons c chunk =>
            have hc : mark = c := (List.cons_prefix_cons.mp hprefix).1
            exact absurd (hc ▸ List.mem_cons_self) hchunk
    | cons b name ih =>
        intro hprefix
        cases chunk with
        | nil =>
            have hb : b = mark := (List.cons_prefix_cons.mp hprefix).1
            exact absurd (hb ▸ List.mem_cons_self) hname
        | cons c chunk =>
            obtain ⟨hbc, htail⟩ := List.cons_prefix_cons.mp hprefix
            rw [hbc, ih (fun hmem => hname (List.mem_cons_of_mem _ hmem))
              (fun hmem => hchunk (List.mem_cons_of_mem _ hmem)) htail]
  · rintro rfl
    exact ⟨rest, by simp⟩

omit [DecidableEq α] in
/-- Behind an opening mark, the name and the closing mark are left. -/
theorem quoteName_prefix_iff {name text : List α} :
    quoteName mark name <+: mark :: text ↔ name ++ [mark] <+: text := by
  rw [quoteName, List.cons_prefix_cons]
  exact and_iff_right rfl

/-- Of names without a mark the one that stands in quotes at the front of a text
is found there. -/
theorem longest?_quoteName (hmark : ∀ s ∈ subs, mark ∉ s.source)
    (hsource : ∀ s ∈ subs, ∀ r ∈ subs, s.source = r.source → s = r) {s : Substitution α}
    (hs : s ∈ subs) (rest : List α) :
    longest? mark subs (quoteName mark s.source ++ rest) = some s := by
  have hquote : quoteName mark s.source ++ rest = mark :: (s.source ++ mark :: rest) := by
    simp [quoteName]
  have hlongest := isLongest_longest? mark subs (quoteName mark s.source ++ rest)
  cases hfound : longest? mark subs (quoteName mark s.source ++ rest) with
  | none =>
      rw [hfound] at hlongest
      exact absurd (List.prefix_append _ rest) (hlongest s hs)
  | some r =>
      rw [hfound, hquote] at hlongest
      obtain ⟨hr, hprefix, -⟩ := hlongest
      have hname : r.source = s.source :=
        (append_mark_prefix_iff (hmark r hr) (hmark s hs)).mp (quoteName_prefix_iff.mp hprefix)
      rw [hsource r hr s hs hname]

/-! ## the scan -/

/- The scan skips what belongs to a replaced name, so its state is how much is left to
skip. Outside quotation marks nothing happens. -/

/-- Skipping is dropping: items that were replaced are not looked at again. -/
theorem translateFrom_skip (skip : Nat) (text : List α) :
    translateFrom mark subs skip text = translateFrom mark subs 0 (text.drop skip) := by
  induction text generalizing skip with
  | nil => simp [translateFrom]
  | cons a rest ih =>
      cases skip with
      | zero => rfl
      | succ skip => rw [translateFrom, ih, List.drop_succ_cons]

/-- Where nothing matches, an item is passed on. -/
theorem translateFrom_cons {a : α} {rest : List α} (h : longest? mark subs (a :: rest) = none) :
    translateFrom mark subs 0 (a :: rest) = a :: translateFrom mark subs 0 rest := by
  rw [translateFrom, h]

/-- A quoted name is replaced as a whole. -/
theorem translateFrom_of_longest? {s : Substitution α} {rest : List α}
    (h : longest? mark subs (quoteName mark s.source ++ rest) = some s) :
    translateFrom mark subs 0 (quoteName mark s.source ++ rest) =
      quoteName mark s.target ++ translateFrom mark subs 0 rest := by
  have hcons : quoteName mark s.source ++ rest = mark :: (s.source ++ mark :: rest) := by
    simp [quoteName]
  rw [hcons] at h ⊢
  rw [translateFrom, h]
  dsimp only
  rw [translateFrom_skip, List.append_cons,
    List.drop_left' (by rw [List.length_append, List.length_singleton])]

/-- Names stand in marks, so nothing matches where no mark stands. -/
theorem longest?_of_head_ne {a : α} (rest : List α) (h : a ≠ mark) :
    longest? mark subs (a :: rest) = none := by
  apply longest?_eq_none
  intro s _ hprefix
  exact h (List.cons_prefix_cons.mp hprefix).1.symm

/-- What stands outside quotation marks passes. -/
theorem translateFrom_append_of_notMem {front : List α} (rest : List α) (h : mark ∉ front) :
    translateFrom mark subs 0 (front ++ rest) = front ++ translateFrom mark subs 0 rest := by
  induction front with
  | nil => rfl
  | cons a front ih =>
      have hne : a ≠ mark := fun heq => h (by simp [heq])
      have hfront : mark ∉ front := fun hmem => h (List.mem_cons_of_mem _ hmem)
      rw [List.cons_append, translateFrom_cons (longest?_of_head_ne _ hne), ih hfront,
        List.cons_append]

end

/-! ## bytes and characters -/

/-- A substitution of texts as one of their bytes. -/
def Substitution.encode (s : Substitution Char) : Substitution UInt8 :=
  ⟨Text.Utf8.encode s.source, Text.Utf8.encode s.target⟩

/-- A quoted name is encoded as the quoted bytes. -/
theorem encode_quoteName (name : List Char) :
    encode (quoteName '"' name) = quoteName mark (encode name) := by
  rw [quoteName, encode_cons, encode_append, encode_mark]
  rfl

/-- Matches are the same in UTF-8 and in characters. -/
theorem matchesAt_encode (s : Substitution Char) (text : List Char) :
    s.encode.matchesAt mark (encode text) = s.matchesAt '"' text := by
  rw [Bool.eq_iff_iff, matchesAt_iff, matchesAt_iff, Substitution.encode, ← encode_quoteName,
    encode_prefix_iff]

/-- Of two sources that match at one place the longer one is longer in UTF-8 as well. -/
theorem length_encode_source_lt_iff {s r : Substitution Char} {text : List Char}
    (hs : quoteName '"' s.source <+: text) (hr : quoteName '"' r.source <+: text) :
    s.encode.source.length < r.encode.source.length ↔ s.source.length < r.source.length := by
  have hlength := length_encode_lt_iff (List.prefix_or_prefix_of_prefix hs hr)
  rw [encode_quoteName, encode_quoteName] at hlength
  simpa [quoteName, Substitution.encode] using hlength

/-- The longest name is the same one in bytes and in characters. -/
theorem longest?_encode (subs : List (Substitution Char)) (text : List Char) :
    longest? mark (subs.map Substitution.encode) (encode text) =
      (longest? '"' subs text).map Substitution.encode := by
  have hfold : ∀ (rest : List (Substitution Char)) (best : Option (Substitution Char)),
      (∀ b, best = some b → quoteName '"' b.source <+: text) →
        (rest.map Substitution.encode).foldl (better mark (encode text))
            (best.map Substitution.encode) =
          (rest.foldl (better '"' text) best).map Substitution.encode := by
    intro rest
    induction rest with
    | nil => exact fun _ _ => rfl
    | cons s rest ih =>
        intro best hbest
        have hbetter : better mark (encode text) (best.map Substitution.encode) s.encode =
            (better '"' text best s).map Substitution.encode := by
          simp only [better, matchesAt_encode]
          cases best with
          | none => simp only [Option.map_none, Option.all_none]; split <;> rfl
          | some b =>
              simp only [Option.map_some, Option.all_some, decide_eq_true_eq]
              by_cases hs : s.matchesAt '"' text = true
              · simp only [length_encode_source_lt_iff (hbest b rfl) ((matchesAt_iff s text).mp hs)]
                split <;> rfl
              · rw [if_neg fun hboth => hs hboth.1, if_neg fun hboth => hs hboth.1]
                rfl
        rw [List.map_cons, List.foldl_cons, List.foldl_cons, hbetter]
        apply ih
        intro b hb
        unfold better at hb
        split at hb
        · next hs =>
          injection hb with hb
          exact hb ▸ (matchesAt_iff s text).mp hs.1
        · exact hbest b hb
  exact hfold subs none (fun _ h => nomatch h)

/-- So a text may be translated in characters instead of bytes. -/
theorem translateFrom_encode (subs : List (Substitution Char)) (text : List Char) :
    translateFrom mark (subs.map Substitution.encode) 0 (encode text) =
      encode (translateFrom '"' subs 0 text) := by
  induction hn : text.length using Nat.strongRecOn generalizing text with
  | ind n ih =>
      subst hn
      cases text with
      | nil => rfl
      | cons c rest =>
          have hrest := ih rest.length (by simp) rest rfl
          by_cases hc : c = '"'
          · subst hc
            have hlongest := longest?_encode subs ('"' :: rest)
            have hspec := isLongest_longest? '"' subs ('"' :: rest)
            cases hfound : longest? '"' subs ('"' :: rest) with
            | none =>
                have hcons : encode ('"' :: rest) = mark :: encode rest := rfl
                rw [hfound, hcons] at hlongest
                rw [hcons, translateFrom_cons hlongest, translateFrom_cons hfound, hrest]
                rfl
            | some s =>
                rw [hfound] at hlongest hspec
                obtain ⟨-, ⟨tail, htail⟩, -⟩ := hspec
                rw [← htail] at hfound hlongest ⊢
                rw [encode_append, encode_quoteName] at hlongest ⊢
                have hshort : tail.length < ('"' :: rest).length := by
                  simp [← htail, quoteName]
                  omega
                have hbytes := translateFrom_of_longest? (s := s.encode) hlongest
                rw [translateFrom_of_longest? hfound, encode_append, encode_quoteName,
                  ← ih tail.length hshort tail rfl]
                exact hbytes
          · have hmark : mark ∉ String.utf8EncodeChar c := mark_notMem_utf8EncodeChar hc
            rw [encode_cons, translateFrom_append_of_notMem _ hmark,
              translateFrom_cons (longest?_of_head_ne rest hc), encode_cons, hrest]

/-! ## the names of a search -/

/- The substitutions are collected index by index, and an index that is asked for twice
is collected once. -/

/-- A pair of names as a substitution of texts. -/
def Substitution.ofPair (r : String × String) : Substitution Char := ⟨r.1.toList, r.2.toList⟩

theorem encode_ofPair (r : String × String) :
    (Substitution.ofPair r).encode = .ofNames r.1 r.2 := by
  rw [Substitution.ofNames, utf8_eq_encode, utf8_eq_encode]
  rfl

/-- Replacing names in the bytes of a text is replacing them in its
characters. -/
theorem translate_utf8 (renamings : List (String × String)) (text : String) :
    translate (renamings.map fun r => .ofNames r.1 r.2) (utf8 text) =
      encode (translateFrom '"' (renamings.map .ofPair) 0 text.toList) := by
  have hsubs : (renamings.map fun r => Substitution.ofNames r.1 r.2) =
      (renamings.map .ofPair).map Substitution.encode := by
    rw [List.map_map]
    exact List.map_congr_left fun r _ => (encode_ofPair r).symm
  rw [translate, hsubs, utf8_eq_encode, translateFrom_encode]

/-- What a search has a name replaced by: an index by its alias, and behind an
alias the index by it. -/
def renaming? (t : Table) (name : String) : Option (String × String) :=
  match t.aliasOf? name, t.indexOf? name with
  | some target, _ => some (name, target)
  | none, some index => some (index, name)
  | none, none => none

/-- Adds what a name is replaced by, unless nothing changes or it is there. -/
def addRenaming (t : Table) (renamings : List (String × String)) (name : String) :
    List (String × String) :=
  match renaming? t name with
  | none => renamings
  | some r =>
    if r.1 = r.2 ∨ renamings.any (·.1 = r.1) then renamings else renamings ++ [r]

/-- The names that a search has replaced, each with the name in its place. -/
def renamings (names : List String) (t : Table) : List (String × String) :=
  names.foldl (addRenaming t) []

/-- A renaming is added to the substitutions as it is to the list of renamings. -/
theorem addTo_map (t : Table) (renamings : List (String × String)) (name : String) :
    addTo t (renamings.map fun r => .ofNames r.1 r.2) name =
      (addRenaming t renamings name).map fun r => .ofNames r.1 r.2 := by
  have hsub : substitution? t name = (renaming? t name).map fun r => .ofNames r.1 r.2 := by
    unfold substitution? renaming?
    cases t.aliasOf? name with
    | some target => rfl
    | none => cases t.indexOf? name <;> rfl
  rw [addTo, addRenaming, hsub]
  cases renaming? t name with
  | none => rfl
  | some r =>
      have hsame : (Substitution.ofNames r.1 r.2).source = (Substitution.ofNames r.1 r.2).target ↔
          r.1 = r.2 := utf8_inj
      have hany : ((renamings.map fun r => Substitution.ofNames r.1 r.2).any fun s =>
          decide (s.source = (Substitution.ofNames r.1 r.2).source)) =
          renamings.any fun p => decide (p.1 = r.1) := by
        rw [List.any_map]
        congr 1
        funext p
        exact decide_eq_decide.mpr utf8_inj
      simp only [Option.map_some, hsame, hany]
      split
      · rfl
      · rw [List.map_append]
        rfl

/-- A plan is made of renamings, whose names can be compared as texts. -/
theorem plan_eq_map_renamings (names : List String) (t : Table) :
    plan names t = (renamings names t).map fun r => .ofNames r.1 r.2 := by
  have hfold : ∀ (done : List (String × String)),
      names.foldl (addTo t) (done.map fun r => .ofNames r.1 r.2) =
        (names.foldl (addRenaming t) done).map fun r => .ofNames r.1 r.2 := by
    induction names with
    | nil => exact fun _ => rfl
    | cons name names ih =>
        intro done
        rw [List.foldl_cons, List.foldl_cons, addTo_map, ih]
  exact hfold []

/-- No name is replaced twice, and none by itself. -/
theorem renamings_distinct (names : List String) (t : Table) :
    ((renamings names t).map Prod.fst).Nodup ∧ ∀ r ∈ renamings names t, r.1 ≠ r.2 := by
  have hfold : ∀ (done : List (String × String)),
      ((done.map Prod.fst).Nodup ∧ ∀ r ∈ done, r.1 ≠ r.2) →
        ((names.foldl (addRenaming t) done).map Prod.fst).Nodup ∧
          ∀ r ∈ names.foldl (addRenaming t) done, r.1 ≠ r.2 := by
    induction names with
    | nil => exact fun _ h => h
    | cons name names ih =>
        intro done h
        rw [List.foldl_cons]
        apply ih
        unfold addRenaming
        split
        · exact h
        · next r _ =>
          split
          · exact h
          · next hnew =>
            obtain ⟨hne, hfresh⟩ := not_or.mp hnew
            refine ⟨?_, ?_⟩
            · rw [List.map_append, List.nodup_append]
              refine ⟨h.1, by simp, ?_⟩
              intro a ha b hb hab
              obtain ⟨p, hp, rfl⟩ := List.mem_map.mp ha
              simp only [List.map_cons, List.map_nil, List.mem_singleton] at hb
              exact hfresh (List.any_eq_true.mpr ⟨p, hp, by simp [hab, hb]⟩)
            · intro p hp
              rcases List.mem_append.mp hp with hp | hp
              · exact h.2 p hp
              · rw [List.mem_singleton.mp hp]
                exact hne
  exact hfold [] ⟨List.nodup_nil, by simp⟩

end SearchRelay.Alias
