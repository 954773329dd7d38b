import Mathlib.Data.List.DropRight
import SearchRelay.Proofs.Except
import SearchRelay.Proofs.Url.Host
import SearchRelay.Proofs.Url.Path

/-!
# SearchRelay.Proofs.Url.Parse

What holds of a URL that was read, and what is read when a path is put behind
its authority.

1. `parsed_of_parse` — nothing in the authority of such a URL ends it, and its
   path is one as it stands in a URL (`Parsed`);
2. `located_of_parse` — so of a text that begins with scheme and authority the
   path and the query are those of the rest (`located`).
-/

namespace SearchRelay.Url

open Text

/-- Characters that end the authority of a web URL, and those that are dropped
wherever they stand. -/
def delimiters : List Char := ['/', '\\', '?', '#', '\t', '\n', '\r']

/-- What is no delimiter neither ends an authority nor is dropped. -/
theorem notMem_delimiters_iff {c : Char} :
    c ∉ delimiters ↔ endsAuthority .web c = false ∧ isLineBreak c = false := by
  simp [delimiters, endsAuthority, isSlash, isLineBreak, and_assoc]

/-- What is outside a set that has all delimiters is no delimiter. -/
theorem notMem_delimiters {set : Char → Bool} (hset : delimiters.all set = true) {c : Char}
    (h : set c = false) : c ∉ delimiters := by
  intro hmem
  rw [List.all_eq_true.mp hset c hmem] at h
  contradiction

/-! ## authorities -/

/- The text of a host, of the user information and of a port has no character that ends
an authority or is dropped from a URL. So what was read and written can be found again.
-/

theorem notMem_delimiters_of_mem_percentChars :
    ∀ c ∈ percentChars, c ∉ delimiters :=
  List.forall_iff_forall_mem.mp (by decide)

/-- The encoded user information has no delimiters. -/
theorem notMem_delimiters_of_mem_encodeWith {cs : List Char} {c : Char}
    (h : c ∈ encodeWith inUserSet cs) : c ∉ delimiters := by
  rcases mem_encodeWith h with ⟨-, hset⟩ | hpercent
  · exact notMem_delimiters (by decide) hset
  · exact notMem_delimiters_of_mem_percentChars c hpercent

/-- What stands before the host: a name, a colon and a password, and `@`. -/
theorem mem_userText {cs : List Char} {c : Char} (h : c ∈ userText cs) :
    (∃ part, c ∈ encodeWith inUserSet part) ∨ c ∈ [':', '@'] := by
  unfold userText at h
  dsimp only at h
  split at h
  · rw [List.append_nil] at h
    split at h
    · contradiction
    · rcases List.mem_append.mp h with h | h
      · exact .inl ⟨_, h⟩
      · exact .inr (List.mem_cons_of_mem _ h)
  · split at h
    · contradiction
    · rcases List.mem_append.mp h with h | h
      · rcases List.mem_append.mp h with h | h
        · exact .inl ⟨_, h⟩
        · rcases List.mem_cons.mp h with rfl | h
          · exact .inr (by simp)
          · exact .inl ⟨_, h⟩
      · exact .inr (List.mem_cons_of_mem _ h)

/-- The user information as written has no delimiters. -/
theorem notMem_delimiters_of_mem_userText {cs : List Char} {c : Char} (h : c ∈ userText cs) :
    c ∉ delimiters := by
  rcases mem_userText h with ⟨part, h⟩ | h
  · exact notMem_delimiters_of_mem_encodeWith h
  · have hmarks : ∀ d ∈ [':', '@'], d ∉ delimiters := by simp [delimiters]
    exact hmarks c h

namespace Host

/-- The text of a host that was read. -/
theorem text_of_parse {cs : List Char} {host : Host} (h : parse cs = .ok host) :
    host.text ≠ [] ∧ ∀ c ∈ host.text, c ∉ delimiters := by
  refine ⟨text_ne_nil_of_parse h, fun c hc => ?_⟩
  rcases mem_text_of_parse h hc with hbracket | hplain
  · have hall : ∀ d ∈ ['[', ':', ']'], d ∉ delimiters := by simp [delimiters]
    exact hall c hbracket
  · exact notMem_delimiters (by decide) hplain

end Host

/-! ## URLs that were read -/

/-- What a URL names between the slashes behind its scheme and its path. -/
def authorityText (u : Url) : List Char :=
  u.user ++ u.host.text ++ u.port.elim [] (fun n => ':' :: Nat.toDigits 10 n)

/-- What holds of a URL that was read. -/
structure Parsed (u : Url) : Prop where
  scheme : u.scheme = "http" ∨ u.scheme = "https"
  authority_ne_nil : u.authorityText ≠ []
  authority : ∀ c ∈ u.authorityText, c ∉ delimiters
  path : IsPath u.path

/-- The parts of an authority are read on their own. -/
theorem parts_of_authority {scheme : String} {cs : List Char} {a : Authority}
    (h : authority scheme cs = .ok a) :
    ∃ user hostText digits, a.user = userText user ∧ Host.parse hostText = .ok a.host ∧
      readPort scheme digits = .ok a.port := by
  unfold authority at h
  split at h
  next user rest _ =>
    split at h
    next hostText after _ =>
      split at h
      · obtain ⟨_, hthrow, _⟩ := Except.bind_eq_ok.mp h
        exact absurd hthrow Except.throw_ne_ok
      · obtain ⟨host, hhost, h⟩ := Except.bind_eq_ok.mp h
        obtain ⟨port, hport, h⟩ := Except.bind_eq_ok.mp h
        cases h
        exact ⟨user, hostText, after.drop 1, rfl, hhost, hport⟩

/-- The path and the query in the text behind an authority. -/
def located (rest : List Char) : List Char × Option (List Char) :=
  splitAtChar '?' (splitAtChar '#' rest).1

/-- The authority in a text behind a scheme. -/
def authorityOf (cs : List Char) : List Char :=
  (cs.dropWhile (isSlash .web)).takeWhile fun c => !endsAuthority .web c

/-- A web URL is made of its authority and of what stands behind it. -/
theorem parts_of_parseWeb {scheme : String} {cs : List Char} {u : Url}
    (h : parseWeb scheme cs = .ok u) :
    ∃ a, authority scheme (authorityOf cs) = .ok a ∧ u.scheme = scheme ∧ u.user = a.user ∧
      u.host = a.host ∧
      u.path = pathOf (located
        ((cs.dropWhile (isSlash .web)).drop (authorityOf cs).length)).1 ∧
      u.query = (located ((cs.dropWhile (isSlash .web)).drop (authorityOf cs).length)).2.map
        (encodeWith inQuerySet) := by
  obtain ⟨a, ha, h⟩ := Except.bind_eq_ok.mp h
  cases h
  exact ⟨a, ha, rfl, rfl, rfl, rfl, rfl⟩

/-- A URL that was read is a web URL. -/
theorem parseWeb_of_parse {text : String} {u : Url} (h : parse text = .ok (some u)) :
    ∃ scheme rest, splitScheme? (cleaned text) = some (scheme, rest) ∧
      (scheme = "http" ∨ scheme = "https") ∧ parseWeb scheme rest = .ok u := by
  unfold parse at h
  split at h
  · contradiction
  · next scheme rest hsplit =>
    split at h
    · obtain ⟨url, hurl, h⟩ := Except.map_eq_ok.mp h
      split at h
      · next hscheme =>
        cases h
        exact ⟨scheme, rest, hsplit, hscheme, hurl⟩
      · contradiction
    · obtain ⟨_, _, h⟩ := Except.map_eq_ok.mp h
      contradiction
    · obtain ⟨_, _, h⟩ := Except.map_eq_ok.mp h
      contradiction

/-- What is read is in the form that reads back. -/
theorem parsed_of_parse {text : String} {u : Url} (h : parse text = .ok (some u)) : Parsed u := by
  obtain ⟨scheme, rest, -, hscheme, hweb⟩ := parseWeb_of_parse h
  obtain ⟨a, ha, hu, huser, hhost, hpath, -⟩ := parts_of_parseWeb hweb
  obtain ⟨user, hostText, -, hname, hparse, -⟩ := parts_of_authority ha
  obtain ⟨hne, hchars⟩ := Host.text_of_parse hparse
  constructor
  case scheme => exact hu ▸ hscheme
  case authority_ne_nil => simp [authorityText, hhost, hne]
  case path => exact hpath ▸ isPath_pathOf _
  case authority =>
    intro c hc
    rw [authorityText, huser, hname, hhost] at hc
    rcases List.mem_append.mp hc with hc | hc
    · rcases List.mem_append.mp hc with hc | hc
      · exact notMem_delimiters_of_mem_userText hc
      · exact hchars c hc
    · cases hport : u.port with
      | none =>
          rw [hport] at hc
          contradiction
      | some n =>
          rw [hport] at hc
          rcases List.mem_cons.mp hc with rfl | hc
          · decide
          · exact notMem_delimiters (by decide)
              (Host.plain_of_mem_toDigits (by decide) (by decide) hc).1

/-! ## a path behind an authority -/

/- The address of a batch is the text of a URL with more behind it. It is read again up
to its authority, and the rest is read as a path, a query and a fragment. -/

/-- The text of a URL up to its path. -/
def origin (u : Url) : List Char := u.scheme.toList ++ ':' :: '/' :: '/' :: u.authorityText

/-- A URL is its origin, its target and its fragment. -/
theorem text_eq (u : Url) : u.text = u.origin ++ u.target ++ u.fragment.elim [] ('#' :: ·) := by
  simp [text, origin, authorityText]

/-- A text without blanks at its ends loses its line breaks only. -/
theorem cleaned_eq_filter {cs : List Char} (hhead : ∀ c, cs.head? = some c → isOuterBlank c = false)
    (hlast : ∀ c, cs.getLast? = some c → isOuterBlank c = false) :
    cleaned (String.ofList cs) = cs.filter fun c => !isLineBreak c := by
  have hdrop : cs.dropWhile isOuterBlank = cs := by
    cases cs with
    | nil => rfl
    | cons c cs => exact List.dropWhile_cons_of_neg (by simp [hhead c rfl])
  have hreverse : cs.reverse.dropWhile isOuterBlank = cs.reverse := by
    cases hcs : cs.reverse with
    | nil => rfl
    | cons c rest =>
        have hc : cs.getLast? = some c := by
          rw [List.getLast?_eq_head?_reverse, hcs, List.head?_cons]
        exact List.dropWhile_cons_of_neg (by simp [hlast c hc])
  simp only [cleaned, String.toList_ofList, hdrop, hreverse, List.reverse_reverse]

/-- The scheme of a web URL is read back. -/
theorem splitScheme?_of_web {scheme : String} (h : scheme = "http" ∨ scheme = "https")
    (rest : List Char) : splitScheme? (scheme.toList ++ ':' :: rest) = some (scheme, rest) := by
  rcases h with rfl | rfl
  · rfl
  · rfl

/-- Behind two slashes the authority ends where it should. -/
theorem authorityOf_append {text : List Char} (hne : text ≠ []) (htext : ∀ c ∈ text, c ∉ delimiters)
    (rest : List Char) :
    ('/' :: '/' :: (text ++ '/' :: rest)).dropWhile (isSlash .web) = text ++ '/' :: rest ∧
      authorityOf ('/' :: '/' :: (text ++ '/' :: rest)) = text := by
  have hends : ∀ c ∈ text, endsAuthority .web c = false := fun c hc =>
    (notMem_delimiters_iff.mp (htext c hc)).1
  have hdrop : ('/' :: '/' :: (text ++ '/' :: rest)).dropWhile (isSlash .web) =
      text ++ '/' :: rest := by
    cases text with
    | nil => exact absurd rfl hne
    | cons c text =>
        have hc := hends c (by simp)
        simp only [endsAuthority, Bool.or_eq_false_iff] at hc
        rw [List.dropWhile_cons_of_pos rfl, List.dropWhile_cons_of_pos rfl]
        exact List.dropWhile_cons_of_neg (by simp [hc.1.1])
  have hslash : endsAuthority .web '/' = true := rfl
  refine ⟨hdrop, ?_⟩
  rw [authorityOf, hdrop, List.takeWhile_append_of_pos fun c hc => by simp [hends c hc],
    List.takeWhile_cons_of_neg (by simp [hslash]), List.append_nil]

/-- An origin has no line breaks. -/
theorem isLineBreak_of_mem_origin {u : Url} (h : Parsed u) {c : Char} (hc : c ∈ u.origin) :
    isLineBreak c = false := by
  rcases List.mem_append.mp hc with hc | hc
  · have hscheme : ∀ d ∈ "http".toList ++ "https".toList, isLineBreak d = false :=
      List.forall_iff_forall_mem.mp (by decide)
    rcases h.scheme with hs | hs <;> rw [hs] at hc
    · exact hscheme c (List.mem_append_left _ hc)
    · exact hscheme c (List.mem_append_right _ hc)
  · simp only [List.mem_cons] at hc
    rcases hc with rfl | rfl | rfl | hc
    · rfl
    · rfl
    · rfl
    · exact (notMem_delimiters_iff.mp (h.authority c hc)).2

/-- A text behind the origin of a URL loses its line breaks only. -/
theorem cleaned_origin {base : Url} (hbase : Parsed base) {rest : List Char}
    (hlast : ∀ c, ('/' :: rest).getLast? = some c → isOuterBlank c = false) :
    cleaned (String.ofList (base.origin ++ '/' :: rest)) =
      base.scheme.toList ++ ':' :: '/' :: '/' ::
        (base.authorityText ++ '/' :: rest.filter fun c => !isLineBreak c) := by
  rw [cleaned_eq_filter, List.filter_append, List.filter_eq_self.mpr fun c hc => by
    simp [isLineBreak_of_mem_origin hbase hc], List.filter_cons_of_pos rfl, origin]
  · simp
  · intro c hc
    rcases hbase.scheme with hs | hs <;> rw [origin, hs] at hc <;> cases hc <;> rfl
  · intro c hc
    rw [List.getLast?_append_cons] at hc
    exact hlast c hc

/-- What is read of a text behind the origin of a URL. -/
theorem located_of_parse {base u : Url} (hbase : Parsed base) {tail : List Char}
    (hhead : tail.head? = some '/')
    (hlast : ∀ c, tail.getLast? = some c → isOuterBlank c = false)
    (h : parse (String.ofList (base.origin ++ tail)) = .ok (some u)) :
    u.path = pathOf (located (tail.filter fun c => !isLineBreak c)).1 ∧
      u.query = (located (tail.filter fun c => !isLineBreak c)).2.map (encodeWith inQuerySet) := by
  obtain ⟨rest, rfl⟩ := List.head?_eq_some_iff.mp hhead
  obtain ⟨scheme, body, hsplit, -, hweb⟩ := parseWeb_of_parse h
  rw [cleaned_origin hbase hlast, splitScheme?_of_web hbase.scheme] at hsplit
  cases hsplit
  obtain ⟨hdrop, hauthority⟩ := authorityOf_append hbase.authority_ne_nil hbase.authority
    (rest.filter fun c => !isLineBreak c)
  obtain ⟨a, -, -, -, -, hpath, hquery⟩ := parts_of_parseWeb hweb
  rw [hdrop, hauthority, List.drop_left] at hpath hquery
  rw [List.filter_cons_of_pos rfl]
  exact ⟨hpath, hquery⟩

/-! ## marks -/

theorem fst_splitAtChar (mark : Char) (cs : List Char) :
    (splitAtChar mark cs).1 = cs.takeWhile (· ≠ mark) := by
  unfold splitAtChar
  dsimp only
  split <;> rfl

/-- Nothing stands behind a mark if and only if there is none. -/
theorem snd_splitAtChar_eq_none_iff {mark : Char} {cs : List Char} :
    (splitAtChar mark cs).2 = none ↔ mark ∉ cs := by
  induction cs with
  | nil => simp [splitAtChar]
  | cons c cs ih =>
      by_cases hc : c = mark
      · simp [splitAtChar, hc]
      · have hsnd : (splitAtChar mark (c :: cs)).2 = (splitAtChar mark cs).2 := by
          simp only [splitAtChar, List.takeWhile_cons_of_pos, hc, decide_eq_true_eq, ne_eq,
            not_false_eq_true, List.length_cons, List.drop_succ_cons]
          split <;> rfl
        rw [hsnd, ih, List.mem_cons, not_or, and_iff_right (Ne.symm hc)]

/-- What stands in front of the first of two marks, of which the other one may
not come before it. -/
theorem fst_located {front rest : List Char} (hhash : '#' ∉ front) (hmark : '?' ∉ front)
    (hrest : '?' ∉ rest.takeWhile (· ≠ '#')) :
    (located (front ++ rest)).1 = front ++ rest.takeWhile (· ≠ '#') := by
  have hfront : ∀ mark : Char, mark ∉ front → ∀ c ∈ front, decide (c ≠ mark) = true := by
    intro mark hmark c hc
    exact decide_eq_true fun heq => hmark (heq ▸ hc)
  rw [located, fst_splitAtChar, fst_splitAtChar,
    List.takeWhile_append_of_pos (hfront '#' hhash),
    List.takeWhile_append_of_pos (hfront '?' hmark), List.takeWhile_eq_self_iff.mpr]
  exact fun c hc => decide_eq_true fun heq => hrest (heq ▸ hc)

/-- There is no query if and only if no question mark stands before the fragment. -/
theorem snd_located_eq_none_iff {front rest : List Char} (hhash : '#' ∉ front)
    (hmark : '?' ∉ front) :
    (located (front ++ rest)).2 = none ↔ '?' ∉ rest.takeWhile (· ≠ '#') := by
  have hfront : ∀ c ∈ front, decide (c ≠ '#') = true := fun c hc =>
    decide_eq_true fun heq => hhash (heq ▸ hc)
  rw [located, snd_splitAtChar_eq_none_iff, fst_splitAtChar,
    List.takeWhile_append_of_pos hfront, List.mem_append, not_or, and_iff_right hmark]

end SearchRelay.Url
