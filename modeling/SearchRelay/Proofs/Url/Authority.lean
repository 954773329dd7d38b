import SearchRelay.Proofs.Url.Host
import SearchRelay.Proofs.Url.Parse

/-!
# SearchRelay.Proofs.Url.Authority

An authority is read again from its text.

1. `userText_userText` — what stands before the host is encoded already, so it is
   told from the host by the only `@`;
2. `splitHost_text` — a host ends where it should: a colon in it stands in brackets;
3. `authority_text` — so user, host and port are read again, and any path that begins
   with a slash may follow them (`exists_parse`).
-/

namespace SearchRelay.Url

open Text

/-! ## what stands before the host -/

/- The user information ends at the last at sign, and the name at the first colon. Both
are encoded where they are written, so the separators are found again where they were.
-/

/-- The parts around an `@` are found again, if it is the last one. -/
theorem splitUser?_append (front : List Char) {rest : List Char} (h : '@' ∉ rest) :
    splitUser? (front ++ '@' :: rest) = some (front, rest) := by
  have hrest : ∀ c ∈ rest.reverse, decide (c ≠ '@') = true := fun c hc =>
    decide_eq_true fun heq => h (heq ▸ List.mem_reverse.mp hc)
  have hhost : ((front ++ '@' :: rest).reverse.takeWhile (· ≠ '@')).reverse = rest := by
    rw [List.reverse_append, List.reverse_cons, List.append_assoc,
      List.takeWhile_append_of_pos hrest]
    simp
  have hlength : (front ++ '@' :: rest).length - rest.length - 1 = front.length := by
    simp only [List.length_append, List.length_cons]
    omega
  rw [splitUser?, if_pos (by simp), hhost]
  dsimp only
  rw [hlength, List.take_left]

theorem splitUser?_of_notMem {cs : List Char} (h : '@' ∉ cs) : splitUser? cs = none :=
  if_neg (by simpa using h)

/-- Encoded text is encoded already. -/
theorem inUserSet_of_mem_encodeWith {cs : List Char} {c : Char}
    (h : c ∈ encodeWith inUserSet cs) : inUserSet c = false := by
  have hall : ∀ c ∈ percentChars, inUserSet c = false := List.forall_iff_forall_mem.mp (by decide)
  rcases mem_encodeWith h with ⟨-, hset⟩ | hpercent
  · exact hset
  · exact hall c hpercent

/-- Encoding twice is encoding once. -/
theorem encodeWith_encodeWith (cs : List Char) :
    encodeWith inUserSet (encodeWith inUserSet cs) = encodeWith inUserSet cs :=
  encodeWith_eq_self fun _ hc => inUserSet_of_mem_encodeWith hc

theorem encodeWith_ne_nil {cs : List Char} (h : cs ≠ []) : encodeWith inUserSet cs ≠ [] := by
  obtain ⟨c, cs, rfl⟩ := List.exists_cons_of_ne_nil h
  have hchar : encodeChar inUserSet c ≠ [] := by
    have hbytes : String.utf8EncodeChar c ≠ [] := by
      rw [← List.length_pos_iff, String.length_utf8EncodeChar]
      exact c.utf8Size_pos
    obtain ⟨b, bytes, hbytes⟩ := List.exists_cons_of_ne_nil hbytes
    rw [encodeChar]
    split
    · simp [hbytes, encodeByte]
    · exact List.cons_ne_nil _ _
  exact List.append_ne_nil_of_left_ne_nil hchar _

/-- What is read of a name and a password, with a colon between them. -/
theorem userText_append {name : List Char} (h : ':' ∉ name) (password : List Char) :
    userText (name ++ ':' :: password) =
      if password = [] then userText name
      else encodeWith inUserSet name ++ ':' :: encodeWith inUserSet password ++ ['@'] := by
  have hchars : ∀ c ∈ name, decide (c ≠ ':') = true := fun c hc =>
    decide_eq_true fun (heq : c = ':') => h (heq ▸ hc)
  have hname : (name ++ ':' :: password).takeWhile (· ≠ ':') = name := by
    rw [List.takeWhile_append_of_pos hchars]
    simp
  have hself : name.takeWhile (· ≠ ':') = name := List.takeWhile_eq_self_iff.mpr hchars
  have hpassword : ((name ++ ':' :: password).drop name.length).drop 1 = password := by simp
  rw [userText, userText, hname, hself, hpassword]
  by_cases hnil : password = []
  · simp [hnil]
  · simp [hnil]

/-- A name without a colon has no password behind it. -/
theorem userText_of_notMem {name : List Char} (h : ':' ∉ name) (hne : name ≠ []) :
    userText name = encodeWith inUserSet name ++ ['@'] := by
  have hname : name.takeWhile (· ≠ ':') = name :=
    List.takeWhile_eq_self_iff.mpr fun c hc =>
      decide_eq_true fun (heq : c = ':') => h (heq ▸ hc)
  rw [userText, hname]
  simp [encodeWith_ne_nil hne]

/-- What is written before the host is encoded already. -/
theorem userText_userText (cs : List Char) :
    userText cs = [] ∨ ∃ front, userText cs = front ++ ['@'] ∧ userText front = front ++ ['@'] := by
  have hcolon : ∀ part, ':' ∉ encodeWith inUserSet part := fun part hmem =>
    absurd (inUserSet_of_mem_encodeWith hmem) (by decide)
  have hname : ∀ name, ':' ∉ name → userText name = [] ∨
      ∃ front, userText name = front ++ ['@'] ∧ userText front = front ++ ['@'] := by
    intro name hnotMem
    by_cases hnil : name = []
    · rw [hnil]
      exact .inl rfl
    · refine .inr ⟨encodeWith inUserSet name, userText_of_notMem hnotMem hnil, ?_⟩
      rw [userText_of_notMem (hcolon name) (encodeWith_ne_nil hnil), encodeWith_encodeWith]
  by_cases hmem : ':' ∈ cs
  · obtain ⟨name, password, rfl, hnotMem⟩ := List.eq_append_cons_of_mem hmem
    rw [userText_append hnotMem]
    by_cases hnil : password = []
    · rw [if_pos hnil]
      exact hname name hnotMem
    · refine .inr ⟨encodeWith inUserSet name ++ ':' :: encodeWith inUserSet password, ?_, ?_⟩
      · rw [if_neg hnil]
      · rw [userText_append (hcolon name), if_neg (encodeWith_ne_nil hnil), encodeWith_encodeWith,
          encodeWith_encodeWith]
  · exact hname cs hmem

/-! ## the host -/

/-- What does not end a host belongs to it. -/
theorem splitHost_append {inBrackets : Bool} {front : List Char}
    (h : ∀ c ∈ front, c = ':' ∧ inBrackets = true ∨ Domain.isForbidden c = false)
    (rest : List Char) :
    splitHost inBrackets (front ++ rest) =
      (front ++ (splitHost inBrackets rest).1, (splitHost inBrackets rest).2) := by
  induction front with
  | nil => rfl
  | cons c front ih =>
      obtain ⟨hc, hfront⟩ := List.forall_mem_cons.mp h
      have hrest := ih hfront
      rcases hc with ⟨rfl, hbrackets⟩ | hplain
      · rw [hbrackets] at hrest ⊢
        rw [List.cons_append, splitHost, if_neg (by simp), if_neg (by decide), if_neg (by decide)]
        dsimp only
        rw [hrest]
        rfl
      · have hne : ∀ {mark : Char}, Domain.isForbidden mark = true → c ≠ mark := by
          rintro mark hmark rfl
          rw [hmark] at hplain
          contradiction
        rw [List.cons_append, splitHost, if_neg (fun hcolon => hne (by decide) hcolon.1),
          if_neg (hne (by decide)), if_neg (hne (by decide))]
        dsimp only
        rw [hrest]
        rfl

/-- A host ends where it should. -/
theorem splitHost_text {cs : List Char} {host : Host} (h : Host.parse cs = .ok host)
    {rest : List Char} (hrest : ∀ c, rest.head? = some c → c = ':') :
    splitHost false (host.text ++ rest) = (host.text, rest) := by
  have hend : splitHost false rest = ([], rest) := by
    cases rest with
    | nil => rfl
    | cons c rest => rw [splitHost, if_pos ⟨hrest c rfl, by simp⟩]
  rcases Host.brackets_of_parse h with hnone | ⟨inner, htext, hinner⟩
  · rw [splitHost_append fun c hc => .inr (hnone c hc), hend, List.append_nil]
  · have hclosed : splitHost true (']' :: rest) = ([']'], rest) := by
      rw [splitHost, if_neg (by simp), if_neg (by decide), if_pos rfl]
      dsimp only
      rw [hend]
    rw [htext, List.cons_append, List.append_assoc, List.singleton_append, splitHost,
      if_neg (by simp), if_pos rfl]
    dsimp only
    rw [splitHost_append fun c hc => (hinner c hc).imp_left fun heq => ⟨heq, rfl⟩, hclosed]

/-! ## the port -/

/-- A port is read again. -/
theorem readPort_of_readPort {scheme : String} {digits : List Char} {n : Nat}
    (h : readPort scheme digits = .ok (some n)) :
    readPort scheme (Nat.toDigits 10 n) = .ok (some n) := by
  have hdigits : (Nat.toDigits 10 n).all Char.isDigit = true := List.all_eq_true.mpr fun c hc =>
    Nat.isDigit_of_mem_toDigits (by decide) (by decide) hc
  have hvalue : (Nat.toDigits 10 n).foldl (fun n c => n * 10 + Table.digitValue c) 0 = n :=
    Host.foldl_of_inBase? (Host.inBase?_toDigits (by decide) (by decide) n)
  unfold readPort at h
  split at h
  · dsimp only at h
    split at h
    · contradiction
    · next hrange =>
      split at h
      · cases h
      · next hshown =>
        rw [not_or] at hshown
        obtain rfl := Option.some.inj (Except.ok.inj h)
        rw [readPort, if_pos hdigits, hvalue]
        dsimp only
        rw [if_neg hrange, if_neg]
        simpa [Nat.toDigits_ne_nil] using hshown.2
  · contradiction

/-! ## authorities -/

/-- The text of an authority. -/
def Authority.text (a : Authority) : List Char :=
  a.user ++ a.host.text ++ a.port.elim [] (fun n => ':' :: Nat.toDigits 10 n)

/-- An authority is read again from its text. -/
theorem authority_text {scheme : String} {cs : List Char} {a : Authority}
    (h : authority scheme cs = .ok a) : authority scheme a.text = .ok a := by
  obtain ⟨user, hostText, digits, huser, hhost, hport⟩ := parts_of_authority h
  have hne : a.host.text.isEmpty = false := by simpa using Host.text_ne_nil_of_parse hhost
  -- the port and its colon
  generalize hafter : a.port.elim [] (fun n => ':' :: Nat.toDigits 10 n) = after
  have hhead : ∀ c, after.head? = some c → c = ':' := by
    intro c hc
    rw [← hafter] at hc
    cases hn : a.port with
    | none => rw [hn] at hc; contradiction
    | some n => rw [hn] at hc; exact (Option.some.inj hc).symm
  have hreadPort : readPort scheme (after.drop 1) = .ok a.port := by
    rw [← hafter]
    cases hn : a.port with
    | none => rfl
    | some n => exact readPort_of_readPort (hn ▸ hport)
  have hat : '@' ∉ a.host.text ++ after := by
    rw [List.mem_append, not_or]
    refine ⟨fun hmem => ?_, fun hmem => ?_⟩
    · exact absurd (Host.mem_text_of_parse hhost hmem) (by decide)
    rw [← hafter] at hmem
    cases hn : a.port with
    | none => rw [hn] at hmem; contradiction
    | some n =>
        rw [hn] at hmem
        have hmem := (List.mem_cons.mp hmem).resolve_left (by decide)
        exact absurd (Host.plain_of_mem_toDigits (by decide) (by decide) hmem).1 (by decide)
  have hsplit : ∃ front, (splitUser? a.text).getD ([], a.text) = (front, a.host.text ++ after) ∧
      userText front = a.user := by
    rcases userText_userText user with hnil | ⟨front, hfront, hself⟩
    · refine ⟨[], ?_, by rw [huser, hnil]; rfl⟩
      rw [Authority.text, hafter, huser, hnil, List.nil_append, splitUser?_of_notMem hat]
      rfl
    · refine ⟨front, ?_, by rw [huser, hfront, hself]⟩
      rw [Authority.text, hafter, huser, hfront, List.append_assoc, List.append_assoc,
        List.singleton_append, splitUser?_append front hat]
      rfl
  obtain ⟨front, hsplit, hfront⟩ := hsplit
  rw [authority, hsplit]
  dsimp only
  rw [splitHost_text hhost hhead]
  dsimp only
  rw [hne, Host.parse_text hhost, hreadPort, hfront]
  rfl

/-! ## URLs -/

/-- The authority of a URL that was read. -/
theorem authority_of_parse {text : String} {u : Url} (h : parse text = .ok (some u)) :
    authority u.scheme u.authorityText = .ok ⟨u.user, u.host, u.port⟩ := by
  obtain ⟨scheme, rest, -, -, hweb⟩ := parseWeb_of_parse h
  obtain ⟨a, ha, hweb⟩ := Except.bind_eq_ok.mp hweb
  cases hweb
  exact authority_text ha

/-- Whatever follows the origin of a URL is read, if it begins with a slash. -/
theorem exists_parse {base : Url} (hbase : Parsed base) {a : Authority}
    (ha : authority base.scheme base.authorityText = .ok a) {tail : List Char}
    (hhead : tail.head? = some '/')
    (hlast : ∀ c, tail.getLast? = some c → isOuterBlank c = false) :
    ∃ u, parse (String.ofList (base.origin ++ tail)) = .ok (some u) := by
  obtain ⟨rest, rfl⟩ := List.head?_eq_some_iff.mp hhead
  obtain ⟨-, hauthority⟩ := authorityOf_append hbase.authority_ne_nil hbase.authority
    (rest.filter fun c => !isLineBreak c)
  have hweb : formOf base.scheme = .web := by
    rcases hbase.scheme with hs | hs <;> rw [hs] <;> decide
  have hread : ∃ u, parseWeb base.scheme ('/' :: '/' ::
      (base.authorityText ++ '/' :: rest.filter fun c => !isLineBreak c)) = .ok u := by
    rw [← hauthority] at ha
    exact ⟨_, Except.bind_eq_ok.mpr ⟨a, ha, rfl⟩⟩
  obtain ⟨u, hu⟩ := hread
  refine ⟨u, ?_⟩
  rw [parse, cleaned_origin hbase hlast, splitScheme?_of_web hbase.scheme]
  dsimp only
  rw [hweb]
  dsimp only
  rw [hu]
  exact congrArg Except.ok (if_pos hbase.scheme)

end SearchRelay.Url
