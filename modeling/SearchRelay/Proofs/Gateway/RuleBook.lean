import SearchRelay.Proofs.Gateway.Status
import SearchRelay.Proofs.Text.Blank
import SearchRelay.Proofs.Text.Utf8

/-!
# SearchRelay.Proofs.Gateway.RuleBook

Which rules a search of a client fetches.

Rules are configured with a term that may be any text, and they are looked up for
the text of a header.  A header is a text only if all its bytes are visible
characters of ASCII (`all_isTextByte_iff`); any other header counts as none.  So
a rule can be reached by its own term if and only if the term is ASCII.

1. `term?_of_header` — the term that a header with the bytes of a text holds;
2. `rulesFor_trim` — blanks around a term do not count;
3. `rule_fetched_iff_ascii` — a search for the term of a rule fetches this rule
   and those like it if and only if the term is ASCII, and otherwise none.
-/

namespace SearchRelay.Gateway

open Json Backend

/-- Whether a character is a control character: those of the category Cc of
Unicode. -/
def IsControl (c : Char) : Prop := c.toNat < 32 ∨ 127 ≤ c.toNat ∧ c.toNat < 160

instance (c : Char) : Decidable (IsControl c) := inferInstanceAs (Decidable (_ ∨ _))

def WithoutControls (text : String) : Prop := ∀ c ∈ text.toList, ¬ IsControl c

def IsAscii (text : String) : Prop := ∀ c ∈ text.toList, c.toNat < 128

-- all characters are finitely many, but a text is looked through faster
instance (text : String) : Decidable (WithoutControls text) := List.decidableBAll _ _

instance (text : String) : Decidable (IsAscii text) := List.decidableBAll _ _

/-! ## the header -/

/- The bytes of a header are a text if each is a visible ASCII character, a space or a
tab. A character beyond ASCII is encoded in bytes that are none of these. -/

/-- Of characters other than controls just those of ASCII are text in a header. -/
theorem all_isTextByte_encodeChar {c : Char} (hc : ¬ IsControl c) :
    (String.utf8EncodeChar c).all Request.isTextByte = true ↔ c.toNat < 128 := by
  unfold IsControl at hc
  constructor
  · intro htext
    by_contra hge
    obtain ⟨b, hb⟩ := List.exists_mem_of_ne_nil _ (String.utf8EncodeChar_ne_nil (c := c))
    have hbyte := Text.Utf8.le_of_mem_utf8EncodeChar (Nat.le_of_not_lt hge) b hb
    have htext := List.all_eq_true.mp htext b hb
    simp [Request.isTextByte, UInt8.le_iff_toNat_le, UInt8.lt_iff_toNat_lt, ← UInt8.toNat_inj]
      at htext
    omega
  · intro hlt
    have hbyte : (UInt8.ofNat c.toNat).toNat = c.toNat := 
      UInt8.toNat_ofNat_of_lt' (Nat.lt_trans hlt (by decide))
    rw [Text.Utf8.utf8EncodeChar_of_lt hlt]
    simp [Request.isTextByte, UInt8.le_iff_toNat_le, UInt8.lt_iff_toNat_lt, hbyte]
    omega

/-- Of texts without control characters just those of ASCII can be read from a
header. -/
theorem all_isTextByte_iff {text : String} (hcontrol : WithoutControls text) :
    (Alias.utf8 text).all Request.isTextByte = true ↔ IsAscii text := by
  rw [Text.Utf8.utf8_eq_encode, Text.Utf8.encode, List.all_flatMap, List.all_eq_true]
  exact forall₂_congr fun c hc => all_isTextByte_encodeChar (hcontrol c hc)

/-- The term that is read from a header with the bytes of a text. -/
theorem term?_of_header {r : Request} {text : String}
    (hheader : r.header? Request.termHeader = some (Alias.utf8 text))
    (hcontrol : WithoutControls text) (hblank : ¬ Text.allBlank text = true) :
    r.term? = if IsAscii text then some (Text.trim text) else none := by
  have hterm : r.term? = if (Alias.utf8 text).all Request.isTextByte = true ∧
      ¬ (Text.trim (String.ofList ((Alias.utf8 text).map fun b => Char.ofNat b.toNat))).isEmpty
      then some (Text.trim (String.ofList ((Alias.utf8 text).map fun b => Char.ofNat b.toNat)))
      else none := by
    rw [Request.term?, hheader]
    rfl
  rw [hterm]
  by_cases hascii : IsAscii text
  · have hself : String.ofList ((Alias.utf8 text).map fun b => Char.ofNat b.toNat) = text := by
      rw [Text.Utf8.utf8_eq_encode, Text.Utf8.map_ofNat_encode hascii, String.ofList_toList]
    have hleft : ¬ (Text.trim text).isEmpty = true := by
      rw [String.isEmpty_iff, ← String.toList_eq_nil_iff, Text.toList_trim_eq_nil_iff]
      exact hblank
    rw [hself, if_pos ⟨(all_isTextByte_iff hcontrol).mpr hascii, hleft⟩, if_pos hascii]
  · rw [if_neg fun h => hascii ((all_isTextByte_iff hcontrol).mp h.1), if_neg hascii]

/-! ## the rules -/

/-- What the rules do that have the index of a rule, and its term up to case and
to the blanks around it. -/
def rulesLike (rules : List RuleSettings) (rule : RuleSettings) : List Rule :=
  (rules.filter fun r => r.index = rule.index ∧
    Text.lowercase (Text.trim r.term) = Text.lowercase (Text.trim rule.term)).map RuleSettings.rule

/-- A rule is among those like it. -/
theorem mem_rulesLike_self {rules : List RuleSettings} {rule : RuleSettings} (h : rule ∈ rules) :
    rule.rule ∈ rulesLike rules rule :=
  List.mem_map_of_mem (List.mem_filter.mpr ⟨h, by simp⟩)

/-- Blanks around a term do not count. -/
theorem rulesFor_trim (rules : List RuleSettings) (rule : RuleSettings) :
    RuleBook.rulesFor ⟨rules⟩ rule.index (Text.trim rule.term) = rulesLike rules rule := by
  have hconcerns : RuleBook.concerns rule.index (Text.trim rule.term) = fun r =>
      decide (r.index = rule.index ∧
        Text.lowercase (Text.trim r.term) = Text.lowercase (Text.trim rule.term)) := by
    funext r
    simp [RuleBook.concerns, RuleBook.termKey, Text.trim_trim]
  rw [RuleBook.rulesFor, hconcerns, rulesLike]

/-- In valid settings no rule has a blank term. -/
theorem not_allBlank_of_ruleFault? {place : Nat} {rules : List RuleSettings}
    (h : Settings.ruleFault? place rules = none) :
    ∀ rule ∈ rules, ¬ Text.allBlank rule.term = true := by
  induction rules generalizing place with
  | nil => exact fun _ hmem => absurd hmem List.not_mem_nil
  | cons r rules ih =>
      rw [Settings.ruleFault?] at h
      split at h
      · contradiction
      · split at h
        · contradiction
        · next hterm => exact List.forall_mem_cons.mpr ⟨hterm, ih h⟩

theorem ruleFault?_of_check {settings : Settings} (h : settings.check = .ok ()) :
    Settings.ruleFault? 0 settings.rules = none := by
  obtain ⟨_, _, h⟩ := Except.bind_eq_ok.mp h
  cases hfault : Settings.ruleFault? 0 settings.rules with
  | none => rfl
  | some fault =>
      -- the checks before the one of the rules either fail or go on to it
      by_cases hhost : Text.allBlank settings.listener.host = true
      · simp [hhost, Except.bind_eq_ok] at h
      · cases hname : Settings.firstRepeated? [] (settings.aliases.map Prod.snd) with
        | some name => simp [hhost, hname, Except.bind_eq_ok] at h
        | none => simp [hhost, hname, hfault, Except.bind_eq_ok] at h

/-- A gateway has the rules of its settings, and none of them has a blank term. -/
theorem rules_of_ofSettings {settings : Settings} {g : Gateway}
    (h : Gateway.ofSettings settings = .ok g) :
    g.rules = ⟨settings.rules⟩ ∧ ∀ rule ∈ settings.rules, ¬ Text.allBlank rule.term = true := by
  obtain ⟨_, hcheck, h⟩ := Except.bind_eq_ok.mp h
  obtain ⟨_, _, h⟩ := Except.bind_eq_ok.mp h
  obtain ⟨_, _, h⟩ := Except.bind_eq_ok.mp h
  have hvalid : settings.check = .ok () := by
    cases hresult : settings.check with
    | error fault => rw [hresult] at hcheck; cases hcheck
    | ok _ => rfl
  exact ⟨(Except.pure_eq_ok.mp h) ▸ rfl, not_allBlank_of_ruleFault? (ruleFault?_of_check hvalid)⟩

/-! ## the search -/

/-- The rules that the search of a client fetches. -/
def fetchedRules (s : State) (r : Request) (batch : Batch) : List Rule :=
  s.gateway.rulesOf r.term? batch.indices.head?

/-- What a search comes to if it fetches the given rules. -/
def resultWith (pauses : Nat → Nat) (script : Script) (s : State) (queries : List Query)
    (rules : List Rule) : Except Failure Response :=
  match (Search.run s.gateway.service pauses (upcoming script s) (fun _ => .ok rules)
    queries).result with
  | .ok text => .ok (.ofText 200 text)
  | .error e => .error (.search e)

section

variable (pauses : Nat → Nat) (script : Script) {settings : Settings} {s : State} {r : Request}
  {queries : List Query} {batch : Batch} {rule : RuleSettings}

/-- The rules that are fetched are those that the answer is made with. -/
theorem handle_eq_resultWith (hopen : s.canceled = false) (hpath : r.path = "/search")
    (hmethod : r.method = "POST")
    (hqueries : decodeBytes Query.decodeRequest r.body = .ok queries)
    (hbatch : Batch.ofQueries queries = .ok batch) :
    (handle pauses script s r).result =
      resultWith pauses script s queries (fetchedRules s r batch) := by
  have hrun : (outcomeOf pauses script s r.term? queries).result =
      (Search.run s.gateway.service pauses (upcoming script s)
        (fun _ => .ok (fetchedRules s r batch)) queries).result := by
    rw [outcomeOf, (Search.run_of_batch hbatch rfl).2, (Search.run_of_batch hbatch rfl).2,
      fetchedRules]
  rw [handle_search pauses script hpath hmethod hqueries,
    (search_of_open pauses script s r.term? queries (.inl hopen)).2, hrun]
  rfl

/-- The rules that are fetched for the term of a rule. -/
theorem fetchedRules_eq (hsettings : Gateway.ofSettings settings = .ok s.gateway)
    (hrule : rule ∈ settings.rules) (hcontrol : WithoutControls rule.term)
    (hindex : batch.indices.head? = some rule.index)
    (hheader : r.header? Request.termHeader = some (Alias.utf8 rule.term)) :
    fetchedRules s r batch = if IsAscii rule.term then rulesLike settings.rules rule else [] := by
  obtain ⟨hrules, hblank⟩ := rules_of_ofSettings hsettings
  rw [fetchedRules, hindex, term?_of_header hheader hcontrol (hblank rule hrule)]
  by_cases hascii : IsAscii rule.term
  · rw [if_pos hascii, if_pos hascii, rulesOf, hrules, rulesFor_trim]
  · rw [if_neg hascii, if_neg hascii]
    rfl

/-- **Which rules can be reached by their own term**: let a client search the
index of a configured rule, with the bytes of the term of the rule in the header.
If and only if the term is ASCII, the search fetches the rule, and with it just
the rules that have the same index, and the same term up to case and to the blanks
around it, in the order of the settings.  Otherwise the search fetches no rule at
all. -/
theorem rule_fetched_iff_ascii (hsettings : Gateway.ofSettings settings = .ok s.gateway)
    (hrule : rule ∈ settings.rules) (hcontrol : WithoutControls rule.term)
    (hpath : r.path = "/search") (hmethod : r.method = "POST")
    (hqueries : decodeBytes Query.decodeRequest r.body = .ok queries)
    (hbatch : Batch.ofQueries queries = .ok batch)
    (hindex : batch.indices.head? = some rule.index)
    (hheader : r.header? Request.termHeader = some (Alias.utf8 rule.term)) :
    (s.canceled = false →
        (handle pauses script s r).result =
          resultWith pauses script s queries (fetchedRules s r batch)) ∧
      (rule.rule ∈ fetchedRules s r batch ∧
          fetchedRules s r batch = rulesLike settings.rules rule ↔ IsAscii rule.term) ∧
      (¬ IsAscii rule.term → fetchedRules s r batch = []) := by
  refine ⟨fun hopen => handle_eq_resultWith pauses script hopen hpath hmethod hqueries hbatch, ?_⟩
  rw [fetchedRules_eq hsettings hrule hcontrol hindex hheader]
  by_cases hascii : IsAscii rule.term
  · rw [if_pos hascii]
    exact ⟨iff_of_true ⟨mem_rulesLike_self hrule, rfl⟩ hascii, fun h => absurd hascii h⟩
  · rw [if_neg hascii]
    exact ⟨iff_of_false (fun h => List.not_mem_nil h.1) hascii, fun _ => rfl⟩

end

/-! ## two terms -/

/-- A rule whose term is ASCII, with a blank in front. -/
def phoneRule : RuleSettings where
  index := "products"
  term := " iPhone"
  hide := ["7"]

/-- A rule whose term is not ASCII. -/
def summerRule : RuleSettings where
  index := "products"
  term := "\u00e9t\u00e9"
  promote := some (.string "sunglasses")

/-- Settings with these rules, and with another one for the first term. -/
def shopSettings : Settings where
  backend := { url := "http://[::1]:9200" }
  stopwords := some []
  rules := [phoneRule, summerRule, { phoneRule with term := "IPHONE", hide := ["8", "9"] }]

/-- The gateway with these settings. -/
def shopGateway : State := ⟨{ localGateway with rules := ⟨shopSettings.rules⟩ }, false, 0⟩

/-- The body of a search of the index. -/
def shopBody : List UInt8 := Alias.utf8
  "\x7b\"query\":[\x7b\"id\":\"phones\",\"index\":\"products\",\"body\":\x7b\x7d\x7d]\x7d"

/-- The search of the index for a term. -/
def shopSearch (term : String) : Request where
  headers := [("X-Search-Query", Alias.utf8 term)]
  body := shopBody

/-- The batch of this search. -/
def shopBatch : Batch where
  queries := [{ id := "phones", index := some "products", body := some (.object []) }]
  payload := "\x7b\"index\":\"products\"\x7d\n\x7b\x7d\n"

theorem ofSettings_shopSettings : Gateway.ofSettings shopSettings = .ok shopGateway.gateway := rfl

theorem decodeBytes_shopBody : decodeBytes Query.decodeRequest shopBody = .ok shopBatch.queries :=
  Except.toOption_eq_some.mp (by decide +kernel)

theorem header?_shopSearch (term : String) :
    (shopSearch term).header? Request.termHeader = some (Alias.utf8 term) := by
  have hname : "X-Search-Query".toLower = Request.termHeader := by decide +kernel
  simp [Request.header?, shopSearch, hname]

/-- A rule is fetched for its own term. -/
theorem rule_fetched_iff_ascii_phoneRule :
    Gateway.ofSettings shopSettings = .ok shopGateway.gateway ∧
      phoneRule ∈ shopSettings.rules ∧ WithoutControls phoneRule.term ∧
      ((shopSearch phoneRule.term).path = "/search" ∧
        (shopSearch phoneRule.term).method = "POST") ∧
      decodeBytes Query.decodeRequest (shopSearch phoneRule.term).body = .ok shopBatch.queries ∧
      Batch.ofQueries shopBatch.queries = .ok shopBatch ∧
      shopBatch.indices.head? = some phoneRule.index ∧
      (shopSearch phoneRule.term).header? Request.termHeader = some (Alias.utf8 phoneRule.term) ∧
      phoneRule.rule ∈ fetchedRules shopGateway (shopSearch phoneRule.term) shopBatch ∧
      fetchedRules shopGateway (shopSearch phoneRule.term) shopBatch =
        [⟨" iPhone", none, some ["7"]⟩, ⟨"IPHONE", none, some ["8", "9"]⟩] := by
  have hrule : phoneRule ∈ shopSettings.rules := by decide
  have hcontrol : WithoutControls phoneRule.term := by decide
  have hpath : (shopSearch phoneRule.term).path = "/search" := by decide +kernel
  have hbatch : Batch.ofQueries shopBatch.queries = .ok shopBatch := rfl
  have hindex : shopBatch.indices.head? = some phoneRule.index := by decide
  have hheader := header?_shopSearch phoneRule.term
  have hiff := (rule_fetched_iff_ascii (fun _ => 0) (fun _ => .refused) (s := shopGateway)
    ofSettings_shopSettings hrule hcontrol hpath rfl decodeBytes_shopBody hbatch hindex hheader).2.1
  obtain ⟨hfetched, hlike⟩ := hiff.mpr (by decide)
  refine ⟨ofSettings_shopSettings, hrule, hcontrol, ⟨hpath, rfl⟩, decodeBytes_shopBody, hbatch,
    hindex, hheader, hfetched, ?_⟩
  rw [hlike]
  decide +kernel

/-- A search for the term of a valid rule that is not ASCII does not fetch it. -/
theorem summerRule_not_fetched :
    Gateway.ofSettings shopSettings = .ok shopGateway.gateway ∧
      summerRule ∈ shopSettings.rules ∧ WithoutControls summerRule.term ∧
      ((shopSearch summerRule.term).path = "/search" ∧
        (shopSearch summerRule.term).method = "POST") ∧
      decodeBytes Query.decodeRequest (shopSearch summerRule.term).body = .ok shopBatch.queries ∧
      Batch.ofQueries shopBatch.queries = .ok shopBatch ∧
      shopBatch.indices.head? = some summerRule.index ∧
      (shopSearch summerRule.term).header? Request.termHeader =
        some (Alias.utf8 summerRule.term) ∧
      fetchedRules shopGateway (shopSearch summerRule.term) shopBatch = [] ∧
      rulesLike shopSettings.rules summerRule =
        [⟨"\u00e9t\u00e9", some (.string "sunglasses"), none⟩] := by
  have hrule : summerRule ∈ shopSettings.rules := by decide
  have hcontrol : WithoutControls summerRule.term := by decide
  have hindex : shopBatch.indices.head? = some summerRule.index := by decide
  have hheader := header?_shopSearch summerRule.term
  have hfetched := fetchedRules_eq ofSettings_shopSettings hrule hcontrol hindex hheader
  rw [if_neg (by decide)] at hfetched
  exact ⟨ofSettings_shopSettings, hrule, hcontrol, ⟨by decide +kernel, rfl⟩,
    decodeBytes_shopBody, rfl, hindex, hheader, hfetched, by decide +kernel⟩

end SearchRelay.Gateway
