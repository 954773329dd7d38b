import SearchRelay.Gateway.Settings
import SearchRelay.Proofs.Json.Record
import SearchRelay.Proofs.Toml.Meaning
import SearchRelay.Proofs.Toml.Range

/-!
# SearchRelay.Proofs.Gateway.Settings

Well-formed settings: the aliases are sorted by their indices, and what a rule
promotes is a well-formed value.

1. `wellFormed_of_decode` — settings that are read are well-formed;
2. `wellFormed_of_toTable` — the document of well-formed settings is well-formed.
-/

namespace SearchRelay.Gateway

open Json (Decoder Document)

def RuleSettings.WellFormed (r : RuleSettings) : Prop := ∀ j, r.promote = some j → j.WellFormed

namespace Settings

/-- The aliases are sorted by their indices, each once, and what the rules
promote is well-formed. -/
structure WellFormed (s : Settings) : Prop where
  aliases : Decoder.Sorted s.aliases
  rules : ∀ r ∈ s.rules, r.WellFormed

/-! ## settings that are read -/

/-- Every field of a rule is read as something well-formed. -/
theorem keeps_ruleForm : ruleForm.Keeps RuleSettings.WellFormed := by
  intro field hfield r d record next hd hrecord h
  simp only [ruleForm, List.mem_cons, List.not_mem_nil, or_false] at hfield
  rcases hfield with rfl | rfl | rfl | rfl
  case inr.inr.inl =>
    obtain ⟨promote, hpromote, rfl⟩ := Except.map_eq_ok.mp h
    rintro j rfl
    exact Decoder.wellFormed_of_any hd (Decoder.eq_ok_of_nullable hpromote)
  all_goals
    obtain ⟨v, -, rfl⟩ := Except.map_eq_ok.mp h
    exact hrecord

theorem wellFormed_of_decodeRule {r : Json.Reading} {d : Document} {rule : RuleSettings}
    (hd : d.InRange) (h : ruleForm.decode r d = .ok rule) : rule.WellFormed :=
  Json.Record.inv_of_decode keeps_ruleForm nofun hd h

/-- Every field of the settings keeps them well-formed. -/
theorem keeps_form : form.Keeps WellFormed := by
  intro field hfield r d record next hd hrecord h
  simp only [form, List.mem_cons, List.not_mem_nil, or_false] at hfield
  rcases hfield with rfl | rfl | rfl | rfl | rfl | rfl
  case inr.inr.inr.inl =>
    obtain ⟨aliases, haliases, rfl⟩ := Except.map_eq_ok.mp h
    exact ⟨Decoder.sorted_of_dictionary haliases, hrecord.rules⟩
  case inr.inr.inr.inr.inl =>
    obtain ⟨rules, hrules, rfl⟩ := Except.map_eq_ok.mp h
    exact ⟨hrecord.aliases, Decoder.forall_of_list wellFormed_of_decodeRule hd hrules⟩
  all_goals
    obtain ⟨v, -, rfl⟩ := Except.map_eq_ok.mp h
    exact ⟨hrecord.aliases, hrecord.rules⟩

/-- Settings that are read are well-formed. -/
theorem wellFormed_of_decode {r : Json.Reading} {d : Document} {s : Settings} (hd : d.InRange)
    (h : decode r d = .ok s) : s.WellFormed :=
  Json.Record.inv_of_decode keeps_form ⟨List.Pairwise.nil, nofun⟩ hd h

/-- So are settings that are read from a file. -/
theorem wellFormed_of_ofToml {text : String} {s : Settings} (h : ofToml text = .ok s) :
    s.WellFormed := by
  unfold ofToml at h
  split at h
  · cases h
  · next table htable =>
    exact wellFormed_of_decode (Toml.inRange_parse? htable) (Except.mapError_eq_ok.mp h)

/-- So are settings that are read from JSON. -/
theorem wellFormed_of_decodeBytes {bytes : List UInt8} {s : Settings}
    (h : Json.decodeBytes decode bytes = .ok s) : s.WellFormed := by
  unfold Json.decodeBytes at h
  split at h
  · next d hd =>
    obtain ⟨text, -, hd⟩ := Option.bind_eq_some_iff.mp hd
    exact wellFormed_of_decode (Document.inRange_of_parse? hd) h
  · cases h

/-! ## the document of settings -/

/-- The numbers of the settings of a backend are integers of a document. -/
structure InRange (b : Backend.Settings) : Prop where
  timeout : (b.timeout : Int) < Toml.integerEnd
  total : (b.totalTimeout : Int) < Toml.integerEnd
  shortest : (b.pause.1 : Int) < Toml.integerEnd
  longest : (b.pause.2 : Int) < Toml.integerEnd

/-- The document of the settings of a backend. -/
def backendTable (b : Backend.Settings) : Toml.Table := [
  ("url", .string b.url),
  ("timeout_seconds", .integer b.timeout),
  ("total_timeout_seconds", .integer b.totalTimeout),
  ("max_retries", .integer b.maxRetries.toNat),
  ("retry_delay_ms", .array [.integer b.pause.1, .integer b.pause.2])]

/-- The document of a rule, with what it promotes. -/
def ruleTable (r : RuleSettings) (promote : Option Toml.Value) : Toml.Table := List.flatten [
  [("index", .string r.index), ("match_term", .string r.term)],
  promote.elim [] fun v => [("promote", v)],
  if r.hide.isEmpty then [] else [("hide", textsToToml r.hide)]]

/-- The document of settings, with those of the rules. -/
def tableOf (s : Settings) (rules : List Toml.Value) : Toml.Table := [
  ("server", .table [
    ("host", .string s.listener.host), ("port", .integer s.listener.port.toNat)]),
  ("backend", .table (backendTable s.backend)),
  ("suggestions", .table (s.stopwords.elim [] fun words => [("stopwords", textsToToml words)])),
  ("aliases", .table (s.aliases.map fun (index, name) => (index, .string name))),
  ("rules", .array rules),
  ("logging", .table [("filter", .string s.logFilter)])]

/-- The settings of a backend have a document if their numbers are in range. -/
theorem backendToToml_eq_ok {b : Backend.Settings} {v : Toml.Value} :
    backendToToml b = .ok v ↔ InRange b ∧ .table (backendTable b) = v := by
  simp only [backendToToml, Except.bind_eq_ok, Except.pure_eq_ok, Toml.Value.ofInt_eq_ok]
  constructor
  · rintro ⟨_, ⟨htimeout, rfl⟩, _, ⟨htotal, rfl⟩, _, ⟨hshortest, rfl⟩, _, ⟨hlongest, rfl⟩, rfl⟩
    exact ⟨⟨htimeout, htotal, hshortest, hlongest⟩, rfl⟩
  · rintro ⟨h, rfl⟩
    exact ⟨_, ⟨h.timeout, rfl⟩, _, ⟨h.total, rfl⟩, _, ⟨h.shortest, rfl⟩, _, ⟨h.longest, rfl⟩, rfl⟩

/-- What a rule promotes, as a value of its document. -/
def Promotes (r : RuleSettings) : Option Toml.Value → Prop
  | none => r.promote = none
  | some v => ∃ j, r.promote = some j ∧ Toml.Value.ofJson j = .ok v

/-- A rule has a document if what it promotes has one. -/
theorem ruleToToml_eq_ok {r : RuleSettings} {v : Toml.Value} :
    ruleToToml r = .ok v ↔ ∃ promote, Promotes r promote ∧ .table (ruleTable r promote) = v := by
  have hpromotes : ∀ promote, r.promote.mapM Toml.Value.ofJson = .ok promote ↔
      Promotes r promote := by
    intro promote
    cases hr : r.promote with
    | none => cases promote <;> simp [Promotes, hr]
    | some j =>
        have hmap : some <$> Toml.Value.ofJson j = .ok promote ↔
            ∃ v, Toml.Value.ofJson j = .ok v ∧ some v = promote := Except.map_eq_ok
        rw [Option.mapM_some, hmap]
        cases promote <;> simp [Promotes, hr]
  simp only [ruleToToml, Except.bind_eq_ok, Except.pure_eq_ok, ruleTable, hpromotes]

/-- The settings that have a document, and which one it is. -/
theorem toTable_eq_ok {s : Settings} {table : Toml.Table} :
    s.toTable = .ok table ↔
      InRange s.backend ∧
        ∃ rules, s.rules.mapM ruleToToml = .ok rules ∧ tableOf s rules = table := by
  simp only [toTable, Except.bind_eq_ok, Except.pure_eq_ok, backendToToml_eq_ok]
  constructor
  · rintro ⟨_, ⟨hbackend, rfl⟩, rules, hrules, rfl⟩
    exact ⟨hbackend, rules, hrules, rfl⟩
  · rintro ⟨hbackend, rules, hrules, rfl⟩
    exact ⟨_, ⟨hbackend, rfl⟩, rules, hrules, rfl⟩

/-! ## well-formed documents -/

theorem wellFormed_textsToToml (texts : List String) : (textsToToml texts).WellFormed := by
  refine (Toml.Value.itemsWellFormed_iff _).mpr fun v hv => ?_
  obtain ⟨text, -, rfl⟩ := List.mem_map.mp hv
  trivial

theorem wellFormed_ofNat {n : Nat} (h : (n : Int) < Toml.integerEnd) :
    (Toml.Value.integer n).WellFormed := by
  have hleast : Toml.leastInteger ≤ 0 := by decide
  exact ⟨by omega, h⟩

/-- The document of the settings of a backend is well-formed. -/
theorem wellFormed_backendTable {b : Backend.Settings} (h : InRange b) :
    (Toml.Value.table (backendTable b)).WellFormed := by
  have hretries : ((b.maxRetries.toNat : Nat) : Int) < Toml.integerEnd := by
    have hlt := b.maxRetries.toNat_lt
    have hend : Toml.integerEnd = 2 ^ 63 := by decide
    omega
  refine ⟨by simp [backendTable], (Toml.Value.entriesWellFormed_iff _).mpr ?_⟩
  simp only [backendTable, List.forall_mem_cons]
  refine ⟨trivial, wellFormed_ofNat h.timeout, wellFormed_ofNat h.total, wellFormed_ofNat hretries,
    ⟨wellFormed_ofNat h.shortest, wellFormed_ofNat h.longest, trivial⟩, List.forall_mem_nil _⟩

/-- The document of a well-formed rule is well-formed. -/
theorem wellFormed_ruleToToml {r : RuleSettings} (hr : r.WellFormed) {v : Toml.Value}
    (h : ruleToToml r = .ok v) : v.WellFormed := by
  obtain ⟨promote, hpromote, rfl⟩ := ruleToToml_eq_ok.mp h
  have hhide := wellFormed_textsToToml r.hide
  have hpromote : ∀ v, promote = some v → v.WellFormed := by
    rintro v rfl
    obtain ⟨j, hj, hv⟩ := hpromote
    exact Toml.Value.wellFormed_ofJson j (hr j hj) hv
  refine ⟨?_, (Toml.Value.entriesWellFormed_iff _).mpr ?_⟩
  · cases promote <;> cases hempty : r.hide.isEmpty <;> simp [ruleTable, hempty]
  · intro entry hentry
    simp only [ruleTable, List.flatten_cons, List.flatten_nil, List.append_nil, List.mem_append]
      at hentry
    rcases hentry with hentry | hentry | hentry
    · simp only [List.mem_cons, List.not_mem_nil, or_false] at hentry
      rcases hentry with rfl | rfl <;> trivial
    · cases promote with
      | none => cases hentry
      | some v =>
          rw [List.mem_singleton.mp hentry]
          exact hpromote v rfl
    · split at hentry
      · cases hentry
      · rw [List.mem_singleton.mp hentry]
        exact hhide

/-- The document of well-formed settings is well-formed. -/
theorem wellFormed_of_toTable {s : Settings} (hs : s.WellFormed) {table : Toml.Table}
    (h : s.toTable = .ok table) : (Toml.Value.table table).WellFormed := by
  obtain ⟨hbackend, rules, hrules, rfl⟩ := toTable_eq_ok.mp h
  have hport : ((s.listener.port.toNat : Nat) : Int) < Toml.integerEnd := by
    have hlt := s.listener.port.toNat_lt
    have hend : Toml.integerEnd = 2 ^ 63 := by decide
    omega
  have hserver : (Toml.Value.table [("host", .string s.listener.host),
      ("port", .integer s.listener.port.toNat)]).WellFormed :=
    ⟨by simp, trivial, wellFormed_ofNat hport, trivial⟩
  have hsuggestions : (Toml.Value.table (s.stopwords.elim [] fun words =>
      [("stopwords", textsToToml words)])).WellFormed := by
    cases s.stopwords with
    | none => exact ⟨List.nodup_nil, trivial⟩
    | some words => exact ⟨List.nodup_singleton _, wellFormed_textsToToml words, trivial⟩
  have haliases : (Toml.Value.table (s.aliases.map fun (index, name) =>
      (index, .string name))).WellFormed := by
    refine ⟨?_, (Toml.Value.entriesWellFormed_iff _).mpr ?_⟩
    · have hkeys :
          (s.aliases.map fun (index, name) => (index, Toml.Value.string name)).map Prod.fst =
          s.aliases.map Prod.fst := by simp [Function.comp_def]
      rw [hkeys]
      exact List.Pairwise.imp (fun {_ _} hlt => String.ne_of_lt hlt) hs.aliases
    · rintro _ hentry
      obtain ⟨_, -, rfl⟩ := List.mem_map.mp hentry
      trivial
  have hrules : Toml.Value.ItemsWellFormed rules :=
    (Toml.Value.itemsWellFormed_iff rules).mpr
      (Except.forall_of_mapM (fun r hr v hv => wellFormed_ruleToToml (hs.rules r hr) hv) hrules)
  have hlogging : (Toml.Value.table [("filter", .string s.logFilter)]).WellFormed :=
    ⟨List.nodup_singleton _, trivial, trivial⟩
  exact ⟨by simp [tableOf], hserver, wellFormed_backendTable hbackend, hsuggestions, haliases,
    hrules, hlogging, trivial⟩

end Settings

end SearchRelay.Gateway
