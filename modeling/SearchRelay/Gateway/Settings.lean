import SearchRelay.Alias
import SearchRelay.Backend.Settings
import SearchRelay.Gateway.Failure
import SearchRelay.Rule
import SearchRelay.Stopwords
import SearchRelay.Toml.Line
import SearchRelay.Toml.Printer

/-!
# SearchRelay.Gateway.Settings

The settings of the gateway and the file that holds them.

1. Every setting has a default, so an empty file gives the default settings.
2. `check` gives the first fault in the order backend, host, aliases, rules,
   stopwords.
3. `ofToml` reads the text of a file, `toToml` writes it.  Settings with a null
   in what a rule promotes, or with a number beyond the integers of TOML, cannot
   be written.
-/

namespace SearchRelay.Gateway

open Json

/-- A rule in the settings: for the searches of an index with a term. -/
structure RuleSettings where
  index : String := ""
  term : String := ""
  promote : Option Json := none
  hide : List String := []
  deriving DecidableEq

/-- What such a rule does. -/
def RuleSettings.rule (r : RuleSettings) : Rule where
  matchTerm := r.term
  promote := r.promote
  hide := if r.hide.isEmpty then none else some r.hide

/-- Where the gateway listens. -/
structure Listener where
  host : String := "127.0.0.1"
  port : UInt16 := 8000
  deriving DecidableEq

/-- The settings of the gateway. -/
structure Settings where
  listener : Listener := {}
  backend : Backend.Settings := {}
  /-- The stopwords of queries that bring none; the English ones if there is no
  list. -/
  stopwords : Option (List String) := none
  /-- Indices and their aliases, sorted by the indices. -/
  aliases : List (String × String) := []
  rules : List RuleSettings := []
  /-- What is logged. -/
  logFilter : String := "info"
  deriving DecidableEq

namespace Settings

/-! ## Decoding -/

/-- The fields of a listener. -/
def listenerForm : Record Listener where
  name := "ServerConfig"
  fields := [
    .of "host" .free Decoder.text fun l v => { l with host := v },
    .of "port" .free (Decoder.natBelow UInt16.size "u16") fun l v => { l with port := v.toUInt16 }]
  blank := {}

/-- The fields of the settings of suggestions. -/
def suggestionsForm : Record (Option (List String)) where
  name := "SuggestionsConfig"
  fields := [
    .of "stopwords" .free (Decoder.nullable (Decoder.list Decoder.text)) fun _ words => words]
  blank := none

/-- The fields of a rule. -/
def ruleForm : Record RuleSettings where
  name := "RuleConfig"
  fields := [
    .of "index" .free Decoder.text fun r v => { r with index := v },
    .of "match_term" .free Decoder.text fun r v => { r with term := v },
    .of "promote" .free (Decoder.nullable Decoder.any) fun r v => { r with promote := v },
    .of "hide" .free (Decoder.list Decoder.text) fun r v => { r with hide := v }]
  blank := {}

/-- The fields of the settings of logging. -/
def loggingForm : Record String where
  name := "LoggingConfig"
  fields := [.of "filter" .free Decoder.text fun _ v => v]
  blank := "info"

/-- The fields of the settings. -/
def form : Record Settings where
  name := "GatewayConfig"
  fields := [
    .of "server" .free listenerForm.decode fun s v => { s with listener := v },
    .of "backend" .free Backend.Settings.decode fun s v => { s with backend := v },
    .of "suggestions" .free suggestionsForm.decode fun s v => { s with stopwords := v },
    .of "aliases" .free (Decoder.dictionary Decoder.text) fun s v => { s with aliases := v },
    .of "rules" .free (Decoder.list ruleForm.decode) fun s v => { s with rules := v },
    .of "logging" .free loggingForm.decode fun s v => { s with logFilter := v }]
  blank := {}

def decode : Decoder Settings := form.decode

def decodeRules : Decoder (List RuleSettings) := Decoder.list ruleForm.decode

/-! ## JSON -/

def textsToJson (texts : List String) : Json := .array (texts.map .string)

/-- A rule as JSON. -/
def ruleToJson (r : RuleSettings) : Json := .object <| List.flatten [
  if r.hide.isEmpty then [] else [("hide", textsToJson r.hide)],
  [("index", .string r.index), ("match_term", .string r.term)],
  optional "promote" r.promote]

/-- Settings as JSON. -/
def toJson (s : Settings) : Json := .object [
  ("aliases", .object (s.aliases.map fun (index, name) => (index, .string name))),
  ("backend", s.backend.toJson),
  ("logging", .object [("filter", .string s.logFilter)]),
  ("rules", .array (s.rules.map ruleToJson)),
  ("server", .object [
    ("host", .string s.listener.host), ("port", .ofNat s.listener.port.toNat)]),
  ("suggestions", .object (optional "stopwords" (s.stopwords.map textsToJson)))]

/-! ## Faults -/

/-- Why settings are not valid. -/
inductive Fault where
  | backend (cause : Backend.Settings.Fault)
  | blankHost
  | aliasTaken (name : String)
  | blankRuleIndex (place : Nat)
  | blankRuleTerm (place : Nat)
  | blankStopword
  deriving DecidableEq

/-- A fault as it is reported. -/
def Fault.failure : Fault → Failure
  | .backend cause => .search cause.error
  | .blankHost => .config "server.host must not be empty"
  | .aliasTaken name => .config (Alias.Fault.aliasTaken name).reason
  | .blankRuleIndex place => .config ("rules[" ++ toString place ++ "].index must not be empty")
  | .blankRuleTerm place =>
    .config ("rules[" ++ toString place ++ "].match_term must not be empty")
  | .blankStopword => .config "suggestions.stopwords must not contain blank words"

/-- The first name that stands in a list a second time. -/
def firstRepeated? (seen : List String) : List String → Option String
  | [] => none
  | name :: names => if name ∈ seen then some name else firstRepeated? (name :: seen) names

/-- The first fault of rules, the first of which has the given place. -/
def ruleFault? (place : Nat) : List RuleSettings → Option Fault
  | [] => none
  | r :: rules =>
    if Text.allBlank r.index then some (.blankRuleIndex place)
    else if Text.allBlank r.term then some (.blankRuleTerm place)
    else ruleFault? (place + 1) rules

/-- Checks settings.  Gives the first fault. -/
def check (s : Settings) : Except Fault Unit := do
  let _ ← s.backend.check.mapError Fault.backend
  if Text.allBlank s.listener.host then throw .blankHost
  if let some name := firstRepeated? [] (s.aliases.map Prod.snd) then throw (.aliasTaken name)
  if let some fault := ruleFault? 0 s.rules then throw fault
  if (s.stopwords.getD []).any Text.allBlank then throw .blankStopword

/-! ## What settings stand for -/

def aliasTable (s : Settings) : Except Alias.Fault Alias.Table := Alias.Table.ofPairs s.aliases

def commonStopwords (s : Settings) : Stopwords :=
  s.stopwords.elim Stopwords.english Stopwords.ofList

/-! ## Files -/

/-- Reads the text of a file. -/
def ofToml (text : String) : Except Failure Settings :=
  match Toml.parse? text with
  | none => .error (.config "malformed document")
  | some table =>
    (decode { surplus := true, filling := true } (Toml.Value.table table).document).mapError
      fun e => .config e.message

def textsToToml (texts : List String) : Toml.Value := .array (texts.map .string)

/-- A rule as a value of a document. -/
def ruleToToml (r : RuleSettings) : Except Toml.Value.Fault Toml.Value := do
  let promote ← r.promote.mapM Toml.Value.ofJson
  return .table <| List.flatten [
    [("index", .string r.index), ("match_term", .string r.term)],
    promote.elim [] fun v => [("promote", v)],
    if r.hide.isEmpty then [] else [("hide", textsToToml r.hide)]]

/-- The settings of the backend as a value of a document. -/
def backendToToml (b : Backend.Settings) : Except Toml.Value.Fault Toml.Value := do
  let timeout ← Toml.Value.ofInt b.timeout
  let total ← Toml.Value.ofInt b.totalTimeout
  let shortest ← Toml.Value.ofInt b.pause.1
  let longest ← Toml.Value.ofInt b.pause.2
  return .table [
    ("url", .string b.url),
    ("timeout_seconds", timeout),
    ("total_timeout_seconds", total),
    ("max_retries", .integer b.maxRetries.toNat),
    ("retry_delay_ms", .array [shortest, longest])]

/-- Settings as a document. -/
def toTable (s : Settings) : Except Toml.Value.Fault Toml.Table := do
  let backend ← backendToToml s.backend
  let rules ← s.rules.mapM ruleToToml
  return [
    ("server", .table [
      ("host", .string s.listener.host), ("port", .integer s.listener.port.toNat)]),
    ("backend", backend),
    ("suggestions", .table (s.stopwords.elim [] fun words => [("stopwords", textsToToml words)])),
    ("aliases", .table (s.aliases.map fun (index, name) => (index, .string name))),
    ("rules", .array rules),
    ("logging", .table [("filter", .string s.logFilter)])]

def toToml (s : Settings) : Except Failure String :=
  (s.toTable.map Toml.print).mapError fun fault => .config fault.reason

/-- The settings in a file, which has to exist. -/
def ofFile : (content : Option String) → Except Failure Settings
  | none => .error (.file "No such file or directory (os error 2)")
  | some text => ofToml text

/-- The settings in a file, or the default settings if there is none. -/
def ofFileOrDefault (content : Option String) : Except Failure Settings :=
  content.elim (.ok {}) ofToml

/-! ## Where the file is -/

def within (folder name : String) : String :=
  if folder.isEmpty ∨ folder.endsWith "/" then folder ++ name else folder ++ "/" ++ name

/-- The folder of a user's settings: the one named for it, if its path is
absolute, else `.config` in the home folder. -/
def userFolder? (named home : Option String) : Option String :=
  match named with
  | some folder => if folder.startsWith "/" then some folder else inHome
  | none => inHome
where
  /-- The folder in the home folder. -/
  inHome : Option String := home.map fun folder => within folder ".config"

/-- Where the file is: in the folder that was chosen for it, else in the folder
of the user's settings. -/
def location (chosen named home : Option String) : String :=
  let folder := match chosen, userFolder? named home with
    | some folder, _ => folder
    | none, some folder => within folder "searchgate"
    | none, none => "/tmp/searchgate-config"
  within folder "config.toml"

end Settings

end SearchRelay.Gateway
