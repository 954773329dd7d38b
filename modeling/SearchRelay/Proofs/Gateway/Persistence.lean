import SearchRelay.Proofs.Gateway.Settings
import SearchRelay.Proofs.Json.Relabel
import SearchRelay.Proofs.Text.Utf8

/-!
# SearchRelay.Proofs.Gateway.Persistence

Settings that are written to a file and read again.

1. `decode_arranged` — the document of well-formed settings is read as these
   settings, also when the plain entries of each table under headers stand in
   front;
2. `ofFile_toToml` — settings that were read and written are read again as
   themselves, unless their document is deeper than the reader of a file goes;
3. `ofFile_toToml_nested` — JSON has such settings.
-/

namespace SearchRelay.Gateway

open Json (Decoder Document)

namespace Settings

/-- How a file is read. -/
def fileReading : Json.Reading := { surplus := true, filling := true }

/-! ## parts of settings -/

/- Every part is a record of its own. It is read back field by field; a list of texts or
an alias table needs its own lemma, and the rest is the reading of natural numbers. -/

theorem natBelow_ofNat {limit n : Nat} (h : n < limit) (expected : String) :
    Decoder.natBelow limit expected fileReading (Toml.Value.integer n).document = .ok n := by
  rw [Toml.Value.document, Decoder.natBelow_integer h]

open Json.Record (Fills decode_object read_of)

/-- A list of texts is read from its document. -/
theorem list_textsToToml (texts : List String) :
    Decoder.list Decoder.text fileReading (textsToToml texts).document = .ok texts := by
  have hitems : (Toml.Value.documents (texts.map .string)).mapM (Decoder.text fileReading) =
      .ok texts := by
    induction texts with
    | nil => rfl
    | cons text texts ih =>
        rw [List.map_cons, Toml.Value.documents, List.mapM_cons, ih]
        rfl
  rw [textsToToml, Toml.Value.document]
  exact Decoder.list_of_mapM rfl hitems

/-- Where the gateway listens is read from its document. -/
theorem decode_listener (l : Listener) :
    listenerForm.decode fileReading (Toml.Value.table [("host", .string l.host),
      ("port", .integer l.port.toNat)]).document = .ok l := by
  have hport := natBelow_ofNat l.port.toNat_lt "u16"
  have hback : l.port.toNat.toUInt16 = l.port := UInt16.ofNat_toNat
  refine decode_object rfl (by decide) ?_
  refine Fills.cons rfl (by simp) (read_of rfl _) ?_
  refine Fills.cons rfl (by simp) (read_of hport _) (Fills.nil ?_)
  rw [hback]

/-- The settings of a backend are read from their document. -/
theorem decode_backend {b : Backend.Settings} (h : InRange b) :
    Backend.Settings.decode fileReading (Toml.Value.table (backendTable b)).document = .ok b := by
  have hend : Toml.integerEnd < UInt64.size := by decide
  have hword : ∀ {n : Nat}, (n : Int) < Toml.integerEnd →
      Backend.Settings.word64 fileReading (Toml.Value.integer n).document = .ok n := by
    intro n hn
    exact natBelow_ofNat (by omega) "u64"
  have hretries : Backend.Settings.word32 fileReading
      (Toml.Value.integer b.maxRetries.toNat).document = .ok b.maxRetries := by
    rw [Backend.Settings.word32, natBelow_ofNat b.maxRetries.toNat_lt "u32"]
    exact congrArg Except.ok UInt32.ofNat_toNat
  have hpause : Decoder.pair Backend.Settings.word64 fileReading
      (Toml.Value.array [.integer b.pause.1, .integer b.pause.2]).document = .ok b.pause :=
    Decoder.pair_of_eq_ok rfl (hword h.shortest) (hword h.longest)
  refine decode_object rfl (by decide) ?_
  refine Fills.cons rfl (by simp) (read_of rfl _) ?_
  refine Fills.cons rfl (by simp) (read_of (hword h.timeout) _) ?_
  refine Fills.cons rfl (by simp) (read_of (hword h.total) _) ?_
  refine Fills.cons rfl (by simp) (read_of hretries _) ?_
  exact Fills.cons rfl (by simp) (read_of hpause _) (Fills.nil rfl)

/-- Stopwords are read from their document, and are absent from an empty one. -/
theorem decode_suggestions (words : Option (List String)) :
    suggestionsForm.decode fileReading (Toml.Value.table (words.elim [] fun words =>
      [("stopwords", textsToToml words)])).document = .ok words := by
  refine decode_object rfl (by decide) ?_
  cases words with
  | none => exact Fills.nil rfl
  | some words =>
      have hwords : Decoder.nullable (Decoder.list Decoder.text) fileReading
          (textsToToml words).document = .ok (some words) :=
        congrArg (Except.map some) (list_textsToToml words)
      exact Fills.cons rfl (by simp) (read_of hwords _) (Fills.nil rfl)

/-- What is logged is read from its document. -/
theorem decode_logging (logFilter : String) :
    loggingForm.decode fileReading (Toml.Value.table [("filter", .string logFilter)]).document =
      .ok logFilter :=
  decode_object rfl (by decide) (Fills.cons rfl (by simp) (read_of rfl _) (Fills.nil rfl))

/-- Aliases are read from their document in the order in which they stand. -/
theorem decode_aliases {aliases : List (String × String)} (h : Decoder.Sorted aliases) :
    Decoder.dictionary Decoder.text fileReading
      (Toml.Value.table (aliases.map fun (index, name) => (index, .string name))).document =
        .ok aliases := by
  have hentries :
      Toml.Value.entryDocuments (aliases.map fun (index, name) => (index, .string name)) =
      aliases.map fun entry => (some entry.1, .string (some entry.2)) := by
    clear h
    induction aliases with
    | nil => rfl
    | cons entry rest ih =>
        rw [List.map_cons, Toml.Value.entryDocuments, ih]
        rfl
  have htext : ∀ name, Decoder.text fileReading (.string (some name)) = .ok name := fun _ => rfl
  rw [Toml.Value.document, hentries]
  exact Decoder.dictionary_of_sorted rfl htext h

/-! ## rules -/

/- A rule is the one part whose document is not fixed: a promoted value may be a table
with headers, which is written behind the plain entries. So the fields of a rule are
read back in either order. -/

/-- What a rule promotes is read as the value that it stands for. -/
theorem decode_promote {j : Json} {v : Toml.Value} (h : v.meaning? = some j) :
    Decoder.nullable Decoder.any fileReading v.document = .ok (some j) := by
  have hvalue : v.document.filled.value? none = some j := (if_pos rfl).trans h
  have hany : Decoder.any fileReading v.document = .ok j := by
    simp [Decoder.any, fileReading, hvalue]
  cases v <;> exact congrArg (Except.map some) hany

/-- What a rule promotes, where it stands under headers and where it does not. -/
theorem meaning?_promote {j : Json} (hj : j.WellFormed) {v : Toml.Value}
    (h : Toml.Value.ofJson j = .ok v) :
    v.meaning? = some j ∧ (v.hasHeaders = true → (Toml.Block.nodeOf v).toValue.meaning? = some j) :=
  ⟨Toml.Value.meaning?_ofJson j (Json.ordered_of_wellFormed j hj) h,
    Toml.Block.meaning?_nodeOf j (Json.ordered_of_wellFormed j hj) h⟩

theorem hasHeaders_textsToToml (texts : List String) : (textsToToml texts).hasHeaders = false := by
  cases texts <;> rfl

/-- What a rule promotes stands behind all other entries if it has headers. -/
theorem arranged_ruleTable (rule : RuleSettings) (promote : Option Toml.Value) :
    Toml.arranged (ruleTable rule promote) =
      match promote with
      | none => ruleTable rule none
      | some v =>
        if v.hasHeaders then
          ruleTable rule none ++ [("promote", (Toml.Block.nodeOf v).toValue)]
        else ruleTable rule (some v) := by
  have hhide := hasHeaders_textsToToml rule.hide
  have htext : ∀ text, (Toml.Value.string text).hasHeaders = false := fun _ => rfl
  cases hempty : rule.hide.isEmpty <;> cases promote with
  | none =>
      simp [ruleTable, Toml.arranged, Toml.Block.nodes, Toml.Block.plainNodes, Toml.Block.plain,
        Toml.Block.headedNodes, hempty, hhide, htext, Toml.entriesToTable, Toml.Node.toValue]
  | some v =>
      by_cases hheaders : v.hasHeaders = true <;>
        simp [ruleTable, Toml.arranged, Toml.Block.nodes, Toml.Block.plainNodes, Toml.Block.plain,
          Toml.Block.headedNodes, hempty, hhide, htext, hheaders, Toml.entriesToTable,
          Toml.Node.toValue]

/-- What a rule hides, in front of other entries: an empty list is left out. -/
theorem fills_hide {rule next : RuleSettings} {seen : List String} (hrule : rule.hide = [])
    (hseen : "hide" ∉ seen) {texts : List String} {rest : Toml.Table}
    (hrest : ∀ more, more ⊆ "hide" :: seen →
      ruleForm.Fills fileReading ⟨{ rule with hide := texts }, more⟩
        (Toml.Value.entryDocuments rest) next) :
    ruleForm.Fills fileReading ⟨rule, seen⟩ (Toml.Value.entryDocuments
      ((if texts.isEmpty then [] else [("hide", textsToToml texts)]) ++ rest)) next := by
  cases texts with
  | nil =>
      have hmore := hrest seen (List.subset_cons_self _ _)
      rw [← hrule] at hmore
      exact hmore
  | cons text texts =>
      have hhide := list_textsToToml (text :: texts)
      exact Fills.cons rfl hseen (read_of hhide _) (hrest _ (List.Subset.refl _))

/-- A rule is read from its document. -/
theorem decode_ruleTable {rule : RuleSettings} (hrule : rule.WellFormed)
    {promote : Option Toml.Value} (h : Promotes rule promote) :
    ruleForm.decode fileReading
        (Toml.Value.table (Toml.arranged (ruleTable rule promote))).document =
      .ok rule := by
  obtain ⟨index, term, promoted, hide⟩ := rule
  rw [arranged_ruleTable]
  refine decode_object rfl (by decide) ?_
  cases promote with
  | none =>
      cases h
      refine Fills.cons rfl (by simp) (read_of rfl _) ?_
      refine Fills.cons rfl (by simp) (read_of rfl _) ?_
      exact fills_hide rfl (by simp) fun _ _ => Fills.nil rfl
  | some v =>
      obtain ⟨j, hj, hv⟩ := h
      cases hj
      obtain ⟨hmeaning, hnode⟩ := meaning?_promote (hrule j rfl) hv
      by_cases hheaders : v.hasHeaders = true
      · -- tables under headers come last, so what is promoted is read behind what is hidden
        have hpromote := decode_promote (hnode hheaders)
        have hbehind : ∀ node, ruleTable ⟨index, term, some j, hide⟩ none ++ [("promote", node)] =
            [("index", .string index), ("match_term", .string term)] ++
              ((if hide.isEmpty then [] else [("hide", textsToToml hide)]) ++
                [("promote", node)]) := by
          simp [ruleTable]
        dsimp only
        rw [if_pos hheaders, hbehind]
        refine Fills.cons rfl (by simp) (read_of rfl _) ?_
        refine Fills.cons rfl (by simp) (read_of rfl _) ?_
        refine fills_hide rfl (by simp) fun more hmore => ?_
        have hunseen : "promote" ∉ more := fun hmem => absurd (hmore hmem) (by simp)
        exact Fills.cons rfl hunseen (read_of hpromote _) (Fills.nil rfl)
      · have hpromote := decode_promote hmeaning
        dsimp only
        rw [if_neg hheaders]
        refine Fills.cons rfl (by simp) (read_of rfl _) ?_
        refine Fills.cons rfl (by simp) (read_of rfl _) ?_
        refine Fills.cons rfl (by simp) (read_of hpromote _) ?_
        exact fills_hide rfl (by simp) fun _ _ => Fills.nil rfl

/-- The rules are read from the list of their documents. -/
theorem decode_rules {rules : List RuleSettings} (hrules : ∀ rule ∈ rules, rule.WellFormed)
    {values : List Toml.Value} (h : rules.mapM ruleToToml = .ok values) :
    Decoder.list ruleForm.decode fileReading
      (Toml.Value.array (Toml.tablesToValues (Toml.Block.itemNodes values))).document =
        .ok rules := by
  refine Decoder.list_of_mapM rfl ?_
  induction rules generalizing values with
  | nil =>
      cases h
      rfl
  | cons rule rules ih =>
      obtain ⟨hrule, hrules⟩ := List.forall_mem_cons.mp hrules
      rw [List.mapM_cons] at h
      obtain ⟨v, hv, h⟩ := Except.bind_eq_ok.mp h
      obtain ⟨rest, hrest, h⟩ := Except.bind_eq_ok.mp h
      cases h
      obtain ⟨promote, hpromote, rfl⟩ := ruleToToml_eq_ok.mp hv
      rw [Toml.tablesToValues_itemNodes, Toml.Value.documents, List.mapM_cons,
        decode_ruleTable hrule hpromote, ih hrules hrest]
      rfl

theorem isTable_of_mapM {rules : List RuleSettings} {values : List Toml.Value}
    (h : rules.mapM ruleToToml = .ok values) : ∀ v ∈ values, v.isTable = true := by
  refine Except.forall_of_mapM (fun rule _ v hv => ?_) h
  obtain ⟨promote, -, rfl⟩ := ruleToToml_eq_ok.mp hv
  rfl

/-! ## a whole document -/

/-- Without rules the empty list of them stands in front. -/
theorem arranged_tableOf (s : Settings) {rules : List Toml.Value}
    (hrules : ∀ v ∈ rules, v.isTable = true) :
    Toml.arranged (tableOf s rules) =
      (if rules.isEmpty then [("rules", .array [])] else []) ++ [
        ("server", .table [
          ("host", .string s.listener.host), ("port", .integer s.listener.port.toNat)]),
        ("backend", .table (backendTable s.backend)),
        ("suggestions", .table (s.stopwords.elim [] fun words =>
          [("stopwords", textsToToml words)])),
        ("aliases", .table (s.aliases.map fun (index, name) => (index, .string name)))] ++
      (if rules.isEmpty then []
        else [("rules", .array (Toml.tablesToValues (Toml.Block.itemNodes rules)))]) ++ [
        ("logging", .table [("filter", .string s.logFilter)])] := by
  have htext : ∀ text, (Toml.Value.string text).hasHeaders = false := fun _ => rfl
  have hinteger : ∀ i, (Toml.Value.integer i).hasHeaders = false := fun _ => rfl
  have hserver : Toml.arranged [("host", .string s.listener.host),
      ("port", .integer s.listener.port.toNat)] = _ :=
    Toml.arranged_of_plain (by simp [htext, hinteger])
  have hbackend : Toml.arranged (backendTable s.backend) = backendTable s.backend := by
    refine Toml.arranged_of_plain ?_
    simp only [backendTable, List.forall_mem_cons]
    exact ⟨rfl, rfl, rfl, rfl, rfl, nofun⟩
  have hsuggestions : Toml.arranged (s.stopwords.elim [] fun words =>
      [("stopwords", textsToToml words)]) = _ :=
    Toml.arranged_of_plain (by cases s.stopwords <;> simp [hasHeaders_textsToToml])
  have haliases : Toml.arranged (s.aliases.map fun (index, name) =>
      (index, Toml.Value.string name)) = _ :=
    Toml.arranged_of_plain (List.forall_mem_map.mpr fun _ _ => rfl)
  have hlogging : Toml.arranged [("filter", Toml.Value.string s.logFilter)] = _ :=
    Toml.arranged_of_plain (by simp [htext])
  have htable : ∀ entries, (Toml.Value.table entries).hasHeaders = true := fun _ => rfl
  have hlist : (Toml.Value.array rules).hasHeaders = !rules.isEmpty := by
    have hall : rules.all Toml.Value.isTable = true := List.all_eq_true.mpr hrules
    rw [Toml.Value.hasHeaders, hall, Bool.and_true]
  have hrulesValue : (Toml.Block.nodeOf (.array rules)).toValue =
      .array (Toml.tablesToValues (Toml.Block.itemNodes rules)) := by
    rw [Toml.Block.nodeOf, Toml.Node.toValue]
  rw [Toml.arranged_eq]
  cases hempty : rules.isEmpty with
  | true =>
      rw [hempty] at hlist
      simp [tableOf, Toml.Block.plain, Toml.Block.headedNodes, htable, hlist, Toml.entriesToTable,
        Toml.toValue_nodeOf_table, hserver, hbackend, hsuggestions, haliases, hlogging]
      exact List.isEmpty_iff.mp hempty
  | false =>
      rw [hempty] at hlist
      simp [tableOf, Toml.Block.plain, Toml.Block.headedNodes, htable, hlist, Toml.entriesToTable,
        Toml.toValue_nodeOf_table, hserver, hbackend, hsuggestions, haliases, hlogging, hrulesValue]

/-- The document of well-formed settings is read as these settings, also when the
plain entries of each table under headers stand in front. -/
theorem decode_arranged {s : Settings} (hs : s.WellFormed) {table : Toml.Table}
    (h : s.toTable = .ok table) :
    decode fileReading (Toml.Value.table (Toml.arranged table)).document = .ok s := by
  obtain ⟨hbackend, rules, hrules, rfl⟩ := toTable_eq_ok.mp h
  have hlist := decode_rules hs.rules hrules
  rw [arranged_tableOf s (isTable_of_mapM hrules)]
  refine decode_object rfl (by decide) ?_
  -- an empty list of rules has no headers, so it stands in front of all sections
  cases hempty : rules.isEmpty with
  | true =>
      cases List.isEmpty_iff.mp hempty
      refine Fills.cons rfl (by simp) (read_of hlist _) ?_
      refine Fills.cons rfl (by simp) (read_of (decode_listener s.listener) _) ?_
      refine Fills.cons rfl (by simp) (read_of (decode_backend hbackend) _) ?_
      refine Fills.cons rfl (by simp) (read_of (decode_suggestions s.stopwords) _) ?_
      refine Fills.cons rfl (by simp) (read_of (decode_aliases hs.aliases) _) ?_
      exact Fills.cons rfl (by simp) (read_of (decode_logging s.logFilter) _) (Fills.nil rfl)
  | false =>
      refine Fills.cons rfl (by simp) (read_of (decode_listener s.listener) _) ?_
      refine Fills.cons rfl (by simp) (read_of (decode_backend hbackend) _) ?_
      refine Fills.cons rfl (by simp) (read_of (decode_suggestions s.stopwords) _) ?_
      refine Fills.cons rfl (by simp) (read_of (decode_aliases hs.aliases) _) ?_
      refine Fills.cons rfl (by simp) (read_of hlist _) ?_
      exact Fills.cons rfl (by simp) (read_of (decode_logging s.logFilter) _) (Fills.nil rfl)

/-! ## files -/

/- A file is written if its document can be, and read again if the document is not too
deep. The depth is counted in the document, so the condition can be checked before
anything is written. -/

/-- The document of the settings, if they have one, is not too deep to be
read. -/
def Shallow (s : Settings) : Prop := ∀ table, s.toTable = .ok table → Toml.Shallow table

/-- A document is as deep as it is written. -/
theorem shallow_iff {s : Settings} {table : Toml.Table} (h : s.toTable = .ok table) :
    s.Shallow ↔ Toml.Shallow table := by
  constructor
  · exact fun hs => hs table h
  · intro ht other hother
    rw [h] at hother
    cases hother
    exact ht

instance (s : Settings) : Decidable s.Shallow :=
  match h : s.toTable with
  | .ok _ => decidable_of_iff _ (shallow_iff h).symm
  | .error _ => .isTrue fun table htable => by rw [h] at htable; cases htable

/-- Settings are written if they have a document. -/
theorem toToml_eq_ok {s : Settings} {text : String} :
    s.toToml = .ok text ↔ ∃ table, s.toTable = .ok table ∧ Toml.print table = text := by
  rw [toToml, Except.mapError_eq_ok, Except.map_eq_ok]

/-- A text is read by way of its table. -/
theorem ofToml_of_parse? {text : String} {table : Toml.Table} (h : Toml.parse? text = some table)
    {s : Settings} (hs : decode fileReading (Toml.Value.table table).document = .ok s) :
    ofToml text = .ok s := by
  rw [fileReading] at hs
  simp only [ofToml, h]
  rw [hs]
  rfl

theorem ofToml_of_malformed {text : String} (h : Toml.parse? text = none) :
    ofToml text = .error (.config "malformed document") := by
  simp only [ofToml, h]

/-- What is read from the file of well-formed settings. -/
theorem ofToml_of_toToml {s : Settings} (hs : s.WellFormed) {text : String}
    (h : s.toToml = .ok text) :
    ofToml text = if s.Shallow then .ok s else .error (.config "malformed document") := by
  obtain ⟨table, htable, htext⟩ := toToml_eq_ok.mp h
  have hread := Toml.parse?_print (wellFormed_of_toTable hs htable)
  rw [htext] at hread
  by_cases hshallow : Toml.Shallow table
  · rw [if_pos hshallow] at hread
    rw [if_pos ((shallow_iff htable).mpr hshallow)]
    exact ofToml_of_parse? hread (decode_arranged hs htable)
  · rw [if_neg hshallow] at hread
    rw [if_neg fun h => hshallow ((shallow_iff htable).mp h)]
    exact ofToml_of_malformed hread

/-- Settings that were read from a text, a file or JSON. -/
def WasRead (s : Settings) : Prop :=
  (∃ text, ofToml text = .ok s) ∨ ∃ bytes, Json.decodeBytes decode bytes = .ok s

/-- From wherever they were read, settings are well-formed. -/
theorem WasRead.wellFormed {s : Settings} (h : s.WasRead) : s.WellFormed := by
  rcases h with ⟨text, h⟩ | ⟨bytes, h⟩
  · exact wellFormed_of_ofToml h
  · exact wellFormed_of_decodeBytes h

/-- Settings that were read from a text and written to a file are read from this
file again, unless their document is too deep for the reader: then the file
counts as malformed. -/
theorem ofFile_toToml {s : Settings} (hs : s.WasRead) {text : String} (h : s.toToml = .ok text) :
    ofFile (some text) = if s.Shallow then .ok s else .error (.config "malformed document") :=
  ofToml_of_toToml hs.wellFormed h

/-- A file with aliases, and with a rule that promotes an object. -/
def phonesFile : String :=
  "[aliases]\nproducts = \"shop\"\n\n[[rules]]\nindex = \"products\"\n" ++
  "match_term = \"phone\"\nhide = [\"case\"]\n\n[rules.promote]\nids = [1, 2]\n"

/-- The settings in this file. -/
def phones : Settings where
  aliases := [("products", "shop")]
  rules := [{
    index := "products"
    term := "phone"
    promote := some (.object [("ids", .array [.ofNat 1, .ofNat 2])])
    hide := ["case"] }]

/-- The file that they are written to. -/
def phonesWritten : String :=
  "[server]\nhost = \"127.0.0.1\"\nport = 8000\n\n" ++
  "[backend]\nurl = \"http://localhost:9200\"\ntimeout_seconds = 10\n" ++
  "total_timeout_seconds = 30\nmax_retries = 2\nretry_delay_ms = [\n    50,\n    250,\n]\n\n" ++
  "[suggestions]\n\n[aliases]\nproducts = \"shop\"\n\n[[rules]]\nindex = \"products\"\n" ++
  "match_term = \"phone\"\nhide = [\"case\"]\n\n[rules.promote]\nids = [\n    1,\n    2,\n]\n\n" ++
  "[logging]\nfilter = \"info\"\n"

/-- Settings with a rule are written and read again. -/
theorem ofFile_toToml_phones :
    ofToml phonesFile = .ok phones ∧ phones.toToml = .ok phonesWritten ∧
      ofFile (some phonesWritten) = .ok phones := by
  have hread : ofToml phonesFile = .ok phones := by decide +kernel
  have hwritten : phones.toToml = .ok phonesWritten := by decide +kernel
  have hshallow : phones.Shallow := by decide +kernel
  have hfile := ofFile_toToml (.inl ⟨phonesFile, hread⟩) hwritten
  rw [if_pos hshallow] at hfile
  exact ⟨hread, hwritten, hfile⟩

/-- An empty array in `n` arrays. -/
def nestedArray : (n : Nat) → Json
  | 0 => .array []
  | n + 1 => .array [nestedArray n]

/-- Settings with a rule that promotes a hundred nested arrays. -/
def nested : Settings where
  rules := [{ index := "products", term := "phone", promote := some (nestedArray 99), hide := [] }]

/-- These settings as a value. -/
def nestedJson : Json :=
  .object [("rules", .array [.object [
    ("index", .string "products"), ("match_term", .string "phone"),
    ("promote", nestedArray 99)]])]

theorem decodeBytes_nestedJson :
    Json.decodeBytes decode (Text.Utf8.encode nestedJson.compact.toList) = .ok nested := by
  have hnumbers : ∀ n ∈ nestedJson.numbers, n.readBack = some n := by decide +kernel
  have hdecode :
      decode { nesting := some Json.nestingLimit } (.ofJson nestedJson) = .ok nested := by
    decide +kernel
  rw [Json.decodeBytes_compact decode hnumbers]
  exact hdecode

/-- Arrays that JSON can nest are written, and are too deep to be read again. -/
theorem ofFile_toToml_nested :
    Json.decodeBytes decode (Text.Utf8.encode nestedJson.compact.toList) = .ok nested ∧
      ∃ text, nested.toToml = .ok text ∧
        ofFile (some text) = .error (.config "malformed document") := by
  have hread := decodeBytes_nestedJson
  refine ⟨hread, ?_⟩
  have htable : nested.toTable.toOption.isSome = true := by decide +kernel
  obtain ⟨table, htable⟩ := Option.isSome_iff_exists.mp htable
  have htext := toToml_eq_ok.mpr ⟨table, Except.toOption_eq_some.mp htable, rfl⟩
  have hdeep : ¬ nested.Shallow := by decide +kernel
  have hfile := ofToml_of_toToml (wellFormed_of_decodeBytes hread) htext
  rw [if_neg hdeep] at hfile
  exact ⟨_, htext, hfile⟩

end Settings

end SearchRelay.Gateway
