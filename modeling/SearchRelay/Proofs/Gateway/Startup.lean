import SearchRelay.Gateway.Server
import SearchRelay.Proofs.Alias.Table
import SearchRelay.Proofs.Gateway.Persistence

/-!
# SearchRelay.Proofs.Gateway.Startup

Valid settings start a gateway.

1. `check_eq_ok_iff` — what the check of settings finds to be in order;
2. `firstRepeated?_eq_none_iff` — its search for an alias that is assigned twice
   finds one if there is one;
3. the aliases of settings are sorted by their indices, so no index occurs twice
   (`WasRead.nodup_indices`), and the check leaves nothing for the table to refuse
   (`aliasTable_of_check`).

`gateway_of_check` puts these together with what is known of tables.
-/

namespace SearchRelay.Gateway

namespace Settings

/-! ## what the check finds -/

/-- No name is found a second time just if all are distinct and new. -/
theorem firstRepeated?_eq_none_iff {seen names : List String} :
    firstRepeated? seen names = none ↔ names.Nodup ∧ ∀ name ∈ names, name ∉ seen := by
  induction names generalizing seen with
  | nil => simp [firstRepeated?]
  | cons name names ih =>
      rw [firstRepeated?, List.nodup_cons, List.forall_mem_cons]
      split
      · next hseen => exact iff_of_false nofun fun h => h.2.1 hseen
      · next hseen =>
        rw [ih]
        constructor
        · rintro ⟨hnodup, hrest⟩
          have hname : name ∉ names := fun hmem => hrest name hmem List.mem_cons_self
          exact ⟨⟨hname, hnodup⟩, hseen,
            fun other hother hmem => hrest other hother (List.mem_cons_of_mem _ hmem)⟩
        · rintro ⟨⟨hname, hnodup⟩, -, hrest⟩
          refine ⟨hnodup, fun other hother hmem => ?_⟩
          rcases List.mem_cons.mp hmem with rfl | hmem
          · exact hname hother
          · exact hrest other hother hmem

/-- Settings pass the check if no part of it finds a fault. -/
theorem check_eq_ok_iff {s : Settings} :
    s.check = .ok () ↔ (∃ base, s.backend.check = .ok base) ∧
      ¬ Text.allBlank s.listener.host ∧ (s.aliases.map Prod.snd).Nodup ∧
      ruleFault? 0 s.rules = none ∧ ¬ (s.stopwords.getD []).any Text.allBlank := by
  have hnodup : (s.aliases.map Prod.snd).Nodup ↔
      firstRepeated? [] (s.aliases.map Prod.snd) = none := by
    simp [firstRepeated?_eq_none_iff]
  rw [check, Except.bind_eq_ok, hnodup]
  simp only [Except.mapError_eq_ok, exists_and_right]
  refine and_congr_right fun _ => ?_
  -- each check either throws or goes on to the next one
  by_cases hhost : Text.allBlank s.listener.host = true
  · simp [hhost, Except.bind_eq_ok]
  · cases hname : firstRepeated? [] (s.aliases.map Prod.snd) with
    | some name => simp [hhost, Except.bind_eq_ok]
    | none =>
        cases hrule : ruleFault? 0 s.rules with
        | some fault => simp [hhost, Except.bind_eq_ok]
        | none =>
            by_cases hword : (s.stopwords.getD []).any Text.allBlank = true
            · simp [hhost, hword]
            · simp [hhost, hword]

/-! ## what valid settings stand for -/

/-- No index occurs twice in settings that were read. -/
theorem WasRead.nodup_indices {s : Settings} (h : s.WasRead) : (s.aliases.map Prod.fst).Nodup :=
  h.wellFormed.aliases.imp fun hlt => String.ne_of_lt hlt

variable {s : Settings} (hindices : (s.aliases.map Prod.fst).Nodup) (hcheck : s.check = .ok ())
include hcheck

/-- The backend of valid settings has an address. -/
theorem backend_of_check : ∃ b, Backend.ofSettings s.backend = .ok b := by
  obtain ⟨base, hbase⟩ := (check_eq_ok_iff.mp hcheck).1
  exact ⟨⟨s.backend, base⟩, Except.map_eq_ok.mpr ⟨base, hbase, rfl⟩⟩

include hindices

/-- Where the check finds no alias twice, neither does the table. -/
theorem aliasTable_of_check : ∃ t, s.aliasTable = .ok t ∧ t.Relates s.aliases := by
  have haliases := (check_eq_ok_iff.mp hcheck).2.2.1
  obtain ⟨t, ht⟩ := (Alias.Table.law_ofPairs s.aliases).made.mpr ⟨hindices, haliases⟩
  exact ⟨t, ht, Alias.Table.relates_of_ofPairs ht⟩

end Settings

open Alias (Table)

/-- **Tables of aliases are one to one, and valid settings start a gateway.**

A list of pairs makes a table exactly if no index and no alias occurs twice; then
the table finds the pairs of the list in either direction and nothing else, and
otherwise the first pair that repeats an alias or an index is reported.

Settings in which no index occurs twice, as in all that were read, and which pass
the check stand for such a table, for a backend, and for a gateway with both. -/
theorem gateway_of_check :
    (∀ pairs, Table.Law pairs) ∧
      (∀ s : Settings, (s.aliases.map Prod.fst).Nodup → s.check = .ok () →
        (∃ t, s.aliasTable = .ok t ∧ t.Relates s.aliases) ∧
          (∃ b, Backend.ofSettings s.backend = .ok b) ∧
          ∃ g, Gateway.ofSettings s = .ok g ∧ g.service.aliases.Relates s.aliases) ∧
      ∀ s : Settings, s.WasRead → (s.aliases.map Prod.fst).Nodup := by
  refine ⟨Table.law_ofPairs, fun s hindices hcheck => ?_, fun s hs => hs.nodup_indices⟩
  obtain ⟨t, ht, hrelates⟩ := Settings.aliasTable_of_check hindices hcheck
  obtain ⟨b, hb⟩ := Settings.backend_of_check hcheck
  refine ⟨⟨t, ht, hrelates⟩, ⟨b, hb⟩, ⟨⟨b, t, s.commonStopwords⟩, ⟨s.rules⟩⟩, ?_, hrelates⟩
  rw [ofSettings, hcheck, hb, ht]
  rfl

/-- Settings where the alias of an index is another index, all the way round. -/
def circleSettings : Settings where
  backend := { url := "http://[::1]:9200" }
  aliases := [("a", "b"), ("b", "c"), ("c", "a")]

/-- The file with these settings. -/
def circleFile : String :=
  "[backend]\nurl = \"http://[::1]:9200\"\n\n[aliases]\na = \"b\"\nb = \"c\"\nc = \"a\"\n"

/-- Aliases in a circle are read, pass the check and make a table. -/
theorem gateway_of_check_circle :
    Settings.ofToml circleFile = .ok circleSettings ∧ circleSettings.check = .ok () ∧
      (∃ g, Gateway.ofSettings circleSettings = .ok g ∧
        g.service.aliases.aliasOf? "b" = some "c" ∧ g.service.aliases.indexOf? "b" = some "a") ∧
      (Table.ofPairs [("a", "b"), ("c", "b"), ("a", "d")]).mapError Alias.Fault.error =
        .error (.config "alias `b` is assigned to more than one index") ∧
      (Table.ofPairs [("a", "b"), ("b", "a"), ("a", "d")]).mapError Alias.Fault.error =
        .error (.config "index `a` has more than one alias") := by
  have hread : Settings.ofToml circleFile = .ok circleSettings := by decide +kernel
  have hcheck : circleSettings.check = .ok () := rfl
  obtain ⟨hlaw, hstart, hindices⟩ := gateway_of_check
  obtain ⟨-, -, g, hg, hrelates⟩ :=
    hstart circleSettings (hindices _ (.inl ⟨circleFile, hread⟩)) hcheck
  refine ⟨hread, hcheck, ⟨g, hg, (hrelates.aliasOf "b" "c").mpr (by decide),
    (hrelates.indexOf "a" "b").mpr (by decide)⟩, ?_, ?_⟩
  · exact ((hlaw _).refused _).mpr ⟨.aliasTaken "b", @Table.FirstFault.aliasTaken _ [("a", "b")]
      [("a", "d")] "c" "b" rfl ⟨by decide, by decide⟩ (by decide), rfl⟩
  · exact ((hlaw _).refused _).mpr ⟨.indexTaken "a", @Table.FirstFault.indexTaken _
      [("a", "b"), ("b", "a")] [] "a" "d" rfl ⟨by decide, by decide⟩ (by decide) (by decide), rfl⟩

end SearchRelay.Gateway
