-- SUMMARY: The two checks of the log level on the command line agree exactly on texts that are written as the first one reads them.
import Mathlib.Data.List.Basic
import ControlDependence.Tool.Execute

/-!
# The log level on the command line

The level that the command line gives is checked twice. Setting up reads it in any case and
with blanks around it, and a blank one as `info`; the configuration that the analysis is run
with has to have one of the names as they stand. The text goes from the one to the other
unchanged, so the second check refuses every spelling that the first had to put right.
-/
namespace ControlDependence

namespace Log.Level

/-- Names are written as they are read. -/
theorem lower_trim_of_mem {t : String} (h : t ∈ Config.levels) : Text.lower (Text.trim t) = t := by
  have hall : ∀ t ∈ Config.levels, Text.lower (Text.trim t) = t := by decide +kernel
  exact hall t h

theorem exists_parse_iff {t : String} :
    (∃ level, parse t = .ok level) ↔ Text.lower (Text.trim t) ∈ "" :: Config.levels := by
  unfold parse
  split <;> simp_all [Config.levels]

/-- Of the texts that are read as a level, the names are those that are read as they stand. -/
theorem mem_levels_iff {t : String} {level : Level} (ht : t ≠ "") (h : parse t = .ok level) :
    t ∈ Config.levels ↔ Text.lower (Text.trim t) = t := by
  refine ⟨lower_trim_of_mem, ?_⟩
  intro heq
  have hmem := exists_parse_iff.1 ⟨level, h⟩
  rw [heq, List.mem_cons] at hmem
  exact hmem.resolve_left ht

end Log.Level

namespace Tool

open CommandLine (Arguments)

variable {h : Host} {a : Arguments} {c c' : Config} {s : Setup} {t : String}

/-! ## Replacing the level -/

theorem withLevel_eq (c : Config) (ht : t ≠ "") :
    withLevel c t = { c with logging := { c.logging with level := t } } := by
  unfold withLevel
  rw [if_neg]
  simpa using ht

theorem effective_withLevel (c : Config) (a : Arguments) (t : String) :
    effective (withLevel c t) a = withLevel (effective c a) t := by
  unfold withLevel
  split <;> rfl

theorem normalize_withLevel (c : Config) (t : String) : (withLevel c t).normalize = withLevel c.normalize t := by
  unfold withLevel Config.normalize
  split
  · rfl
  · dsimp only
    split <;> rfl

/-- The level is checked apart from everything else. -/
theorem validate_withLevel (ht : t ≠ "") (h : c.validate = .ok c') :
    (withLevel c t).validate =
      if t ∈ Config.levels then .ok (withLevel c' t) else .error (.invalid [⟨"Logging.Level", "oneof", t⟩]) := by
  have hvalid : c.normalize.violations = [] ∧ c' = c.normalize := by
    unfold Config.validate at h
    split at h
    · rename_i hnil
      exact ⟨hnil, (Except.ok.inj h).symm⟩
    · cases h
  obtain ⟨hnil, rfl⟩ := hvalid
  simp only [Config.violations, List.append_eq_nil_iff] at hnil
  obtain ⟨⟨⟨hanalysis, -⟩, htelemetry⟩, hreport⟩ := hnil
  have hviolations : (withLevel c.normalize t).violations = Config.oneOf "Logging.Level" Config.levels t := by
    rw [withLevel_eq _ ht]
    simp [Config.violations, Config.Logging.violations, hanalysis, htelemetry, hreport]
  rw [Config.validate, normalize_withLevel, hviolations, Config.oneOf, Config.require, List.contains_eq_mem]
  by_cases hmem : t ∈ Config.levels
  · simp [hmem]
  · simp [hmem]

/-! ## Setting up -/

section Loaded

variable (hload : (Config.load h.disk (a.text "config") h.environment).1 = .ok c)
  (hflag : a.text "log-level" = t)

include hload hflag

theorem configure_eq :
    configure h a = ((Log.Level.parse (withLevel c t).logging.level).mapError .level).map (withLevel c t, ·) := by
  unfold configure
  rw [hload, hflag]
  simp only [Except.mapError, bind, Except.bind]
  cases Log.Level.parse (withLevel c t).logging.level <;> rfl

theorem exists_setup_iff (ht : t ≠ "") : (∃ s, setup h a = .ok s) ↔ ∃ level, Log.Level.parse t = .ok level := by
  unfold setup
  rw [configure_eq hload hflag, withLevel_eq c ht]
  cases Log.Level.parse t <;> simp [bind, Except.bind, Except.mapError, Except.map, pure, Except.pure]

theorem config_of_setup (hs : setup h a = .ok s) : s.config = withLevel c t := by
  unfold setup at hs
  rw [configure_eq hload hflag] at hs
  cases hparse : Log.Level.parse (withLevel c t).logging.level with
  | error e =>
    rw [hparse] at hs
    cases hs
  | ok level =>
    rw [hparse] at hs
    cases hs
    rfl

end Loaded

/-- An analysis whose configuration is refused does nothing. -/
theorem runCommand_of_invalid {command : CommandLine.Command} {e : ConfigError} (hs : setup h a = .ok s)
    (hpath : command.path = ["cdeps"]) (he : (effective s.config a).validate = .error e) :
    runCommand h command a = { failure := some (.config e), logged := true, logPath := s.logPath } := by
  have hanalyze : analyze h s a {} = (some (.config e), {}) := by
    unfold analyze
    rw [he]
  unfold runCommand
  rw [hs]
  simp only [hpath, hanalyze]

/-- Let the flags of an analysis be in order but for a log level that is not empty. It is set up
if the level can be read, in any case and with blanks around it. The configuration is then
refused unless the level is written as it is read. -/
theorem level_accepted_twice_iff (h : Host) (a : Arguments) (c c' : Config) (t : String)
    (hload : (Config.load h.disk (a.text "config") h.environment).1 = .ok c)
    (hflags : (effective c a).validate = .ok c') (hflag : a.text "log-level" = t) (ht : t ≠ "") :
    ((∃ s, setup h a = .ok s) ↔ Text.lower (Text.trim t) ∈ "" :: Config.levels) ∧
    ∀ s, setup h a = .ok s →
      (Text.lower (Text.trim t) = t → (effective s.config a).validate = .ok (withLevel c' t)) ∧
      (Text.lower (Text.trim t) ≠ t →
        (effective s.config a).validate = .error (.invalid [⟨"Logging.Level", "oneof", t⟩]) ∧
        ∀ command : CommandLine.Command, command.path = ["cdeps"] →
          (runCommand h command a).output = {} ∧
          (runCommand h command a).failure = some (.config (.invalid [⟨"Logging.Level", "oneof", t⟩]))) := by
  have hsetup := exists_setup_iff hload hflag ht
  refine ⟨hsetup.trans Log.Level.exists_parse_iff, ?_⟩
  intro s hs
  obtain ⟨level, hlevel⟩ := hsetup.1 ⟨s, hs⟩
  have hnormal := Log.Level.mem_levels_iff ht hlevel
  have hcheck := validate_withLevel ht hflags
  rw [← effective_withLevel, ← config_of_setup hload hflag hs] at hcheck
  constructor
  · intro heq
    rw [hcheck, if_pos (hnormal.2 heq)]
  · intro hne
    rw [if_neg fun hmem => hne (hnormal.1 hmem)] at hcheck
    refine ⟨hcheck, ?_⟩
    intro command hpath
    rw [runCommand_of_invalid hs hpath hcheck]
    exact ⟨rfl, rfl⟩

/-- A host without files, variables and packages. -/
def bareHost : Host where
  environment := []
  disk := ⟨"", "", fun _ => .missing⟩
  processors := 1
  runId := ""
  date := ""
  canLog _ := false
  freePort := 0
  load _ := .ok []
  stdout := {}

/-- Nothing but a log level on the command line. -/
def levelOnly (t : String) : Arguments := { values := [("log-level", t)] }

theorem load_bareHost (t : String) :
    (Config.load bareHost.disk ((levelOnly t).text "config") bareHost.environment).1 = .ok {} := by
  have hload : (Config.load bareHost.disk "" []).1.toOption = some {} := by decide +kernel
  change (Config.load bareHost.disk "" []).1 = .ok {}
  cases hresult : (Config.load bareHost.disk "" []).1 with
  | error e =>
    rw [hresult] at hload
    cases hload
  | ok c =>
    rw [hresult] at hload
    cases hload
    rfl

theorem validate_levelOnly (t : String) : (effective {} (levelOnly t)).validate = .ok {} := rfl

/-- A level in capitals sets the tool up, and then it alone has the analysis refused. -/
theorem level_refused_in_capitals :
    (Config.load bareHost.disk ((levelOnly "WARN").text "config") bareHost.environment).1 = .ok {} ∧
      (effective {} (levelOnly "WARN")).validate = .ok {} ∧
      ∃ s, setup bareHost (levelOnly "WARN") = .ok s ∧
        (effective s.config (levelOnly "WARN")).validate = .error (.invalid [⟨"Logging.Level", "oneof", "WARN"⟩]) := by
  obtain ⟨s, hs⟩ := (exists_setup_iff (load_bareHost "WARN") rfl (by decide)).2
    (Log.Level.exists_parse_iff.2 (by decide +kernel))
  refine ⟨load_bareHost "WARN", validate_levelOnly "WARN", s, hs, ?_⟩
  rw [config_of_setup (load_bareHost "WARN") rfl hs, effective_withLevel,
    validate_withLevel (by decide) (validate_levelOnly "WARN")]
  rfl

theorem level_accepted_twice_levelOnly :
    (∃ s, setup bareHost (levelOnly "warning") = .ok s ∧
      (effective s.config (levelOnly "warning")).validate = .ok (withLevel {} "warning")) ∧
    ∃ s, setup bareHost (levelOnly "\tError ") = .ok s ∧
      (effective s.config (levelOnly "\tError ")).validate =
        .error (.invalid [⟨"Logging.Level", "oneof", "\tError "⟩]) := by
  constructor
  · obtain ⟨hsetup, hcheck⟩ := level_accepted_twice_iff bareHost (levelOnly "warning") {} {} "warning"
      (load_bareHost _) (validate_levelOnly _) rfl (by decide)
    obtain ⟨s, hs⟩ := hsetup.2 (by decide +kernel)
    exact ⟨s, hs, (hcheck s hs).1 (by decide +kernel)⟩
  · obtain ⟨hsetup, hcheck⟩ := level_accepted_twice_iff bareHost (levelOnly "\tError ") {} {} "\tError "
      (load_bareHost _) (validate_levelOnly _) rfl (by decide)
    obtain ⟨s, hs⟩ := hsetup.2 (by decide +kernel)
    exact ⟨s, hs, ((hcheck s hs).2 (by decide +kernel)).1⟩

end Tool

end ControlDependence
