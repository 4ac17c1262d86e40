import PipelineOverride.Files.Configuration
import PipelineOverride.Proofs.Report

/-!
# Loaded settings

Whatever a settings file and the environment say, the settings that are loaded have an output mode
that is allowed where it is used. Everything that is not allowed is replaced by the default.
-/

set_option autoImplicit false

namespace PipelineOverride

variable {environment : Environment} {settings : Settings}

theorem readMode_mem {allowed : List OutputMode} {default : OutputMode}
    (isAllowed : default ∈ allowed) (value : Document) (name : String) :
    (readMode value name allowed default).2 ∈ allowed := by
  rw [readMode]
  split
  · exact isAllowed
  · split
    · rename_i mode found
      obtain ⟨_, contains⟩ := Option.filter_eq_some_iff.1 found
      exact List.contains_iff_mem.1 contains
    · exact isAllowed

/-- Each setting is read by itself, off the environment or a part of the file. -/
theorem Settings.ofParts_eq (environment : Environment) (output logging : Table Document) :
    (ofParts environment output logging).2 =
      { builtinOutput := (readMode (settingValue environment.builtinOutput output "builtin_output")
          "builtin_output" builtinModes .object).2
        standardOutput :=
          (readMode (settingValue environment.standardOutput output "standard_output")
            "standard_output" OutputMode.all .array).2
        logLevel := (readLevel (settingValue environment.logLevel logging "level") .info).2 } := by
  rw [ofParts, outputModes]

theorem Settings.load_none (environment : Environment) :
    (load environment none).outcome = .ok (bundled environment).2 := by
  rw [load]

/-- A document gives settings exactly if its parts have fields and the level can be shown. -/
theorem Settings.ofDocument_eq_ok_iff {document : Document} :
    (ofDocument environment document).outcome = .ok settings ↔
      ∃ fields output logging, (document.orIfVoid (.mapping [])).fields = .ok fields
        ∧ part fields "override" = .ok output ∧ part fields "logging" = .ok logging
        ∧ (settingValue environment.logLevel logging "level").isShown = true
        ∧ (ofParts environment output logging).2 = settings := by
  simp only [ofDocument, Report.outcome_bind, Report.outcome_ofExcept, Except.bind_eq_ok_iff]
  constructor
  · intro read
    obtain ⟨fields, isFields, output, isOutput, logging, isLogging, ends⟩ := read
    split at ends
    · rename_i shown
      exact ⟨fields, output, logging, isFields, isOutput, isLogging, shown, Except.ok.inj ends⟩
    · cases ends
  · intro given
    obtain ⟨fields, output, logging, isFields, isOutput, isLogging, shown, rfl⟩ := given
    refine ⟨fields, isFields, output, isOutput, logging, isLogging, ?_⟩
    rw [if_pos shown]

/-- Settings come from the two parts of a file, or of what stands in for one. -/
theorem Settings.exists_parts_of_load {content : Option (List UInt8)}
    (loaded : (load environment content).outcome = .ok settings) :
    ∃ output logging, settings = (ofParts environment output logging).2 := by
  cases content with
  | none =>
      rw [load_none] at loaded
      exact ⟨_, _, (Except.ok.inj loaded).symm⟩
  | some content =>
      rw [load, Report.outcome_bind, Except.bind_eq_ok_iff] at loaded
      obtain ⟨document, _, read⟩ := loaded
      obtain ⟨_, output, logging, _, _, _, _, isSettings⟩ := ofDocument_eq_ok_iff.1 read
      exact ⟨output, logging, isSettings.symm⟩

/-- No file and no environment make built-in tasks leave as arrays. -/
theorem Settings.load_builtinOutput {content : Option (List UInt8)}
    (loaded : (load environment content).outcome = .ok settings) :
    settings.builtinOutput ∈ builtinModes := by
  obtain ⟨output, logging, rfl⟩ := exists_parts_of_load loaded
  rw [ofParts_eq]
  exact readMode_mem (.head _) _ _

end PipelineOverride
