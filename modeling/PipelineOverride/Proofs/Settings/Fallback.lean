import PipelineOverride.Proofs.Merge.Paths
import PipelineOverride.Proofs.Settings

/-!
# Falling back to defaults

Each setting is the allowed one that the given value names, or its default. A file that can be read
gives settings unless one of its parts is neither void nor a mapping, or the level is a value that
cannot be shown; no default stands in for these.
-/

set_option autoImplicit false

namespace PipelineOverride

/-! ### What is given -/

namespace Document

/-- Whether a document can stand for fields: it is void or a mapping. -/
def isSection (document : Document) : Bool :=
  document.isVoid || document.fields?.isSome

/-- What a document has at a path of names, null where there is nothing. -/
def valueAt (document : Document) (path : List String) : Document :=
  (document.at? (path.map .text)).getD .null

/-- The whole document and the two parts that settings are looked up in can stand for fields. -/
structure IsSettingsFile (document : Document) : Prop where
  whole : document.isSection = true
  output : (document.valueAt ["override"]).isSection = true
  logging : (document.valueAt ["logging"]).isSection = true

end Document

/-- The value that is given for a setting: the variable if it is set, else what the file has under
a name in one of its parts. -/
def givenValue (setting : Option String) (document : Document) (path : List String) : Document :=
  match setting with
  | some s => .text s
  | none => document.valueAt path

/-- All levels that can be set. -/
def Level.all : List Level := [.debug, .info, .warning, .error, .critical]

/-- The setting that a value chooses among those that are allowed: the one it names, else the
default. The blanks around the name and the case of its letters do not matter. -/
structure Chooses {α : Type} (value : Document) (foldCase : String → String) (name : α → String)
    (allowed : List α) (default chosen : α) : Prop where
  isAllowed : chosen ∈ allowed
  named : ∀ setting ∈ allowed,
    foldCase (Text.trim value.display) = foldCase (name setting) → chosen = setting
  otherwise : (∀ setting ∈ allowed,
    foldCase (Text.trim value.display) ≠ foldCase (name setting)) → chosen = default

/-! ### Reading one setting -/

section Reading

variable {α : Type} {value : Document} {foldCase : String → String} {name : α → String}
  {allowed : List α} {default : α} {found : Option α}

theorem Chooses.of_unnamed (isAllowed : default ∈ allowed) (unnamed : ∀ setting ∈ allowed,
    foldCase (Text.trim value.display) ≠ foldCase (name setting)) :
    Chooses value foldCase name allowed default default :=
  ⟨isAllowed, fun setting member same => absurd same (unnamed setting member), fun _ => rfl⟩

/-- A lookup that finds exactly the allowed setting of a name makes the choice. -/
theorem Chooses.of_lookup (isAllowed : default ∈ allowed)
    (finds : ∀ setting, found = some setting ↔
      setting ∈ allowed ∧ foldCase (Text.trim value.display) = foldCase (name setting)) :
    Chooses value foldCase name allowed default (found.getD default) := by
  cases found with
  | none =>
      refine .of_unnamed isAllowed fun setting member same => ?_
      cases (finds setting).2 ⟨member, same⟩
  | some setting =>
      obtain ⟨member, same⟩ := (finds setting).1 rfl
      refine ⟨member, fun other otherMember otherSame => ?_, fun unnamed => ?_⟩
      · exact Option.some.inj ((finds other).2 ⟨otherMember, otherSame⟩)
      · exact absurd same (unnamed setting member)

theorem OutputMode.ofName?_eq_some_iff {s : String} {mode : OutputMode} :
    ofName? s = some mode ↔ s = mode.name := by
  constructor
  · intro found
    unfold ofName? at found
    split at found <;> cases found <;> rfl
  · rintro rfl
    cases mode <;> rfl

theorem Level.ofName?_eq_some_iff {s : String} {level : Level} :
    ofName? s = some level ↔ s = level.name := by
  constructor
  · intro found
    unfold ofName? at found
    split at found <;> cases found <;> rfl
  · rintro rfl
    cases level <;> rfl

theorem OutputMode.lower_name (mode : OutputMode) : Text.lower mode.name = mode.name := by
  cases mode <;> decide +kernel

theorem Level.upper_name (level : Level) : Text.upper level.name = level.name := by
  cases level <;> decide +kernel

theorem Document.eq_null_of_isNull (isNull : value.isNull = true) : value = .null := by
  cases value with
  | scalar scalar =>
      cases scalar with
      | null => rfl
      | _ => cases isNull
  | _ => cases isNull

/-- Nothing is named by the text of the absent value. -/
theorem mode_ne_null (mode : OutputMode) :
    Text.lower (Text.trim Document.null.display) ≠ Text.lower mode.name := by
  cases mode <;> decide +kernel

theorem level_ne_null (level : Level) :
    Text.upper (Text.trim Document.null.display) ≠ Text.upper level.name := by
  cases level <;> decide +kernel

theorem readMode_chooses {allowed : List OutputMode} {default : OutputMode}
    (isAllowed : default ∈ allowed) (value : Document) (name : String) :
    Chooses value Text.lower OutputMode.name allowed default
      (readMode value name allowed default).2 := by
  by_cases isNull : value.isNull = true
  · obtain rfl := Document.eq_null_of_isNull isNull
    exact .of_unnamed isAllowed fun mode _ => mode_ne_null mode
  · have read : (readMode value name allowed default).2 =
        ((OutputMode.ofName? (Text.lower (Text.trim value.display))).filter
          allowed.contains).getD default := by
      rw [readMode, if_neg isNull]
      cases (OutputMode.ofName? _).filter allowed.contains <;> rfl
    rw [read]
    refine .of_lookup isAllowed fun mode => ?_
    rw [Option.filter_eq_some_iff, OutputMode.ofName?_eq_some_iff, OutputMode.lower_name,
      List.contains_iff_mem, and_comm]

theorem readLevel_chooses (value : Document) :
    Chooses value Text.upper Level.name Level.all .info (readLevel value .info).2 := by
  have isAllowed : ∀ level, level ∈ Level.all := by
    intro level
    cases level <;> decide
  by_cases isNull : value.isNull = true
  · obtain rfl := Document.eq_null_of_isNull isNull
    exact .of_unnamed (isAllowed .info) fun level _ => level_ne_null level
  · have read : (readLevel value .info).2 =
        (Level.ofName? (Text.upper (Text.trim value.display))).getD .info := by
      rw [readLevel, if_neg isNull]
      cases Level.ofName? _ <;> rfl
    rw [read]
    refine .of_lookup (isAllowed .info) fun level => ?_
    rw [Level.ofName?_eq_some_iff, Level.upper_name]
    exact (and_iff_right (isAllowed level)).symm

end Reading

/-! ### The parts of a file -/

/-- The fields that a document stands for, none for a void one. -/
def Document.StandsFor (document : Document) (fields : Table Document) : Prop :=
  (document.orIfVoid (.mapping [])).fields = .ok fields

section Parts

variable {document : Document} {fields inner : Table Document}

theorem Document.standsFor_iff : document.StandsFor fields ↔
    document.isVoid = true ∧ fields = [] ∨ document = .mapping fields := by
  rw [StandsFor, orIfVoid]
  by_cases isVoid : document.isVoid = true
  · rw [if_pos isVoid]
    constructor
    · intro stands
      cases stands
      exact .inl ⟨isVoid, rfl⟩
    · rintro (⟨_, rfl⟩ | rfl)
      · rfl
      · cases fields with
        | nil => rfl
        | cons _ _ => cases isVoid
  · rw [if_neg isVoid]
    constructor
    · intro stands
      cases document with
      | mapping own =>
          cases stands
          exact .inr rfl
      | _ => cases stands
    · rintro (⟨given, _⟩ | rfl)
      · exact absurd given isVoid
      · rfl

theorem Document.isSection_iff :
    document.isSection = true ↔ ∃ fields, document.StandsFor fields := by
  simp only [standsFor_iff, isSection, Bool.or_eq_true]
  constructor
  · rintro (isVoid | isMapping)
    · exact ⟨[], .inl ⟨isVoid, rfl⟩⟩
    · obtain ⟨fields, isFields⟩ := exists_eq_mapping isMapping
      exact ⟨fields, .inr isFields⟩
  · rintro ⟨fields, ⟨isVoid, _⟩ | rfl⟩
    · exact .inl isVoid
    · exact .inr rfl

/-- The fields that a document stands for lead where the document leads. -/
theorem Document.StandsFor.lookup (stands : document.StandsFor fields) (key : Scalar) :
    fields.lookup key = document.child? key := by
  rcases standsFor_iff.1 stands with ⟨isVoid, rfl⟩ | rfl
  · cases document with
    | mapping own =>
        cases own with
        | nil => rfl
        | cons _ _ => cases isVoid
    | _ => rfl
  · rfl

theorem Document.StandsFor.getD (stands : document.StandsFor fields) (name : String) :
    fields.getD name .null = document.valueAt [name] := by
  rw [Table.getD, Table.get?, stands.lookup, valueAt, List.map_singleton, at?]
  cases document.child? (.text name) <;> rfl

theorem Settings.part_eq_ok_iff (stands : document.StandsFor fields) {name : String} :
    Settings.part fields name = .ok inner ↔ (document.valueAt [name]).StandsFor inner := by
  rw [part, stands.getD, Document.StandsFor]

theorem Document.valueAt_cons (document : Document) (name : String) (path : List String) :
    document.valueAt (name :: path) = (document.valueAt [name]).valueAt path := by
  simp only [valueAt, List.map_cons, List.map_nil, at?]
  cases document.child? (.text name) with
  | some child => rfl
  | none => cases path <;> rfl

theorem settingValue_eq {part : String}
    (stands : (document.valueAt [part]).StandsFor inner) (setting : Option String) (name : String) :
    settingValue setting inner name = givenValue setting document [part, name] := by
  cases setting with
  | some s => rfl
  | none => rw [settingValue, givenValue, stands.getD, ← Document.valueAt_cons]

end Parts

/-! ### Settings files -/

/-- Whatever a settings file holds and the environment says, each setting is the allowed one that
the given value names, or the default. The file gives settings exactly if its parts are void or
mappings and the given level can be shown. -/
theorem settings_fall_back_iff {content : List UInt8} {document : Document}
    (parses : readYamlFile content = .ok document) (environment : Environment) :
    ((∃ settings, (Settings.load environment (some content)).outcome = .ok settings)
        ↔ document.IsSettingsFile
          ∧ (givenValue environment.logLevel document ["logging", "level"]).isShown = true)
      ∧ ∀ settings, (Settings.load environment (some content)).outcome = .ok settings →
        Chooses (givenValue environment.builtinOutput document ["override", "builtin_output"])
            Text.lower OutputMode.name builtinModes .object settings.builtinOutput
          ∧ Chooses (givenValue environment.standardOutput document ["override", "standard_output"])
            Text.lower OutputMode.name OutputMode.all .array settings.standardOutput
          ∧ Chooses (givenValue environment.logLevel document ["logging", "level"])
            Text.upper Level.name Level.all .info settings.logLevel := by
  have loads : ∀ settings, (Settings.load environment (some content)).outcome = .ok settings
      ↔ (Settings.ofDocument environment document).outcome = .ok settings := by
    intro settings
    rw [Settings.load, Report.outcome_bind, Report.outcome_ofExcept, parses, Except.ok_bind]
  simp only [loads, Settings.ofDocument_eq_ok_iff]
  constructor
  · constructor
    · intro given
      obtain ⟨_, fields, output, logging, stands, isOutput, isLogging, shown, _⟩ := given
      rw [Settings.part_eq_ok_iff stands] at isOutput isLogging
      rw [settingValue_eq isLogging] at shown
      have whole := Document.isSection_iff.2 ⟨fields, stands⟩
      have outputPart := Document.isSection_iff.2 ⟨output, isOutput⟩
      have loggingPart := Document.isSection_iff.2 ⟨logging, isLogging⟩
      exact ⟨⟨whole, outputPart, loggingPart⟩, shown⟩
    · intro given
      obtain ⟨⟨whole, isOutput, isLogging⟩, shown⟩ := given
      obtain ⟨fields, stands⟩ := Document.isSection_iff.1 whole
      obtain ⟨output, isOutput⟩ := Document.isSection_iff.1 isOutput
      obtain ⟨logging, isLogging⟩ := Document.isSection_iff.1 isLogging
      rw [← settingValue_eq isLogging] at shown
      exact ⟨_, fields, output, logging, stands, (Settings.part_eq_ok_iff stands).2 isOutput,
        (Settings.part_eq_ok_iff stands).2 isLogging, shown, rfl⟩
  · intro settings given
    obtain ⟨fields, output, logging, stands, isOutput, isLogging, _, rfl⟩ := given
    rw [Settings.part_eq_ok_iff stands] at isOutput isLogging
    simp only [Settings.ofParts_eq, settingValue_eq isOutput, settingValue_eq isLogging]
    exact ⟨readMode_chooses (.head _) _ _, readMode_chooses (.head _) _ _, readLevel_chooses _⟩

/-- A settings file whose mode for built-in tasks is spelt loosely and whose other mode is none. -/
def looseFile : List UInt8 :=
  "override:\n  builtin_output: ' Wrapped '\n  standard_output: flat\n".toUTF8.toList

theorem looseFile_falls_back :
    ∃ settings, (Settings.load { logLevel := some "warning " } (some looseFile)).outcome
        = .ok settings
      ∧ settings.builtinOutput = .wrapped ∧ settings.standardOutput = .array
      ∧ settings.logLevel = .warning := by
  have read : (readYamlFile looseFile).toOption.map (fun document =>
      ((document.isSection, (document.valueAt ["override"]).isSection,
          (document.valueAt ["logging"]).isSection),
        (document.valueAt ["override", "builtin_output"]).display,
        (document.valueAt ["override", "standard_output"]).display))
      = some ((true, true, true), " Wrapped ", "flat") := by decide +kernel
  obtain ⟨document, isDocument, facts⟩ := Option.map_eq_some_iff.1 read
  simp only [Prod.mk.injEq] at facts
  obtain ⟨⟨whole, output, logging⟩, builtin, standard⟩ := facts
  have parses : readYamlFile looseFile = .ok document := Except.toOption_eq_some_iff.1 isDocument
  obtain ⟨returns, chooses⟩ := settings_fall_back_iff parses { logLevel := some "warning " }
  obtain ⟨settings, loaded⟩ := returns.2 ⟨⟨whole, output, logging⟩, rfl⟩
  obtain ⟨choosesBuiltin, choosesStandard, choosesLevel⟩ := chooses settings loaded
  refine ⟨settings, loaded, choosesBuiltin.named .wrapped (by decide) ?_,
    choosesStandard.otherwise ?_, choosesLevel.named .warning (by decide) ?_⟩
  · rw [givenValue, builtin]
    decide +kernel
  · rw [givenValue, standard]
    decide +kernel
  · rw [givenValue]
    decide +kernel

/-- A settings file that is a list. -/
def listFile : List UInt8 := "- override".toUTF8.toList

/-- A file that can be read gives no settings at all, whatever the environment says. -/
theorem listFile_gives_no_settings :
    (∃ document, readYamlFile listFile = .ok document)
      ∧ ∀ environment, (Settings.load environment (some listFile)).outcome = .error .noFields := by
  have read : (readYamlFile listFile).toOption.map (fun document =>
      (document.isVoid, document.fields?.isSome)) = some (false, false) := by decide +kernel
  obtain ⟨document, isDocument, facts⟩ := Option.map_eq_some_iff.1 read
  simp only [Prod.mk.injEq, Option.isSome_eq_false_iff, Option.isNone_iff_eq_none] at facts
  have parses : readYamlFile listFile = .ok document := Except.toOption_eq_some_iff.1 isDocument
  refine ⟨⟨document, parses⟩, fun environment => ?_⟩
  have noFields : (document.orIfVoid (.mapping [])).fields = .error .noFields := by
    rw [Document.orIfVoid, facts.1, if_neg Bool.false_ne_true, Document.fields, facts.2]
  simp only [Settings.load, Settings.ofDocument, Report.outcome_bind, Report.outcome_ofExcept,
    parses, Except.ok_bind, noFields, Except.error_bind]

end PipelineOverride
