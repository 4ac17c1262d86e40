import PipelineOverride.Proofs.Compilation.Isolation
import PipelineOverride.Proofs.Substitution.Literals
import PipelineOverride.Proofs.Validation.TimePattern

/-!
# Verified times and the task that waits

What the task that waits compiles to when a time is entered that its pattern lets through. The time
is filled in as an integer where it is written in ASCII digits and within the range of
floating-point numbers. A larger integer makes compilation fail, and a time in the digits of another
script, or in more digits than are read, drops the fragment with a warning.
-/

set_option autoImplicit false

namespace PipelineOverride

open Text (isAsciiDigit)
open Json (WritesInteger)

theorem renderFragments_singleton (fragment : Fragment) :
    renderFragments [fragment] = fragment.render >>= fun first => .done first.toList := by
  simp only [renderFragments, Report.done_bind, List.append_nil]
  rfl

theorem report_singleton (fragment : Fragment) :
    Event.report [.fragment fragment] = .done [fragment] := rfl

namespace Bundled

/-- The task that waits. -/
def sleepTask : Task :=
  customTask "__TASKDECK_SLEEP__" "TASKDECK_SLEEP" "builtin.sleep.label"
    ["__TASKDECK_SLEEP_OPTION__"]

/-- A selected task is the one that waits, and a text is entered for the time. -/
structure EntersTime (selected : SelectedTask) (s : String) : Prop where
  task : selected.taskName = sleepTask.name
  entered : ∃ values, selected.values.lookup sleepSite.id = some (.input values)
    ∧ values.get? sleepSlot.name = some (.text s)

/-- The override of the task that waits in one document, with what is filled in for the time. -/
def sleepMerged (time : Option Document) : Document :=
  .object [("TASKDECK_SLEEP", .object ([("action", .text "Custom"),
    ("custom_action", .text "TASKDECK_SLEEP_ACTION")]
      ++ time.toList.map fun time => ("custom_action_param", .object [("sleep_time", time)])))]

/-- The override of the task that waits in an output mode. -/
def sleepOverride (time : Option Document) : OutputMode → Document
  | .array => .list (sleepMerged none
      :: time.toList.map fun time => parameters "TASKDECK_SLEEP" [("sleep_time", time)])
  | .object => sleepMerged time
  | .wrapped => .list [sleepMerged time]

variable {selected : SelectedTask} {s : String}

theorem emit_sleep (time : Option Document) (mode : OutputMode) :
    emit (time.toList.map fun time => parameters "TASKDECK_SLEEP" [("sleep_time", time)])
      sleepTask.override mode = .ok (sleepOverride time mode) := by
  cases time <;> cases mode <;> rfl

theorem sleepOverride_inj {mode : OutputMode} {time other : Document}
    (same : sleepOverride (some time) mode = sleepOverride (some other) mode) : time = other := by
  cases mode <;> simpa [sleepOverride, sleepMerged, parameters, Document.object] using same

/-- The option for the time is the one of the catalog, whatever a project defines. -/
theorem lookup_sleepSite (project : Option Project) (settings : Settings) :
    (Compiler.builtinRegistry ⟨project, catalog, settings⟩).lookup sleepSite.id
      = some sleepSite.definition :=
  Compiler.lookup_builtinRegistry (.inl rfl) sleepSite.id

theorem fillTemplate_sleep {values : Table Document}
    (entered : values.get? sleepSlot.name = some (.text s)) :
    fillTemplate (parameters "TASKDECK_SLEEP" [("sleep_time", .text sleepSlot.placeholder)])
        [sleepSlot] values
      = (coerce (.text s) .int "sleep_time").map fun time =>
        parameters "TASKDECK_SLEEP" [("sleep_time", time)] := by
  have raw : rawValues [sleepSlot] values = [(sleepSlot, .text s)] := by
    rw [rawValues, List.map_singleton, Slot.rawValue_entered entered]
  have leaf : substituteLeaf [(sleepSlot, .text s)] sleepSlot.placeholder
      = coerce (.text s) .int "sleep_time" := rfl
  have keys : ∀ key ∈ ["TASKDECK_SLEEP", "custom_action_param", "sleep_time"],
      substituteKey [(sleepSlot, .text s)] (.text key) = .ok (.text key) := by
    simp only [List.forall_mem_cons]
    exact ⟨rfl, rfl, rfl, fun key never => absurd never List.not_mem_nil⟩
  simp only [List.forall_mem_cons] at keys
  obtain ⟨task, parameter, time, _⟩ := keys
  rw [fillTemplate, raw]
  simp only [parameters, Document.object, List.map_cons, List.map_nil, substitute,
    substituteFields, task, parameter, time, leaf]
  cases coerce (.text s) .int "sleep_time" <;> rfl

theorem walk_sleepTask {registry : Registry} {values : Table Document}
    (defined : registry.lookup sleepSite.id = some sleepSite.definition)
    (entered : selected.values.lookup sleepSite.id = some (.input values)) :
    walk registry selected.values [] sleepTask.options
      = [.fragment (.template sleepSite.id
          (parameters "TASKDECK_SLEEP" [("sleep_time", .text sleepSlot.placeholder)])
          [sleepSlot] values)] := by
  have arrived : arrive? registry [] (.text "__TASKDECK_SLEEP_OPTION__") = some sleepSite :=
    arrive?_eq_some_iff.2 ⟨rfl, defined, by simp⟩
  have isEntered : sleepSite.value selected.values = .input values := by
    simp only [Site.value, effectiveValue, entered, Option.getD_some]
  have visited := visit_form selected.values sleepSite rfl isEntered
  have nothingBelow := (visit_spec selected.values sleepSite).2
  rw [visited] at nothingBelow
  have references : sleepTask.options = [.text "__TASKDECK_SLEEP_OPTION__"] := rfl
  rw [references, walk_singleton arrived nothingBelow.symm, visited]
  rfl

/-- What compiling the task that waits says and returns, by what becomes of the time. -/
def sleepReport (mode : OutputMode) : Except Failure Document → Report Document
  | .ok time =>
    ⟨[Compiler.compiledNotice sleepTask.name 1 mode], .ok (sleepOverride (some time) mode)⟩
  | .error (.slot error) =>
    ⟨[⟨.warning, .compiler,
        "Dropping override of option '__TASKDECK_SLEEP_OPTION__': " ++ error.message⟩,
      Compiler.compiledNotice sleepTask.name 0 mode], .ok (sleepOverride none mode)⟩
  | .error failure => .fail failure

theorem sleepReport_eq_filled_iff {mode : OutputMode} {coerced : Except Failure Document}
    {time : Document} :
    sleepReport mode coerced = sleepReport mode (.ok time) ↔ coerced = .ok time := by
  refine ⟨fun same => ?_, fun same => same ▸ rfl⟩
  cases coerced with
  | ok other =>
      obtain ⟨_, outcomes⟩ := Report.mk.inj same
      rw [sleepOverride_inj (Except.ok.inj outcomes)]
  | error failure => cases failure <;> cases same

/-- Compiling the task that waits depends on what an integer slot makes of the time. -/
theorem compile_sleep (project : Option Project) (settings : Settings)
    (enters : EntersTime selected s) (requested : Option OutputMode) :
    let compiler : Compiler := ⟨project, catalog, settings⟩
    compiler.compile selected requested
      = sleepReport (compiler.outputMode true requested) (coerce (.text s) .int "sleep_time") := by
  intro compiler
  obtain ⟨isTask, values, entered, isTime⟩ := enters
  have found : compiler.context? selected.taskName
      = some ⟨sleepTask, compiler.builtinRegistry, true⟩ :=
    Compiler.context?_of_builtin (isTask ▸ rfl)
  have filled := fillTemplate_sleep isTime
  rw [Compiler.compile_of_context requested found, Compiler.fragments, resolve,
    walk_sleepTask (lookup_sleepSite project settings) entered]
  generalize compiler.outputMode true requested = mode
  rw [report_singleton, Report.done_bind, renderFragments_singleton]
  cases coerced : coerce (.text s) .int "sleep_time" with
  | ok time =>
      have rendered : Fragment.render (.template sleepSite.id
          (parameters "TASKDECK_SLEEP" [("sleep_time", .text sleepSlot.placeholder)]) [sleepSlot]
          values) = .done (some (parameters "TASKDECK_SLEEP" [("sleep_time", time)])) := by
        rw [Fragment.render, filled, coerced]
        rfl
      rw [rendered]
      exact congrArg (Report.mk _) (emit_sleep (some time) mode)
  | error failure =>
      rw [coerced] at filled
      rw [Fragment.render, filled]
      cases failure with
      | slot error => exact congrArg (Report.mk _) (emit_sleep none mode)
      | _ => rfl

theorem sleepReport_eq_tooLarge_iff {mode : OutputMode} {coerced : Except Failure Document} :
    sleepReport mode coerced = sleepReport mode (.error .tooLarge)
      ↔ coerced = .error .tooLarge := by
  refine ⟨fun same => ?_, fun same => same ▸ rfl⟩
  cases coerced with
  | ok time => cases same
  | error failure => cases failure <;> first | rfl | cases same

theorem sleepReport_ne_dropped {mode : OutputMode} {coerced : Except Failure Document}
    {error : SlotError} (fits : ∀ other, coerced ≠ .error (.slot other)) :
    sleepReport mode coerced ≠ sleepReport mode (.error (.slot error)) := by
  intro same
  cases coerced with
  | ok time => cases same
  | error failure =>
      cases failure with
      | slot other => exact fits other rfl
      | _ => cases same

end Bundled

/-!
## Which times are filled in
-/

variable {s : String} {digits : List Char}

/-- What an integer slot makes of a line of digits. -/
inductive TimeFate (s : String) (digits : List Char) : Except Failure Document → Prop where
  | filled : (∀ c ∈ digits, isAsciiDigit c = true) →
      Nat.ofDigitChars 10 digits 0 < Nat.pow 2 1024 - Nat.pow 2 970 →
      TimeFate s digits (.ok (.int (Nat.ofDigitChars 10 digits 0)))
  | tooLarge : (∀ c ∈ digits, isAsciiDigit c = true) → digits.length ≤ Json.maxDigits →
      Nat.pow 2 1024 - Nat.pow 2 970 ≤ Nat.ofDigitChars 10 digits 0 →
      TimeFate s digits (.error .tooLarge)
  | refused : ((∀ c ∈ digits, isAsciiDigit c = true) → Json.maxDigits < digits.length) →
      TimeFate s digits (.error (.slot ⟨"sleep_time", s, .int⟩))

/-- Numbers within the range of floating-point numbers have fewer digits than are read. -/
theorem DigitLine.short_of_lt (line : DigitLine s digits)
    (small : Nat.ofDigitChars 10 digits 0 < Nat.pow 2 1024 - Nat.pow 2 970) :
    digits.length ≤ Json.maxDigits := by
  have few : ∀ places lost, Nat.ofDigitChars 10 digits 0 < Nat.pow 2 places - lost →
      digits.length - 1 < places := fun places lost less =>
    (Nat.pow_lt_pow_iff_right (by decide)).1 (line.pow_le.trans_lt
      ((less.trans_le (Nat.sub_le _ lost)).trans_le (Nat.pow_le_pow_left (by decide) places)))
  have fewer : digits.length - 1 < 1024 := few 1024 (Nat.pow 2 970) small
  have read : 1024 < Json.maxDigits := by decide
  omega

theorem DigitLine.timeFate (line : DigitLine s digits) :
    TimeFate s digits (coerce (.text s) .int "sleep_time") := by
  by_cases writes : (∀ c ∈ digits, isAsciiDigit c = true) ∧ digits.length ≤ Json.maxDigits
  · obtain ⟨ascii, short⟩ := writes
    rw [coerce_int_of_writes (line.writesInteger_iff.2 ⟨ascii, short, rfl⟩)]
    by_cases large : Decimal.Binary64.overflows (Nat.ofDigitChars 10 digits 0) = true
    · rw [if_pos large]
      exact .tooLarge ascii short (overflows_iff.1 large)
    · rw [if_neg large]
      exact .filled ascii (overflows_eq_false_iff.1 (Bool.eq_false_iff.2 large))
  · have never : ∀ n, ¬ WritesInteger s n := fun n given =>
      writes ⟨(line.writesInteger_iff.1 given).1, (line.writesInteger_iff.1 given).2.1⟩
    rw [coerce_int_of_not_writes line.not_hasFraction line.nonempty never]
    exact .refused fun ascii => Nat.lt_of_not_le fun short => writes ⟨ascii, short⟩

open Bundled

/-- A time that its pattern lets through is a line of digits, which denote a number from one on.
Compiling the task that waits fills that number in exactly if the digits are those of ASCII and the
number is within the range of floating-point numbers. It fails exactly if a number out of range is
written in ASCII digits, no more than are read, and drops the fragment with a warning in all other
cases. -/
theorem verified_time_compiles_iff (nonempty : s ≠ "")
    (verified : sleepSlot.check (.text s) = .ok none) (project : Option Project)
    (settings : Settings) {selected : SelectedTask} (enters : EntersTime selected s)
    (requested : Option OutputMode) :
    let compiler : Compiler := ⟨project, catalog, settings⟩
    let mode := compiler.outputMode true requested
    let report := compiler.compile selected requested
    ∃ digits, DigitLine s digits ∧ 1 ≤ Nat.ofDigitChars 10 digits 0
      ∧ (∀ n : Int, report = sleepReport mode (.ok (.int n)) ↔
        (∀ c ∈ digits, isAsciiDigit c = true) ∧ n = Nat.ofDigitChars 10 digits 0
          ∧ Nat.ofDigitChars 10 digits 0 < Nat.pow 2 1024 - Nat.pow 2 970)
      ∧ (report = sleepReport mode (.error .tooLarge) ↔
        (∀ c ∈ digits, isAsciiDigit c = true) ∧ digits.length ≤ Json.maxDigits
          ∧ Nat.pow 2 1024 - Nat.pow 2 970 ≤ Nat.ofDigitChars 10 digits 0)
      ∧ (report = sleepReport mode (.error (.slot ⟨"sleep_time", s, .int⟩)) ↔
        (∃ c ∈ digits, isAsciiDigit c = false) ∨ Json.maxDigits < digits.length) := by
  intro compiler mode report
  obtain ⟨digits, line⟩ := (sleepSlot_check_iff nonempty).1 verified
  have isReport : report = sleepReport mode (coerce (.text s) .int "sleep_time") :=
    compile_sleep project settings enters requested
  have foreign : (∃ c ∈ digits, isAsciiDigit c = false)
      ↔ ¬ ∀ c ∈ digits, isAsciiDigit c = true := by simp
  refine ⟨digits, line, line.positive, ?_⟩
  rw [isReport, foreign]
  simp only [sleepReport_eq_filled_iff, sleepReport_eq_tooLarge_iff]
  have fate := line.timeFate
  generalize coerce (.text s) .int "sleep_time" = coerced at fate
  cases fate with
  | filled ascii small =>
      have short := line.short_of_lt small
      refine ⟨fun n => ?_, iff_of_false nofun fun given => ?_, iff_of_false ?_ ?_⟩
      · simp only [Except.ok.injEq, Document.scalar.injEq, Scalar.int.injEq]
        exact ⟨fun same => ⟨ascii, same.symm, small⟩, fun given => given.2.1.symm⟩
      · exact Nat.not_lt.2 given.2.2 small
      · exact sleepReport_ne_dropped nofun
      · exact fun given => given.elim (fun other => other ascii) (Nat.not_lt.2 short)
  | tooLarge ascii short large =>
      refine ⟨fun n => iff_of_false nofun fun given => ?_, iff_of_true rfl ⟨ascii, short, large⟩,
        iff_of_false ?_ ?_⟩
      · exact Nat.not_lt.2 large given.2.2
      · exact sleepReport_ne_dropped nofun
      · exact fun given => given.elim (fun other => other ascii) (Nat.not_lt.2 short)
  | refused long =>
      refine ⟨fun n => iff_of_false nofun fun given => ?_, iff_of_false nofun fun given => ?_,
        iff_of_true rfl (not_or_of_imp long)⟩
      · exact Nat.not_lt.2 (line.short_of_lt given.2.2) (long given.1)
      · exact Nat.not_lt.2 given.2.1 (long given.1)

theorem entersTime_sleepSelected (s : String) : EntersTime (sleepSelected s) s := by
  refine ⟨rfl, [(.text "sleep_time", .text s)], ?_, ?_⟩
  · simp [sleepSelected, sleepSite, Table.lookup_cons, Scalar.same_self]
  · simp [sleepSlot, Table.get?, Table.lookup_cons]

theorem digitLine_seven : DigitLine "7\n" ['7'] :=
  ⟨.inr rfl, ⟨'7', [], rfl, by decide, by decide⟩, List.all_eq_true.1 (by decide)⟩

/-- A line feed after the time does no harm. -/
theorem time_before_line_feed_compiles :
    sleepSlot.check (.text "7\n") = .ok none ∧ EntersTime (sleepSelected "7\n") "7\n"
      ∧ compiler.compile (sleepSelected "7\n") none
        = sleepReport (compiler.outputMode true none) (.ok (.int 7)) := by
  have nonempty : "7\n" ≠ "" := by decide
  have verified : sleepSlot.check (.text "7\n") = .ok none :=
    (sleepSlot_check_iff nonempty).2 ⟨_, digitLine_seven⟩
  have enters := entersTime_sleepSelected "7\n"
  obtain ⟨digits, line, _, filled, _⟩ :=
    verified_time_compiles_iff nonempty verified none {} enters none
  obtain rfl : ['7'] = digits := digitLine_seven.eq_filter.symm.trans line.eq_filter
  exact ⟨verified, enters, (filled 7).2 ⟨List.all_eq_true.1 rfl, rfl, by decide +kernel⟩⟩

/-- Of two verified times one is dropped and the other one makes compilation fail: thirteen with its
second digit in Arabic, and a number beyond the range of floating-point numbers. -/
theorem verified_times_not_filled_in :
    sleepSlot.check (.text "1\u0663") = .ok none ∧ sleepSlot.check (.text hugeTime) = .ok none
      ∧ ∀ requested, (compiler.compile (sleepSelected "1\u0663") requested).outcome
          = .ok (sleepOverride none (compiler.outputMode true requested))
        ∧ (compiler.compile (sleepSelected hugeTime) requested).outcome = .error .tooLarge := by
  have thirteen : DigitLine "1\u0663" ['1', '\u0663'] :=
    ⟨.inl rfl, ⟨_, _, rfl, by decide, by decide⟩, List.all_eq_true.1 (by decide)⟩
  have huge : DigitLine hugeTime ('1' :: List.replicate 309 '0') := by
    refine ⟨.inl String.toList_ofList, ⟨_, _, rfl, by decide, by decide⟩, ?_⟩
    rw [List.forall_mem_cons]
    refine ⟨by decide, fun c member => ?_⟩
    rw [List.eq_of_mem_replicate member]
    decide
  refine ⟨(sleepSlot_check_iff thirteen.nonempty).2 ⟨_, thirteen⟩,
    (sleepSlot_check_iff huge.nonempty).2 ⟨_, huge⟩, fun requested => ⟨?_, ?_⟩⟩
  · have fate := thirteen.timeFate
    have compiles := compile_sleep none {} (entersTime_sleepSelected "1\u0663") requested
    generalize coerce (.text "1\u0663") .int "sleep_time" = coerced at fate compiles
    cases fate with
    | filled ascii _ => cases List.all_eq_true.2 ascii
    | tooLarge ascii _ _ => cases List.all_eq_true.2 ascii
    | refused _ => exact congrArg Report.outcome compiles
  · have short : 309 < Json.maxDigits := by decide
    obtain ⟨n, read, large⟩ : ∃ n, Json.read? Json.strict hugeTime = some (.int n)
        ∧ Decimal.Binary64.overflows n = true :=
      ⟨_, Json.read?_one_zeros short, by decide +kernel⟩
    have compiles := compile_sleep none {} (entersTime_sleepSelected hugeTime) requested
    rw [coerce_int_of_writes (Json.read?_eq_int_iff.1 read), if_pos large] at compiles
    exact congrArg Report.outcome compiles

end PipelineOverride
