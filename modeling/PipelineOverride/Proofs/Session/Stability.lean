import Mathlib.Data.List.DropRight
import PipelineOverride.Api.Service
import PipelineOverride.Proofs.Settings
import PipelineOverride.Session.Basic

/-!
# Settings between resets

A process changes variables of its environment, reads its settings, compiles tasks, answers
whether it is there and forgets its settings, any number of times and in any order. Between two
resets all that it observes are the settings of one environment, the one of the first observation.
-/

set_option autoImplicit false

namespace PipelineOverride

/-! ### Operations -/

/-- What a process does. A compiler is built anew for every compilation, without settings of its
own. -/
inductive Operation where
  | setVariable (name : Variable) (value : Option String)
  | readSettings
  | compile (project : Option Project) (catalog : Option Catalog) (selected : SelectedTask)
      (requested : Option OutputMode)
  | health
  | resetSettings

inductive Yield where
  | nothing
  | settings (settings : Settings)
  /-- The compiler that was built, and its report of the task. -/
  | override (compiler : Compiler) (report : Report Document)
  | response (outcome : Except Failure Api.Response)

structure Process where
  environment : Environment
  cache : Cache := {}

/-- An operation of a process, with the environment it was performed in and what it gave. -/
structure Occurrence where
  environment : Environment
  operation : Operation
  yield : Yield

def Api.healthRequest : Api.Request :=
  { method := "GET", path := "/api/health" }

namespace Operation

/-- Whether what an operation gives depends on the settings. -/
def observes : Operation → Bool
  | readSettings | compile .. | health => true
  | setVariable .. | resetSettings => false

def resets : Operation → Bool
  | resetSettings => true
  | _ => false

theorem not_resets_of_observes {operation : Operation} (observes : operation.observes = true) :
    operation.resets = false := by
  cases operation with
  | resetSettings => exact observes.symm
  | _ => rfl

/-- What an operation gives where settings are in force. -/
def under (settings : Settings) : Operation → Yield
  | setVariable .. | resetSettings => .nothing
  | readSettings => .settings settings
  | compile project catalog selected requested =>
    let compiler : Compiler := ⟨project, catalog.getD Bundled.catalog, settings⟩
    .override compiler (compiler.compile selected requested)
  | health =>
    .response (.ok (.ok (.object [("status", .text "ok"), ("version", .text Api.version),
      ("builtin_output", .text settings.builtinOutput.name),
      ("standard_output", .text settings.standardOutput.name)])))

end Operation

namespace Process

def perform (process : Process) : Operation → Yield × Process
  | .setVariable name value =>
    (.nothing, { process with environment := process.environment.set value name })
  | .readSettings =>
    let (_, settings, cache) := process.cache.readSettings process.environment
    (.settings settings, { process with cache := cache })
  | .compile project catalog selected requested =>
    let (_, compiler, cache) :=
      process.cache.compiler process.environment project catalog none
    (.override compiler (compiler.compile selected requested), { process with cache := cache })
  | .health =>
    let service : Api.Service := { environment := process.environment, cache := process.cache }
    let (report, cache) := service.answer Api.healthRequest
    (.response report.outcome, { process with cache := cache })
  | .resetSettings => (.nothing, { process with cache := process.cache.resetSettings })

/-- What occurs when a process performs operations one after another. -/
def history (process : Process) : List Operation → List Occurrence
  | [] => []
  | operation :: rest =>
    let (yield, next) := process.perform operation
    ⟨process.environment, operation, yield⟩ :: history next rest

end Process

/-- The environment of the first observation after the latest reset. -/
def pinned? (history : List Occurrence) : Option Environment :=
  let unreset := history.rtakeWhile fun occurrence => !occurrence.operation.resets
  (unreset.find? fun occurrence => occurrence.operation.observes).map Occurrence.environment

/-! ### Kept settings -/

namespace Cache

variable {cache : Cache} {environment : Environment}

/-- The settings in force: those that are kept, else those of the environment. -/
def inForce (cache : Cache) (environment : Environment) : Settings :=
  cache.settings.getD (Settings.bundled environment).2

theorem readSettings_settings :
    (cache.readSettings environment).2.1 = cache.inForce environment := by
  cases kept : cache.settings <;> simp [readSettings, inForce, kept]

theorem readSettings_cache :
    (cache.readSettings environment).2.2.settings = some (cache.inForce environment) := by
  cases kept : cache.settings <;> simp [readSettings, inForce, kept]

@[simp]
theorem readCatalog_catalog : cache.readCatalog.2.1 = Bundled.catalog := by
  rw [readCatalog]
  split <;> rfl

@[simp]
theorem readCatalog_inForce : cache.readCatalog.2.2.inForce environment
    = cache.inForce environment := by
  rw [readCatalog]
  split <;> rfl

theorem compiler_compiler (project : Option Project) (catalog : Option Catalog) :
    (cache.compiler environment project catalog none).2.1
      = ⟨project, catalog.getD Bundled.catalog, cache.inForce environment⟩ := by
  cases catalog <;> simp [compiler, readSettings_settings]

theorem compiler_cache (project : Option Project) (catalog : Option Catalog) :
    (cache.compiler environment project catalog none).2.2.settings
      = some (cache.inForce environment) := by
  cases catalog <;> simp [compiler, readSettings_cache]

end Cache

theorem Api.Service.answer_healthRequest (service : Api.Service) :
    service.answer Api.healthRequest = service.health := by
  have noOrigin : Api.healthRequest.header? "origin" = none := rfl
  have route : Api.Route.ofPlace? Api.healthRequest.place = some .health := by decide +kernel
  have verb : Api.healthRequest.verb = Api.Route.health.verb := by decide +kernel
  simp [answer, dispatch, serve, noOrigin, route, verb]

/-! ### One operation -/

namespace Process

variable {process : Process} {operation : Operation} {past : List Occurrence}

/-- An operation sees no other settings than those in force. -/
theorem perform_yield :
    (process.perform operation).1
      = operation.under (process.cache.inForce process.environment) := by
  cases operation with
  | setVariable | resetSettings => rfl
  | readSettings => simp [perform, Operation.under, Cache.readSettings_settings]
  | compile => simp [perform, Operation.under, Cache.compiler_compiler]
  | health =>
      simp [perform, Operation.under, Api.Service.answer_healthRequest, Api.Service.health,
        Cache.readSettings_settings]

/-- A reset forgets the settings, an observation keeps those in force, and nothing else matters
to what is kept. -/
theorem perform_settings :
    (process.perform operation).2.cache.settings
      = if operation.resets then none
        else if operation.observes then some (process.cache.inForce process.environment)
        else process.cache.settings := by
  cases operation with
  | setVariable | resetSettings => rfl
  | readSettings => simp [perform, Operation.resets, Operation.observes, Cache.readSettings_cache]
  | compile => simp [perform, Operation.resets, Operation.observes, Cache.compiler_cache]
  | health =>
      simp [perform, Operation.resets, Operation.observes, Api.Service.answer_healthRequest,
        Api.Service.health, Cache.readSettings_cache]

end Process

/-! ### The pinned environment -/

section Pinned

variable {past later : List Occurrence} {latest : Occurrence} {environment : Environment}

theorem pinned?_concat :
    pinned? (past ++ [latest])
      = if latest.operation.resets then none
        else (pinned? past).or
          (if latest.operation.observes then some latest.environment else none) := by
  cases resets : latest.operation.resets with
  | true => simp [pinned?, resets]
  | false =>
      cases observes : latest.operation.observes with
      | true => simp [pinned?, resets, observes]
      | false => simp [pinned?, resets, observes]

/-- An environment stays pinned as long as nothing resets. -/
theorem pinned?_append (pinned : pinned? past = some environment)
    (unreset : ∀ occurrence ∈ later, occurrence.operation.resets = false) :
    pinned? (past ++ later) = some environment := by
  induction later using List.reverseRecOn with
  | nil => simpa using pinned
  | append_singleton later latest ih =>
      have before : pinned? (past ++ later) = some environment :=
        ih fun occurrence member => unreset occurrence (List.mem_append_left _ member)
      rw [← List.append_assoc, pinned?_concat, before, unreset latest (by simp)]
      rfl

end Pinned

/-! ### Runs -/

namespace Process

variable {process : Process} {operation : Operation} {past : List Occurrence}

/-- A process keeps the settings of the environment that its past pins, and none where its past
pins nothing. -/
def Reflects (process : Process) (past : List Occurrence) : Prop :=
  process.cache.settings
    = (pinned? past).map fun environment => (Settings.bundled environment).2

theorem Reflects.inForce (reflects : process.Reflects past) :
    process.cache.inForce process.environment
      = (Settings.bundled ((pinned? past).getD process.environment)).2 := by
  rw [Cache.inForce, reflects]
  cases pinned? past <;> rfl

/-- What one operation preserves. -/
theorem Reflects.perform (reflects : process.Reflects past) (yield : Yield) :
    (process.perform operation).2.Reflects
      (past ++ [⟨process.environment, operation, yield⟩]) := by
  rw [Reflects, perform_settings, pinned?_concat, reflects.inForce, reflects]
  cases operation.resets with
  | true => rfl
  | false =>
      cases operation.observes <;> cases pinned? past <;> rfl

/-- What a run preserves: whatever occurs in it, occurs in a process that reflects all that
occurred before. -/
theorem Reflects.history (reflects : process.Reflects past) {operations : List Operation}
    {earlier later : List Occurrence} {occurrence : Occurrence}
    (occurs : process.history operations = earlier ++ occurrence :: later) :
    ∃ current : Process, current.Reflects (past ++ earlier) ∧
      occurrence.environment = current.environment ∧
      occurrence.yield = (current.perform occurrence.operation).1 := by
  induction operations generalizing process past earlier with
  | nil => simp [Process.history] at occurs
  | cons operation rest ih =>
      rw [Process.history] at occurs
      cases earlier with
      | nil =>
          obtain ⟨rfl, _⟩ := List.cons.inj occurs
          exact ⟨process, by simpa using reflects, rfl, rfl⟩
      | cons first earlier =>
          obtain ⟨rfl, occursLater⟩ := List.cons.inj occurs
          simpa using ih (reflects.perform _) occursLater

/-- An observation gives what the settings of the pinned environment give, and it pins its own
environment where none is pinned. -/
theorem Reflects.exists_pinned {occurrence : Occurrence} (reflects : process.Reflects past)
    (environment : occurrence.environment = process.environment)
    (observes : occurrence.operation.observes = true) :
    ∃ pinned, pinned? (past ++ [occurrence]) = some pinned ∧
      (process.perform occurrence.operation).1
        = occurrence.operation.under (Settings.bundled pinned).2 := by
  refine ⟨(pinned? past).getD process.environment, ?_, ?_⟩
  · rw [pinned?_concat, Operation.not_resets_of_observes observes, observes, environment]
    cases pinned? past <;> rfl
  · rw [perform_yield, reflects.inForce]

end Process

/-- The settings are stable between resets. Every observation gives what it gives under the
settings that are loaded in the environment of the first observation since the latest reset;
so the same observation made twice without a reset in between gives the same, whatever else
happens. -/
theorem settings_stable_between_resets (environment : Environment)
    (operations : List Operation) :
    let history := Process.history { environment := environment } operations
    (∀ earlier occurrence later, history = earlier ++ occurrence :: later →
      occurrence.operation.observes = true →
      ∃ pinned settings, pinned? (earlier ++ [occurrence]) = some pinned ∧
        (Settings.load pinned none).outcome = .ok settings ∧
        occurrence.yield = occurrence.operation.under settings) ∧
    ∀ earlier first between second later,
      history = earlier ++ first :: between ++ second :: later →
      first.operation.observes = true → second.operation = first.operation →
      (∀ occurrence ∈ between, occurrence.operation.resets = false) →
      second.yield = first.yield := by
  intro history
  have fresh : ({ environment := environment } : Process).Reflects [] := rfl
  have observed : ∀ earlier occurrence later, history = earlier ++ occurrence :: later →
      occurrence.operation.observes = true →
      ∃ pinned, pinned? (earlier ++ [occurrence]) = some pinned ∧
        occurrence.yield = occurrence.operation.under (Settings.bundled pinned).2 := by
    intro earlier occurrence later occurs observes
    obtain ⟨current, reflects, sameEnvironment, yields⟩ := fresh.history occurs
    rw [yields]
    exact reflects.exists_pinned sameEnvironment observes
  constructor
  · intro earlier occurrence later occurs observes
    obtain ⟨pinned, pins, yields⟩ := observed earlier occurrence later occurs observes
    exact ⟨pinned, _, pins, Settings.load_none pinned, yields⟩
  · intro earlier first between second later occurs observes same unreset
    obtain ⟨pinned, pins, firstYields⟩ :=
      observed earlier first (between ++ second :: later) (by simpa using occurs) observes
    obtain ⟨kept, keeps, secondYields⟩ :=
      observed (earlier ++ first :: between) second later occurs (same ▸ observes)
    -- Nothing from the first to the second observation resets, the second included.
    have still : pinned? (earlier ++ [first] ++ (between ++ [second])) = some pinned := by
      refine pinned?_append pins fun occurrence member => ?_
      rcases List.mem_append.1 member with inBetween | isSecond
      · exact unreset occurrence inBetween
      · rw [List.mem_singleton.1 isSecond, same]
        exact Operation.not_resets_of_observes observes
    have sameEnvironment : kept = pinned :=
      Option.some.inj (keeps.symm.trans (by simpa using still))
    rw [firstYields, secondYields, same, sameEnvironment]

/-- A built-in task is compiled before and after a variable is unset, and the settings are read
again after a reset. -/
def changingRun : List Operation :=
  let sleep : Operation :=
    .compile none none { taskName := "__TASKDECK_SLEEP__", values := [] } none
  [.setVariable .builtinOutput (some "wrapped"), .readSettings, sleep,
    .setVariable .builtinOutput none, .health, sleep, .resetSettings, .readSettings]

theorem changingRun_stable :
    let history := Process.history { environment := {} } changingRun
    let yields := history.map Occurrence.yield
    yields[5]? = yields[2]? ∧
    (∃ settings, yields[4]? = some (Operation.health.under settings) ∧
      settings.builtinOutput = .wrapped) ∧
    ∃ settings, yields[7]? = some (.settings settings) ∧ settings.builtinOutput = .object := by
  obtain ⟨observed, repeated⟩ := settings_stable_between_resets {} changingRun
  refine ⟨?_, ?_, ?_⟩
  · have sameYield := repeated [_, _] _ [_, _] _ [_, _] rfl rfl rfl (by simp [Operation.resets])
    exact congrArg some sameYield
  · obtain ⟨pinned, settings, pins, loads, yields⟩ := observed [_, _, _, _] _ [_, _, _] rfl rfl
    obtain rfl : { builtinOutput := some "wrapped" } = pinned := Option.some.inj pins
    rw [Settings.load_none] at loads
    refine ⟨settings, congrArg some yields, ?_⟩
    rw [← Except.ok.inj loads]
    decide +kernel
  · obtain ⟨pinned, settings, pins, loads, yields⟩ :=
      observed [_, _, _, _, _, _, _] _ [] rfl rfl
    obtain rfl : {} = pinned := Option.some.inj pins
    rw [Settings.load_none] at loads
    refine ⟨settings, congrArg some yields, ?_⟩
    rw [← Except.ok.inj loads]
    decide +kernel

end PipelineOverride
