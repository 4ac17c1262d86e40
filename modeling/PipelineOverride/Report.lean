import PipelineOverride.Failure

/-!
# Reports

What an operation says besides its result. A report keeps the notices of an operation that failed
half-way, since they were given before the failure.
-/

set_option autoImplicit false

namespace PipelineOverride

/-- How much a notice matters. -/
inductive Level where
  | debug
  | info
  | warning
  | error
  | critical
  deriving DecidableEq, Repr

namespace Level

def name : Level → String
  | .debug => "DEBUG"
  | .info => "INFO"
  | .warning => "WARNING"
  | .error => "ERROR"
  | .critical => "CRITICAL"

def rank : Level → Nat
  | .debug => 10
  | .info => 20
  | .warning => 30
  | .error => 40
  | .critical => 50

end Level

/-- The part of the program that gives a notice. -/
inductive Topic where
  | types
  | selections
  | validation
  | loader
  | resolver
  | compiler
  | builtin
  | settings
  deriving DecidableEq, Repr

/-- The name of a topic in front of a notice. -/
def Topic.name : Topic → String
  | .types => "taskdeck.spec.types"
  | .selections => "taskdeck.spec.selections"
  | .validation => "taskdeck.spec.validation"
  | .loader => "taskdeck.spec.loader"
  | .resolver => "taskdeck.override.resolver"
  | .compiler => "taskdeck.override.compiler"
  | .builtin => "taskdeck.config.builtin_tasks"
  | .settings => "taskdeck.config.runtime_config"

/-- Something that the user should know about an operation. -/
structure Notice where
  level : Level
  topic : Topic
  text : String
  deriving DecidableEq, Repr

/-- The notices of an operation, in order, and its outcome. -/
structure Report (α : Type) where
  notices : List Notice
  outcome : Except Failure α

namespace Report

variable {α β : Type}

/-- A report without notices. -/
def ofExcept (outcome : Except Failure α) : Report α := ⟨[], outcome⟩

def done (value : α) : Report α := ⟨[], .ok value⟩

def fail (failure : Failure) : Report α := ⟨[], .error failure⟩

def note (notice : Notice) : Report Unit := ⟨[notice], .ok ()⟩

/-- Goes on after a success. The notices of both parts are kept. -/
def andThen (report : Report α) (next : α → Report β) : Report β :=
  match report.outcome with
  | .error failure => ⟨report.notices, .error failure⟩
  | .ok value => ⟨report.notices ++ (next value).notices, (next value).outcome⟩

instance : Monad Report where
  pure := done
  bind := andThen

/-- The outcome alone, as an option. -/
def value? (report : Report α) : Option α :=
  report.outcome.toOption

end Report

end PipelineOverride
