import PipelineOverride.Project.Kinds
import PipelineOverride.Text.Digit

/-!
# Command line arguments

The arguments of a program call are read as one of three commands. A long flag may be shortened as
long as one flag alone begins that way, and its value may follow after an equals sign. Every flag
of a list of arguments is recognised before the first of them takes effect; then they take effect
from left to right, so that a call for help counts only before the first fault.
-/

set_option autoImplicit false

namespace PipelineOverride

/-- Why a call runs no command. -/
inductive Stop where
  | help
  /-- The call is no call of the program. -/
  | usage
  deriving DecidableEq, Repr

/-- The exit code of a call that runs no command. -/
def Stop.exitCode : Stop → Nat
  | .help => 0
  | .usage => 2

inductive Flag where
  | help
  | logLevel
  | project
  | task
  | selections
  | outputMode
  | pretty
  deriving DecidableEq, Repr

namespace Flag

def spelling : Flag → String
  | .help => "--help"
  | .logLevel => "--log-level"
  | .project => "--project"
  | .task => "--task"
  | .selections => "--selections"
  | .outputMode => "--output-mode"
  | .pretty => "--pretty"

def shortSpelling? : Flag → Option String
  | .help => some "-h"
  | _ => none

def takesValue : Flag → Bool
  | .help => false
  | .pretty => false
  | _ => true

/-- Whether a flag may have a value. -/
def admits (flag : Flag) (value : String) : Bool :=
  flag != .outputMode || (OutputMode.ofName? value).isSome

end Flag

inductive Argument where
  /-- A flag, with the value that is written together with it. -/
  | known (flag : Flag) (value : Option String)
  /-- A flag in a form that cannot take effect. -/
  | misused
  /-- What looks like a flag and is none. -/
  | unknown
  /-- The mark behind which every argument is a word. -/
  | marker
  | word

namespace Argument

/-- The text before the first equals sign and the text behind it, if there is one. -/
def splitValue (s : String) : String × Option String :=
  let name := s.toList.takeWhile (· != '=')
  match s.toList.dropWhile (· != '=') with
  | [] => (s, none)
  | _ :: value => (String.ofList name, some (String.ofList value))

/-- The flag of a whole spelling. -/
def exactFlag? (flags : List Flag) (s : String) : Option Flag :=
  flags.find? fun flag => flag.spelling = s || flag.shortSpelling? = some s

/-- The flags that a beginning of a long spelling stands for. -/
def shortened (flags : List Flag) (name : String) : List Flag :=
  flags.filter fun flag => name.toList.isPrefixOf flag.spelling.toList

/-- A flag with a value behind an equals sign. -/
def assigned (flag : Flag) (value : String) : Argument :=
  if flag.takesValue then .known flag (some value) else .misused

/-- A flag whose short spelling is followed by more characters. The flag may be repeated there, and
characters that mean nothing end the repetition, but neither a hyphen nor a value may follow. -/
def trailed (flag : Flag) : List Char → Argument
  | '-' :: _ => .misused
  | 'h' :: '=' :: _ => .misused
  | 'h' :: rest => trailed flag rest
  | _ => .known flag none

/-- Whether a text is a negative number, with decimal places or without. -/
def isNegativeNumber (s : String) : Bool :=
  match s.toList with
  | '-' :: rest =>
    let line := if rest.getLast? = some '\n' then rest.dropLast else rest
    match line.dropWhile Text.isDecimalDigit with
    | [] => !line.isEmpty
    | '.' :: places => !places.isEmpty && places.all Text.isDecimalDigit
    | _ => false
  | _ => false

/-- The flags that an argument can stand for that is no whole spelling of a flag. -/
def candidates (flags : List Flag) (s : String) : List Argument :=
  if s.startsWith "--" then
    let (name, value) := splitValue s
    (shortened flags name).map fun flag =>
      match value with
      | some value => assigned flag value
      | none => .known flag none
  else
    let short := some (String.ofList (s.toList.take 2))
    (flags.filter fun flag => flag.shortSpelling? = short).map fun flag =>
      trailed flag (s.toList.drop 2)

/-- What an argument is that begins with a hyphen and is no whole spelling of a flag. -/
def ofHyphened (flags : List Flag) (s : String) : Except Stop Argument :=
  let (name, value) := splitValue s
  match value, exactFlag? flags name with
  | some value, some flag => .ok (assigned flag value)
  | _, _ =>
    match candidates flags s with
    | [argument] => .ok argument
    | [] => .ok (if isNegativeNumber s || s.toList.contains ' ' then .word else .unknown)
    | _ => .error .usage

/-- What an argument is where some flags are known. -/
def ofText (flags : List Flag) (s : String) : Except Stop Argument :=
  match exactFlag? flags s with
  | some flag => .ok (.known flag none)
  | none => if s.startsWith "-" && s != "-" then ofHyphened flags s else .ok .word

/-- Arguments with what they are. -/
def ofTexts (flags : List Flag) : List String → Except Stop (List (String × Argument))
  | [] => .ok []
  | s :: rest =>
    if s = "--" then .ok ((s, .marker) :: rest.map fun s => (s, .word))
    else do
      let token ← ofText flags s
      let others ← ofTexts flags rest
      return (s, token) :: others

end Argument

/-- The flags that are set with their values, the last one first, and whether there were
arguments without a use. -/
structure FlagValues where
  values : List (Flag × String) := []
  stray : Bool := false

namespace FlagValues

def value? (given : FlagValues) (flag : Flag) : Option String :=
  given.values.lookup flag

/-- Sets a flag to a value that it may have. -/
def set (given : FlagValues) (flag : Flag) (value : String) : Except Stop FlagValues :=
  if flag.admits value then .ok { given with values := (flag, value) :: given.values }
  else .error .usage

/-- Sets flags up to the first word, which is the name of a command. The arguments behind it are
left to the command. -/
def upToCommand (given : FlagValues) :
    List (String × Argument) → Except Stop (FlagValues × String × List String)
  | [] => .error .usage
  | (name, .word) :: rest => .ok (given, name, rest.map Prod.fst)
  | (_, .known .help _) :: _ => .error .help
  | (_, .known flag (some value)) :: rest => do upToCommand (← given.set flag value) rest
  | (_, .known flag none) :: (value, .word) :: rest => do
    upToCommand (← given.set flag value) rest
  | (_, .unknown) :: rest => upToCommand { given with stray := true } rest
  | _ :: _ => .error .usage

def setAll (given : FlagValues) : List (String × Argument) → Except Stop FlagValues
  | [] => .ok given
  | (_, .known .help _) :: _ => .error .help
  | (_, .known .pretty _) :: rest => do setAll (← given.set .pretty "") rest
  | (_, .known flag (some value)) :: rest => do setAll (← given.set flag value) rest
  | (_, .known flag none) :: (value, .word) :: rest => do setAll (← given.set flag value) rest
  | (_, .known _ none) :: _ => .error .usage
  | (_, .misused) :: _ => .error .usage
  | _ :: rest => setAll { given with stray := true } rest

/-- The value of a flag that must be set. -/
def required (given : FlagValues) (flag : Flag) : Except Stop String :=
  match given.value? flag with
  | some value => .ok value
  | none => .error .usage

end FlagValues

/-- What a call asks for. -/
inductive Command where
  /-- Compiles a task, with the project and the selections of files. -/
  | compile (project : Option String) (task : String) (selections : Option String)
      (mode : Option OutputMode) (pretty : Bool)
  /-- Checks a project file. -/
  | validate (project : String)
  /-- Lists the built-in tasks, and the tasks and options of a project. -/
  | list (project : Option String)

structure Call where
  logLevel : Option String
  command : Command

namespace Call

def flagsOf? : String → Option (List Flag)
  | "compile" => some [.help, .project, .task, .selections, .outputMode, .pretty]
  | "validate" => some [.help, .project]
  | "list" => some [.help, .project]
  | _ => none

def commandOf (name : String) (given : FlagValues) : Except Stop Command :=
  match name with
  | "compile" => do
    let task ← given.required .task
    return .compile (given.value? .project) task (given.value? .selections)
      ((given.value? .outputMode).bind OutputMode.ofName?) (given.value? .pretty).isSome
  | "validate" => do return .validate (← given.required .project)
  | _ => .ok (.list (given.value? .project))

def ofArguments (arguments : List String) : Except Stop Call := do
  let (before, name, rest) ← ({} : FlagValues).upToCommand
    (← Argument.ofTexts [.help, .logLevel] arguments)
  match flagsOf? name with
  | none => throw .usage
  | some flags =>
    let given ← ({} : FlagValues).setAll (← Argument.ofTexts flags rest)
    let command ← commandOf name given
    if before.stray || given.stray then throw .usage
    else return ⟨before.value? .logLevel, command⟩

end Call

end PipelineOverride
