import PipelineOverride.Document.Display
import PipelineOverride.Text.Case

/-!
# Kinds, slot types and output modes

The closed vocabularies of project files, each with the spellings under which it is accepted.
-/

set_option autoImplicit false

namespace PipelineOverride

inductive OptionKind where
  | select
  | switch
  | input
  deriving DecidableEq, Repr

namespace OptionKind

def name : OptionKind → String
  | .select => "select"
  | .switch => "switch"
  | .input => "input"

/-- The kind that a tag in lower case stands for. -/
def ofName? : String → Option OptionKind
  | "select" => some .select
  | "choice" => some .select
  | "switch" => some .switch
  | "boolean" => some .switch
  | "input" => some .input
  | "freetext" => some .input
  | _ => none

/-- The kind that a tag stands for. A missing tag means a select option. -/
def ofTag? (tag : Document) : Option OptionKind :=
  if tag.isNull then some .select else ofName? (Text.lower tag.display)

end OptionKind

/-- The type of the value that a slot puts into an override. -/
inductive SlotType where
  | string
  | int
  | bool
  deriving DecidableEq, Repr

namespace SlotType

def name : SlotType → String
  | .string => "string"
  | .int => "int"
  | .bool => "bool"

/-- The slot type that a name in lower case stands for. -/
def ofName? : String → Option SlotType
  | "string" => some .string
  | "text" => some .string
  | "int" => some .int
  | "integer" => some .int
  | "bool" => some .bool
  | "boolean" => some .bool
  | _ => none

end SlotType

/-- The shape in which a compiled override leaves the library: the fragments one after another,
the merged document, or a list that holds the merged document alone. -/
inductive OutputMode where
  | array
  | object
  | wrapped
  deriving DecidableEq, Repr

namespace OutputMode

def name : OutputMode → String
  | .array => "array"
  | .object => "object"
  | .wrapped => "wrapped"

def ofName? : String → Option OutputMode
  | "array" => some .array
  | "object" => some .object
  | "wrapped" => some .wrapped
  | _ => none

def all : List OutputMode := [.array, .object, .wrapped]

end OutputMode

/-- The spellings of the case that a switch takes when it is on. -/
def onSpellings : List String := ["Yes", "yes", "Y", "y"]

/-- The spellings of the case that a switch takes when it is off. -/
def offSpellings : List String := ["No", "no", "N", "n"]

end PipelineOverride
