import PipelineOverride.Failure

/-!
# Tokens of YAML

The tokens that a YAML text consists of. Indentation shows as start and end tokens of block
collections. A place that may turn out to begin a key is marked when it is passed; once the colon
is met the mark stands for a key token, and it stands for nothing if there is none.
-/

set_option autoImplicit false

namespace PipelineOverride.Yaml

/-- The shorthand of a tag: a handle, if there is one, and what follows it. -/
structure TagName where
  handle : Option String
  suffix : String
  deriving DecidableEq, Repr

/-- A directive in front of a document. -/
inductive Directive where
  | version (major : Nat)
  | tag (handle meaning : String)
  | other
  deriving DecidableEq, Repr

inductive Token where
  | directive (directive : Directive)
  | documentStart
  | documentEnd
  | blockSequenceStart
  | blockMappingStart
  | blockEnd
  | sequenceOpen
  | sequenceClose
  | mappingOpen
  | mappingClose
  | entry
  | item
  | key
  | value
  | alias (name : String)
  | anchor (name : String)
  | tag (name : TagName)
  /-- A scalar. A plain one has neither marks around it nor a header before it. -/
  | scalar (text : String) (plain : Bool)
  /-- A place that may begin a key. -/
  | place (number : Nat)
  deriving DecidableEq, Repr

/-- The meaning of a place: the start of a key, which may also start a block mapping. -/
structure KeyPlace where
  number : Nat
  opensMapping : Bool

/-- The tokens with all places replaced by what they turned out to be. -/
def Token.settle (places : List KeyPlace) (tokens : List Token) : List Token :=
  tokens.flatMap fun token =>
    match token with
    | .place number =>
      match places.find? fun found => found.number = number with
      | some found => if found.opensMapping then [.blockMappingStart, .key] else [.key]
      | none => []
    | other => [other]

end PipelineOverride.Yaml
