import PipelineOverride.Decimal.Literal
import PipelineOverride.Text.Base64
import PipelineOverride.Text.Case
import PipelineOverride.Yaml.Lexer
import PipelineOverride.Yaml.Typing

/-!
# The documents that nodes stand for

A node becomes a document by its tag. The fields that a merge key brings in come before the fields
of the mapping itself, which replace them. A tag that is not known, a node of another kind than its
tag, and a key that is no scalar are refused.
-/

set_option autoImplicit false

namespace PipelineOverride.Yaml

open Decimal (Binary64)

def Node.text : Node → Except Failure String
  | .scalar _ text => .ok text
  | _ => .error .badYaml

/-- Parts of a number in base sixty from the highest to the lowest, as one number. -/
def sixtieths (parts : List Int) : Int :=
  parts.foldl (fun value part => value * 60 + part) 0

/-- A literal, or a failure if a text is none. -/
def needed {α : Type} (literal : Option α) : Except Failure α :=
  match literal with
  | some value => .ok value
  | none => .error .badValue

/-- The number that digits of a class denote. The base is at most sixteen. -/
def numberIn (base : Nat) (digit : Char → Bool) (digits : List Char) : Except Failure Int :=
  if digits.isEmpty || !digits.all digit then .error .badValue
  else
    .ok (digits.foldl (fun number c => number * base + ((hexDigitValue? c).getD 0 : Nat)) 0)

/-- The sign of a number that must not be empty, and the rest of it. -/
def signedText (cs : List Char) : Except Failure (Bool × List Char) :=
  if cs.isEmpty then .error .missingItem else .ok (cs.head? == some '-', unsigned cs)

def integer (s : String) : Except Failure Int := do
  let (negative, cs) ← signedText (s.toList.filter (· != '_'))
  let magnitude ←
    match cs with
    | [] => throw .missingItem
    | ['0'] => pure 0
    | '0' :: 'b' :: digits => numberIn 2 isBinaryDigit digits
    | '0' :: 'x' :: digits => numberIn 16 isHexDigit digits
    | '0' :: 'o' :: digits => numberIn 8 isOctalDigit digits
    | '0' :: digits => numberIn 8 isOctalDigit digits
    | _ =>
      let parts ← (colonParts cs).mapM fun part =>
        needed (Decimal.intLiteral? (String.ofList part))
      pure (sixtieths parts)
  return if negative then -magnitude else magnitude

/-- Floating-point parts in base sixty, from the lowest to the highest, added up one after
another. -/
def floatSixtieths (base : Nat) (sum : Binary64) : List Binary64 → Binary64
  | [] => sum
  | part :: rest =>
    floatSixtieths (base * 60) (sum.add (part.mul (.ofInt base))) rest

def floatNumber (s : String) : Except Failure Binary64 := do
  let lowered := (s.toList.filter (· != '_')).map Char.toLower
  let (negative, cs) ← signedText lowered
  let word := String.ofList cs
  let magnitude ←
    if word == ".inf" then pure (.infinite false)
    else if word == ".nan" then pure .nan
    else
      let parts ← (colonParts cs).mapM fun part =>
        needed (Decimal.floatLiteral? (String.ofList part))
      match parts with
      | [single] => pure single
      | parts => pure (floatSixtieths 1 (.zero false) parts.reverse)
  return if negative then magnitude.negate else magnitude

def truth (s : String) : Except Failure Bool :=
  let lowered := Text.lower s
  match truthSpellings.find? fun spelling => spelling.1 == lowered with
  | some spelling => .ok spelling.2
  | none => .error (.missingField lowered)

/-- The moment that a scalar writes, which must exist. -/
def momentOf (s : String) : Except Failure Moment :=
  match moment? s.toList true with
  | none => .error .noFields
  | some moment => if moment.isPossible then .ok moment else .error .badValue

def bytesOf (s : String) : Except Failure (List UInt8) :=
  if s.toList.all fun c => c.toNat < 0x80 then
    match Text.base64? s with
    | some bytes => .ok bytes
    | none => .error .badYaml
  else .error .badYaml

/-- The scalar of a standard tag, for the tags of scalars. -/
def scalarOf? (tag text : String) : Option (Except Failure Scalar) :=
  if tag == standardTag "null" then some (.ok .null)
  else if tag == standardTag "bool" then some ((truth text).map .bool)
  else if tag == standardTag "int" then some ((integer text).map .int)
  else if tag == standardTag "float" then some ((floatNumber text).map .float)
  else if tag == standardTag "str" then some (.ok (.text text))
  else if tag == standardTag "timestamp" then some ((momentOf text).map .moment)
  else if tag == standardTag "binary" then some ((bytesOf text).map .bytes)
  else none

def scalarDocument (tag text : String) : Except Failure Document :=
  match scalarOf? tag text with
  | some scalar => scalar.map .scalar
  | none => .error .badYaml

/-- Whether a tag means a list of pairs, ordered keys included. -/
def isPairsTag (tag : String) : Bool :=
  tag == standardTag "pairs" || tag == standardTag "omap"

def keyOf (document : Document) : Except Failure Scalar :=
  match document.scalar? with
  | some key => .ok key
  | none => .error .badYaml

mutual

def Node.toDocument : Node → Except Failure Document
  | .scalar tag text => scalarDocument tag text
  | .sequence tag items => do
    if tag == standardTag "seq" then return .list (← toItems items)
    else if isPairsTag tag then return .list (← toPairs items)
    else throw .badYaml
  | .mapping tag pairs => do
    let isSet := tag == standardTag "set"
    if !isSet && tag != standardTag "map" then throw .badYaml
    let (merged, own) ← toFields pairs
    let fields := Table.ofEntries (merged ++ own)
    return if isSet then .set (Table.keys fields) else .mapping fields

def toItems : List Node → Except Failure (List Document)
  | [] => .ok []
  | item :: rest => do
    let first ← item.toDocument
    let others ← toItems rest
    return first :: others

/-- The pairs that mappings of one field each stand for, each as a list of two. -/
def toPairs : List Node → Except Failure (List Document)
  | [] => .ok []
  | .mapping _ [(key, value)] :: rest => do
    let key ← key.toDocument
    let value ← value.toDocument
    let others ← toPairs rest
    return .list [key, value] :: others
  | _ :: _ => .error .badYaml

/-- The fields that pairs bring in through merge keys, and their own fields. -/
def toFields : List (Node × Node) →
    Except Failure (List (Scalar × Document) × List (Scalar × Document))
  | [] => .ok ([], [])
  | (key, value) :: rest => do
    if key.tag == standardTag "merge" then
      let first ← toMerged value
      let (merged, own) ← toFields rest
      return (first ++ merged, own)
    else
      let key ←
        if key.tag == standardTag "value" then Scalar.text <$> key.text
        else keyOf (← key.toDocument)
      let value ← value.toDocument
      let (merged, own) ← toFields rest
      return (merged, (key, value) :: own)

/-- The fields of what stands behind a merge key: a mapping, or a list of mappings of which an
earlier one is preferred. -/
def toMerged : Node → Except Failure (List (Scalar × Document))
  | .mapping _ pairs => do
    let (merged, own) ← toFields pairs
    return merged ++ own
  | .sequence _ items => toMergedItems items
  | .scalar _ _ => .error .badYaml

/-- The fields of mappings, the last mapping first. -/
def toMergedItems : List Node → Except Failure (List (Scalar × Document))
  | [] => .ok []
  | .mapping _ pairs :: rest => do
    let (merged, own) ← toFields pairs
    let others ← toMergedItems rest
    return others ++ merged ++ own
  | _ :: _ => .error .badYaml

end

/-- The document that a text writes in YAML. A text that holds no document stands for null. The
documents here are finite trees of whole characters, so not all that other readers give is among
them: an alias inside the node that it names is refused, an escaped half of a surrogate pair becomes
the replacement character, and the pairs of an ordered list are lists of two. Two rare spellings are
read more strictly than elsewhere: a mapping with a value key under the tag of texts is refused, and
a block scalar under a lone exclamation mark stays a text if a line break ends it. -/
def read (s : String) : Except Failure Document := do
  let tokens ← Token.ofText s
  match ← Node.ofTokens implicitTag tokens with
  | none => return .null
  | some node => node.toDocument

end PipelineOverride.Yaml
