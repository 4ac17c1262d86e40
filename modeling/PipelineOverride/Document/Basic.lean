import PipelineOverride.Document.Table

/-!
# Documents

The values that project files, selections and overrides are made of. Fields whose shape nothing
checks are kept as documents throughout, so that they leave the library as they came in.
-/

set_option autoImplicit false

namespace PipelineOverride

open Decimal (Binary64)

/-- A value of a project file, a selection or an override. A mapping keeps the order of its keys,
and a set holds keys without values. -/
inductive Document where
  | scalar (value : Scalar)
  | list (items : List Document)
  | set (members : List Scalar)
  | mapping (fields : List (Scalar × Document))
  deriving Inhabited

namespace Document

/-- The absent value. -/
@[match_pattern] abbrev null : Document := .scalar .null

@[match_pattern] abbrev bool (value : Bool) : Document := .scalar (.bool value)

@[match_pattern] abbrev int (value : Int) : Document := .scalar (.int value)

/-- A floating-point number. -/
@[match_pattern] abbrev float (value : Binary64) : Document := .scalar (.float value)

@[match_pattern] abbrev text (value : String) : Document := .scalar (.text value)

/-- A mapping whose keys are texts. -/
def object (fields : List (String × Document)) : Document :=
  .mapping (fields.map fun field => (.text field.1, field.2))

def texts (items : List String) : Document :=
  .list (items.map text)

/-- Whether a document is null, false, a zero or empty. -/
def isVoid : Document → Bool
  | .scalar value =>
    match value with
    | .null => true
    | .bool b => !b
    | .int n => n == 0
    | .float x => x.isZero
    | .text s => s.isEmpty
    | .moment _ => false
    | .bytes data => data.isEmpty
  | .list items => items.isEmpty
  | .set members => members.isEmpty
  | .mapping fields => fields.isEmpty

/-- The document, or another one in place of a void one. -/
def orIfVoid (document other : Document) : Document :=
  if document.isVoid then other else document

def isNull : Document → Bool
  | .null => true
  | _ => false

/-- A document that is not null. -/
def given? (document : Document) : Option Document :=
  if document.isNull then none else some document

def fields? : Document → Option (Table Document)
  | .mapping fields => some fields
  | _ => none

def scalar? : Document → Option Scalar
  | .scalar value => some value
  | _ => none

def text? : Document → Option String
  | .text value => some value
  | _ => none

def isText (document : Document) (s : String) : Bool :=
  document.text? == some s

/-- The name of the kind of a document, as messages give it. -/
def kindName : Document → String
  | .scalar value =>
    match value with
    | .null => "NoneType"
    | .bool _ => "bool"
    | .int _ => "int"
    | .float _ => "float"
    | .text _ => "str"
    | .moment moment => if moment.time.isSome then "datetime" else "date"
    | .bytes _ => "bytes"
  | .list _ => "list"
  | .set _ => "set"
  | .mapping _ => "dict"

/-- What a walk over a document meets: the items of a list, the members of a set, the keys of a
mapping, the characters of a text, the numbers of a byte string. Other scalars cannot be walked. -/
def elements? : Document → Option (List Document)
  | .list items => some items
  | .set members => some (members.map .scalar)
  | .mapping fields => some (fields.map fun field => .scalar field.1)
  | .text s => some (s.toList.map fun c => .text (String.singleton c))
  | .scalar (.bytes data) => some (data.map fun byte => .int byte.toNat)
  | .scalar _ => none

/-- The number of elements, of the documents that have elements. -/
def size? (document : Document) : Option Nat :=
  document.elements?.map List.length

end Document

namespace Table

/-- The value of a field, or a default where the field is missing. -/
def getD (fields : Table Document) (name : String) (default : Document) : Document :=
  (fields.get? name).getD default

/-- The value of a field, unless it is missing or null. -/
def given? (fields : Table Document) (name : String) : Option Document :=
  (fields.getD name .null).given?

end Table

end PipelineOverride
