import PipelineOverride.Document.Basic
import PipelineOverride.Text.Quoted

/-!
# Documents in messages

How a document is shown inside a message. `literal` writes it as an expression, with texts between
quotation marks; `display` leaves a text as it is and agrees with `literal` on everything that is
not a text or a moment. Where an integer has too many digits, there is nothing to show.
-/

set_option autoImplicit false

namespace PipelineOverride

/-- The most digits with which an integer is shown. -/
def maxShownDigits : Nat := 4300

/-- The numbers without digits in messages. -/
def displayNames : Decimal.SpecialNames := ⟨"nan", "inf"⟩

/-- One byte of a byte string in a message. -/
def byteLiteral (mark : Char) (byte : UInt8) : List Char :=
  let c := Char.ofNat byte.toNat
  if c = mark || c = '\\' then ['\\', c]
  else if c = '\n' then ['\\', 'n']
  else if c = '\r' then ['\\', 'r']
  else if c = '\t' then ['\\', 't']
  else if 0x20 ≤ byte && byte < 0x7f then [c]
  else '\\' :: 'x' :: Text.hexDigits 2 byte.toNat

def bytesLiteral (data : List UInt8) : String :=
  let mark := Text.quotationMark (data.map fun byte => Char.ofNat byte.toNat)
  String.ofList ('b' :: mark :: data.flatMap (byteLiteral mark) ++ [mark])

namespace Scalar

def literal : Scalar → String
  | .null => "None"
  | .bool value => if value then "True" else "False"
  | .int value => Decimal.intText value
  | .float value => value.text displayNames
  | .text value => Text.quote value
  | .moment value => value.expression
  | .bytes data => bytesLiteral data

/-- A scalar as a message shows it. -/
def display : Scalar → String
  | .text value => value
  | .moment value => value.text " "
  | other => other.literal

/-- Whether a scalar can be shown, which an integer of too many digits cannot. -/
def isShown : Scalar → Bool
  | .int value => value.natAbs < Nat.pow 10 maxShownDigits
  | _ => true

end Scalar

namespace Document

mutual

def literal : Document → String
  | .scalar value => value.literal
  | .list items => "[" ++ ", ".intercalate (literalItems items) ++ "]"
  | .set [] => "set()"
  | .set members => "\x7b" ++ ", ".intercalate (members.map Scalar.literal) ++ "\x7d"
  | .mapping fields => "\x7b" ++ ", ".intercalate (literalFields fields) ++ "\x7d"

def literalItems : List Document → List String
  | [] => []
  | item :: rest => literal item :: literalItems rest

def literalFields : List (Scalar × Document) → List String
  | [] => []
  | (key, value) :: rest => (key.literal ++ ": " ++ literal value) :: literalFields rest

end

/-- A document as a message shows it. -/
def display : Document → String
  | .scalar value => value.display
  | other => other.literal

mutual

/-- Whether a document can be shown with all its parts. -/
def isShown : Document → Bool
  | .scalar value => value.isShown
  | .list items => itemsShown items
  | .set members => members.all Scalar.isShown
  | .mapping fields => fieldsShown fields

def itemsShown : List Document → Bool
  | [] => true
  | item :: rest => isShown item && itemsShown rest

def fieldsShown : List (Scalar × Document) → Bool
  | [] => true
  | (key, value) :: rest => key.isShown && isShown value && fieldsShown rest

end

end Document

end PipelineOverride
