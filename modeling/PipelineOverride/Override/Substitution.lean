import PipelineOverride.Json.Reader
import PipelineOverride.Override.Resolution

/-!
# Substitution

The template of an input option is filled by walking it as a tree. A text that is exactly the
placeholder of a slot becomes a value of the slot's type; inside longer texts and inside keys the
placeholders of all slots are replaced as text, one slot after another in their order.
-/

set_option autoImplicit false

namespace PipelineOverride

/-- Replaces each occurrence of `pattern`, from the left and without overlaps. The first `skipped`
characters belong to an occurrence that is already replaced. -/
def replaceFrom (pattern replacement : List Char) : Nat → List Char → List Char
  | _, [] => []
  | skipped + 1, _ :: rest => replaceFrom pattern replacement skipped rest
  | 0, c :: rest =>
    if pattern.isPrefixOf (c :: rest) then
      replacement ++ replaceFrom pattern replacement (pattern.length - 1) rest
    else c :: replaceFrom pattern replacement 0 rest

/-- Replaces each occurrence of a pattern that is not empty. -/
def replaceAll (pattern replacement : List Char) (cs : List Char) : List Char :=
  replaceFrom pattern replacement 0 cs

def occursIn (pattern : List Char) : List Char → Bool
  | [] => pattern.isEmpty
  | c :: rest => pattern.isPrefixOf (c :: rest) || occursIn pattern rest

/-- What was entered for a slot, else its default. An explicit empty text is kept. -/
def Slot.rawValue (slot : Slot) (values : Table Document) : Document :=
  let entered := (values.get? slot.name).getD .null
  let raw := if entered.isNull then .text slot.default else entered
  raw.orIfVoid (.text "")

/-- The texts that a truth slot takes for true, in lower case. -/
def trueTexts : List String := ["true", "1", "yes", "y"]

/-- The number that a text writes as JSON. An integer beyond the range of floating-point numbers
is a failure of its own. -/
def readNumber? (s : String) : Except Failure (Option Document) :=
  match Json.read? Json.strict s with
  | some (.int n) => if Decimal.Binary64.overflows n then .error .tooLarge else .ok (some (.int n))
  | some (.float x) => .ok (if x.isFinite then some (.float x) else none)
  | _ => .ok none

/-- The truth value that a raw value stands for. -/
def coerceBool (raw : Document) : Except Failure Bool :=
  match raw.orIfVoid (.text "") with
  | .text s => .ok (trueTexts.contains (Text.lower s))
  | _ => .error .noFields

/-- The value of the slot type that a raw value stands for. -/
def coerce (raw : Document) (type : SlotType) (slot : String) : Except Failure Document :=
  match type with
  | .int =>
    match raw.orIfVoid (.text "0") with
    | .text s => do
      match ← readNumber? s with
      | some number => return number
      | none => throw (.slot ⟨slot, (raw.text?).getD "", .int⟩)
    | _ => .error .wrongKind
  | .bool => (coerceBool raw).map Document.bool
  | .string => .ok raw

/-- The text by which a placeholder inside a longer text is replaced. -/
def textForm (raw : Document) (type : SlotType) : Except Failure String :=
  match type with
  | .int =>
    match raw.orIfVoid (.text "0") with
    | .text s => .ok s
    | _ => .error .wrongKind
  | .bool => (coerceBool raw).map fun value => if value then "true" else "false"
  | .string =>
    match raw with
    | .text s => .ok s
    | _ => .error .wrongKind

/-- Replaces the placeholders of slots in a text, one slot after another. -/
def substituteText : List (Slot × Document) → List Char → Except Failure (List Char)
  | [], cs => .ok cs
  | (slot, raw) :: rest, cs =>
    let pattern := slot.placeholder.toList
    if occursIn pattern cs then do
      let replacement ← textForm raw slot.type
      substituteText rest (replaceAll pattern replacement.toList cs)
    else substituteText rest cs

/-- The first slot whose placeholder is a whole text. -/
def wholeSlot? (slots : List (Slot × Document)) (s : String) : Option (Slot × Document) :=
  slots.find? fun entry => s = entry.1.placeholder

/-- A text after substitution: a value of the slot's type if it is one placeholder, else a text. -/
def substituteLeaf (slots : List (Slot × Document)) (s : String) : Except Failure Document :=
  match wholeSlot? slots s with
  | some (slot, raw) => coerce raw slot.type slot.name
  | none => (substituteText slots s.toList).map fun cs => .text (String.ofList cs)

def substituteKey (slots : List (Slot × Document)) : Scalar → Except Failure Scalar
  | .text s => (substituteText slots s.toList).map fun cs => .text (String.ofList cs)
  | other => .ok other

mutual

/-- A template after substitution. Where two keys become one, the later field decides. -/
def substitute (slots : List (Slot × Document)) : Document → Except Failure Document
  | .scalar (.text s) => substituteLeaf slots s
  | .scalar value => .ok (.scalar value)
  | .set members => .ok (.set members)
  | .list items => (substituteItems slots items).map .list
  | .mapping fields =>
    (substituteFields slots fields).map fun fields => .mapping (Table.ofEntries fields)

def substituteItems (slots : List (Slot × Document)) :
    List Document → Except Failure (List Document)
  | [] => .ok []
  | item :: rest => do
    let item ← substitute slots item
    let others ← substituteItems slots rest
    return item :: others

/-- The fields of a mapping after substitution, each key before its value. -/
def substituteFields (slots : List (Slot × Document)) :
    List (Scalar × Document) → Except Failure (List (Scalar × Document))
  | [] => .ok []
  | (key, value) :: rest => do
    let key ← substituteKey slots key
    let value ← substitute slots value
    let others ← substituteFields slots rest
    return (key, value) :: others

end

def rawValues (slots : List Slot) (values : Table Document) : List (Slot × Document) :=
  slots.map fun slot => (slot, slot.rawValue values)

/-- Fills a template with what was entered for its slots. -/
def fillTemplate (body : Document) (slots : List Slot) (values : Table Document) :
    Except Failure Document :=
  substitute (rawValues slots values) body

/-- The override of a fragment. A template with a slot error is dropped with a notice. -/
def Fragment.render : Fragment → Report (Option Document)
  | .static _ payload => .done (some payload)
  | .template id body slots values =>
    match fillTemplate body slots values with
    | .ok document => .done (some document)
    | .error (.slot error) =>
      ⟨[⟨.warning, .compiler, "Dropping override of option '" ++ id.display ++ "': "
        ++ error.message⟩], .ok none⟩
    | .error failure => .fail failure

/-- The overrides of fragments, in order, without the dropped ones. -/
def renderFragments : List Fragment → Report (List Document)
  | [] => .done []
  | fragment :: rest => do
    let first ← fragment.render
    let others ← renderFragments rest
    return first.toList ++ others

end PipelineOverride
