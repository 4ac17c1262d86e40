import PipelineOverride.Yaml.Token

/-!
# Nodes of YAML

The tree that the tokens of a text write, with every tag in full and every alias replaced by what it
stands for. Untagged nodes get the tag of their kind; an untagged plain scalar gets the tag that its
text asks for.
-/

set_option autoImplicit false

namespace PipelineOverride.Yaml

inductive Node where
  | scalar (tag : String) (text : String)
  | sequence (tag : String) (items : List Node)
  | mapping (tag : String) (pairs : List (Node × Node))
  deriving Inhabited

def Node.tag : Node → String
  | .scalar tag _ => tag
  | .sequence tag _ => tag
  | .mapping tag _ => tag

/-- What all tags of the language itself begin with. -/
def standardTag (name : String) : String :=
  "tag:yaml.org,2002:" ++ name

/-- The handles of tags that are known in a document, with what they stand for. -/
abbrev Handles := List (String × String)

/-- The handles that are known without a directive. -/
def standardHandles : Handles := [("!", "!"), ("!!", standardTag "")]

/-- What is known while nodes are read. -/
structure NodeState where
  tokens : List Token
  handles : Handles := standardHandles
  /-- The nodes that have names. -/
  anchors : List (String × Node) := []

/-- A step of reading nodes. -/
abbrev NodeReader := StateT NodeState (Except Failure)

namespace NodeReader

/-- The tokens are no document. -/
def refuse {α : Type} : NodeReader α :=
  throw .badYaml

def peek : NodeReader (Option Token) :=
  return (← get).tokens.head?

/-- Goes on after the next token. -/
def drop : NodeReader Unit :=
  modify fun state => { state with tokens := state.tokens.tail }

def comes (among : List Token) : NodeReader Bool := do
  return (← peek).any among.contains

/-- Goes on after a token if it comes next. -/
def take (token : Token) : NodeReader Bool := do
  if ← comes [token] then
    drop
    return true
  else return false

/-- Goes on after a token, which must come next. -/
def need (token : Token) : NodeReader Unit := do
  if !(← take token) then refuse

def fullTag (name : TagName) : NodeReader String := do
  match name.handle with
  | none => return name.suffix
  | some handle =>
    match (← get).handles.find? fun known => known.1 == handle with
    | some known => return known.2 ++ name.suffix
    | none => refuse

/-- The anchor and the tag in front of a node, in either order. -/
def properties : NodeReader (Option String × Option String) := do
  match ← peek with
  | some (.anchor anchor) =>
    drop
    match ← peek with
    | some (.tag tag) =>
      drop
      return (some anchor, some (← fullTag tag))
    | _ => return (some anchor, none)
  | some (.tag tag) =>
    drop
    match ← peek with
    | some (.anchor anchor) =>
      drop
      return (some anchor, some (← fullTag tag))
    | _ => return (none, some (← fullTag tag))
  | _ => return (none, none)

def collectionTag (tag : Option String) (kind : String) : String :=
  match tag with
  | some tag => if tag == "!" then standardTag kind else tag
  | none => standardTag kind

def resolveAlias (name : String) : NodeReader Node := do
  match (← get).anchors.find? fun known => known.1 == name with
  | some known => return known.2
  | none => refuse

/-- Gives a node its name, which must be new. -/
def nameNode (anchor : Option String) (node : Node) : NodeReader Node := do
  match anchor with
  | none => return node
  | some name =>
    if (← get).anchors.any fun known => known.1 == name then refuse
    modify fun state => { state with anchors := (name, node) :: state.anchors }
    return node

/-- The tag of a scalar. The tag of an untagged plain one, and of one whose tag is a lone
exclamation mark, follows from its text. -/
def scalarTag (implicitTag : String → String) (tag : Option String) (text : String)
    (plain : Bool) : String :=
  match tag with
  | some tag => if tag == "!" then implicitTag text else tag
  | none => if plain then implicitTag text else standardTag "str"

/-- The node of nothing, where a node may be left out. -/
def empty (implicitTag : String → String) : Node :=
  .scalar (implicitTag "") ""

/-- Where a node can stand. -/
inductive Place where
  /-- Inside brackets. -/
  | flow
  /-- In a block. -/
  | block
  /-- In a block, where a list may stand at the indentation of its key. -/
  | field
  deriving DecidableEq

mutual

def node (implicitTag : String → String) (place : Place) : Nat → NodeReader Node
  | 0 => refuse
  | fuel + 1 => do
    match ← peek with
    | some (.alias name) =>
      drop
      resolveAlias name
    | _ =>
      let (anchor, tag) ← properties
      match ← peek with
      | some (.scalar text plain) =>
        drop
        nameNode anchor (.scalar (scalarTag implicitTag tag text plain) text)
      | some .item =>
        if place = .field then
          let items ← looseItems implicitTag fuel
          nameNode anchor (.sequence (collectionTag tag "seq") items)
        else blank implicitTag anchor tag
      | some .sequenceOpen =>
        drop
        let items ← flowItems implicitTag true fuel
        nameNode anchor (.sequence (collectionTag tag "seq") items)
      | some .mappingOpen =>
        drop
        let pairs ← flowPairs implicitTag true fuel
        nameNode anchor (.mapping (collectionTag tag "map") pairs)
      | some .blockSequenceStart =>
        if place = .flow then blank implicitTag anchor tag
        else
          drop
          let items ← blockItems implicitTag fuel
          nameNode anchor (.sequence (collectionTag tag "seq") items)
      | some .blockMappingStart =>
        if place = .flow then blank implicitTag anchor tag
        else
          drop
          let pairs ← blockPairs implicitTag fuel
          nameNode anchor (.mapping (collectionTag tag "map") pairs)
      | _ => blank implicitTag anchor tag
where
  /-- A node of which only the anchor or the tag is there. -/
  blank (implicitTag : String → String) (anchor tag : Option String) : NodeReader Node :=
    if anchor.isNone && tag.isNone then refuse
    else nameNode anchor (.scalar (scalarTag implicitTag tag "" true) "")

/-- A node, or the node of nothing before one of some tokens. -/
def nodeBefore (implicitTag : String → String) (place : Place) (ends : List Token) :
    Nat → NodeReader Node
  | 0 => refuse
  | fuel + 1 => do
    if ← comes ends then return empty implicitTag else node implicitTag place fuel

/-- The items of a block sequence up to its end. -/
def blockItems (implicitTag : String → String) : Nat → NodeReader (List Node)
  | 0 => refuse
  | fuel + 1 => do
    if ← take .item then
      let first ← nodeBefore implicitTag .block [.item, .blockEnd] fuel
      let others ← blockItems implicitTag fuel
      return first :: others
    else
      need .blockEnd
      return []

/-- The items of a list at the indentation of its key. -/
def looseItems (implicitTag : String → String) : Nat → NodeReader (List Node)
  | 0 => refuse
  | fuel + 1 => do
    if ← take .item then
      let first ← nodeBefore implicitTag .block [.item, .key, .value, .blockEnd] fuel
      let others ← looseItems implicitTag fuel
      return first :: others
    else return []

/-- The pairs of a block mapping up to its end. -/
def blockPairs (implicitTag : String → String) : Nat → NodeReader (List (Node × Node))
  | 0 => refuse
  | fuel + 1 => do
    let ends := [Token.key, .value, .blockEnd]
    if ← take .key then
      let key ← nodeBefore implicitTag .field ends fuel
      let value ← valueBefore implicitTag .field ends fuel
      let others ← blockPairs implicitTag fuel
      return (key, value) :: others
    else
      need .blockEnd
      return []

/-- The value of a pair, or the node of nothing if there is no colon. -/
def valueBefore (implicitTag : String → String) (place : Place) (ends : List Token) :
    Nat → NodeReader Node
  | 0 => refuse
  | fuel + 1 => do
    if ← take .value then nodeBefore implicitTag place ends fuel
    else return empty implicitTag

/-- The items of a sequence in brackets up to its closing one. A pair among them is a mapping of
its own. -/
def flowItems (implicitTag : String → String) (isFirst : Bool) : Nat → NodeReader (List Node)
  | 0 => refuse
  | fuel + 1 => do
    if ← take .sequenceClose then return []
    if !isFirst then need .entry
    let ends := [Token.entry, .sequenceClose]
    if ← take .key then
      let key ← nodeBefore implicitTag .flow (.value :: ends) fuel
      let value ← valueBefore implicitTag .flow ends fuel
      let others ← flowItems implicitTag false fuel
      return .mapping (standardTag "map") [(key, value)] :: others
    else if ← take .sequenceClose then return []
    else
      let first ← node implicitTag .flow fuel
      let others ← flowItems implicitTag false fuel
      return first :: others

/-- The pairs of a mapping in braces up to its closing one. -/
def flowPairs (implicitTag : String → String) (isFirst : Bool) :
    Nat → NodeReader (List (Node × Node))
  | 0 => refuse
  | fuel + 1 => do
    if ← take .mappingClose then return []
    if !isFirst then need .entry
    let ends := [Token.entry, .mappingClose]
    if ← take .key then
      let key ← nodeBefore implicitTag .flow (.value :: ends) fuel
      let value ← valueBefore implicitTag .flow ends fuel
      let others ← flowPairs implicitTag false fuel
      return (key, value) :: others
    else if ← take .mappingClose then return []
    else
      let key ← node implicitTag .flow fuel
      let others ← flowPairs implicitTag false fuel
      return (key, empty implicitTag) :: others

end

/-- The handles that directives add, each once. Only the first major version is known. -/
def directives : Nat → Bool → Handles → NodeReader Handles
  | 0, _, _ => refuse
  | fuel + 1, versioned, handles => do
    match ← peek with
    | some (.directive directive) =>
      drop
      match directive with
      | .version major =>
        if versioned || major != 1 then refuse
        directives fuel true handles
      | .tag handle meaning =>
        if handles.any fun known => known.1 == handle then refuse
        directives fuel versioned ((handle, meaning) :: handles)
      | .other => directives fuel versioned handles
    | _ => return handles

/-- Goes on after marks at the end of a document. -/
def skipDocumentEnds : Nat → NodeReader Unit
  | 0 => refuse
  | fuel + 1 => do if ← take .documentEnd then skipDocumentEnds fuel

/-- The only document of a text, none if the text holds none. -/
def document (implicitTag : String → String) (fuel : Nat) : NodeReader (Option Node) := do
  match ← peek with
  | none => return none
  | some first =>
    let explicit :=
      match first with
      | .directive _ => true
      | .documentStart => true
      | _ => false
    let root ←
      if explicit then
        let handles ← directives fuel false []
        modify fun state => { state with handles := handles ++ standardHandles }
        need .documentStart
        match ← peek with
        | none => pure (empty implicitTag)
        | some (.directive _) => pure (empty implicitTag)
        | some .documentStart => pure (empty implicitTag)
        | some .documentEnd => pure (empty implicitTag)
        | _ => node implicitTag .block fuel
      else node implicitTag .block fuel
    skipDocumentEnds fuel
    if (← peek).isSome then refuse
    return some root

end NodeReader

/-- The document that tokens write, none if they write none. Each level of nesting takes a token
at least, so their number bounds the depth. -/
def Node.ofTokens (implicitTag : String → String) (tokens : List Token) :
    Except Failure (Option Node) := do
  let (root, _) ← (NodeReader.document implicitTag (4 * tokens.length + 8)).run { tokens := tokens }
  return root

end PipelineOverride.Yaml
