import PipelineOverride.Text.Case

/-!
# Paths of files

A path begins at the working directory or at the root of the file system. Steps that stand for the
same directory are dropped when a path is read; steps to the parent are kept until the path is
resolved.
-/

set_option autoImplicit false

namespace PipelineOverride

/-- Where a path begins. -/
inductive Anchor where
  /-- The working directory, which the text of the path does not name. -/
  | here
  | root
  /-- The root, written with two slashes. -/
  | doubledRoot
  deriving DecidableEq, Repr

structure FilePath where
  anchor : Anchor
  steps : List String
  deriving DecidableEq, Repr

namespace FilePath

/-- What a text has between its slashes. -/
def piecesOf (s : String) : List String :=
  (s.toList.splitOn '/').map String.ofList

/-- The steps that a text writes. -/
def stepsOf (s : String) : List String :=
  (piecesOf s).filter fun step => step != "" && step != "."

/-- The root as a text that begins with a slash writes it. More than two slashes count as one. -/
def rootOf (s : String) : Anchor :=
  if s.startsWith "//" && !s.startsWith "///" then .doubledRoot else .root

/-- A path that a text writes, below a given one unless it is absolute. -/
def below (base : FilePath) (s : String) : FilePath :=
  if s.startsWith "/" then ⟨rootOf s, stepsOf s⟩ else { base with steps := base.steps ++ stepsOf s }

/-- The path that a text writes, as seen from the working directory. -/
def ofText (s : String) : FilePath :=
  below ⟨.here, []⟩ s

/-- The text of a path. -/
def text (path : FilePath) : String :=
  let joined := "/".intercalate path.steps
  match path.anchor with
  | .here => if path.steps.isEmpty then "." else joined
  | .root => "/" ++ joined
  | .doubledRoot => "//" ++ joined

/-- The directory that holds what a path leads to. -/
def parent (path : FilePath) : FilePath :=
  { path with steps := path.steps.dropLast }

/-- Follows steps from the root on, with the steps so far in reverse. The root is its own parent. -/
def follow (back : List String) : List String → List String
  | [] => back.reverse
  | step :: rest =>
    if step = "" ∨ step = "." then follow back rest
    else if step = ".." then follow back.tail rest
    else follow (step :: back) rest

/-- The ending of the last step in lower case, with its point. A name that begins or ends with its
last point has none. -/
def ending (path : FilePath) : String :=
  let name := (path.steps.getLast?.getD "").toList
  let tail := (name.reverse.takeWhile (· != '.')).reverse
  if tail.length = name.length || tail.isEmpty || tail.length + 1 = name.length then ""
  else Text.lower (String.ofList ('.' :: tail))

end FilePath

end PipelineOverride
