import PipelineOverride.Files.Path

/-!
# File trees

The files of a file system, and where the program works in it. A directory exists as far as it leads
to a file or to the working directory. There are no links.
-/

set_option autoImplicit false

namespace PipelineOverride

/-- A file system with a working directory. -/
structure FileTree where
  /-- The steps from the root to the working directory. -/
  home : List String
  /-- Files by the steps that lead to them from the root. -/
  files : List (List String × List UInt8)

/-- What a path leads to. -/
inductive FileEntry where
  | missing
  | directory
  | file (content : List UInt8)

namespace FileTree

/-- The content of the file at resolved steps. -/
def content? (tree : FileTree) (steps : List String) : Option (List UInt8) :=
  tree.files.lookup steps

def isDirectory (tree : FileTree) (steps : List String) : Bool :=
  steps.isPrefixOf tree.home
    || tree.files.any fun entry => steps.isPrefixOf entry.1 && entry.1 != steps

/-- What resolved steps lead to. -/
def entry (tree : FileTree) (steps : List String) : FileEntry :=
  match tree.content? steps with
  | some content => .file content
  | none => if tree.isDirectory steps then .directory else .missing

/-- The steps of a path from the root on. -/
def stepsTo (tree : FileTree) (path : FilePath) : List String :=
  if path.anchor = .here then tree.home ++ path.steps else path.steps

/-- The absolute path without steps to a parent. -/
def resolve (tree : FileTree) (path : FilePath) : FilePath :=
  ⟨.root, FilePath.follow [] (tree.stepsTo path)⟩

/-- Follows steps from the root on, where every step needs a directory to go on from. -/
def walk (tree : FileTree) (back : List String) : List String → Option (List String)
  | [] => some back.reverse
  | step :: rest =>
    if tree.isDirectory back.reverse then
      if step = "" ∨ step = "." then walk tree back rest
      else if step = ".." then walk tree back.tail rest
      else walk tree (step :: back) rest
    else none

/-- What a path leads to. -/
def look (tree : FileTree) (path : FilePath) : FileEntry :=
  match tree.walk [] (tree.stepsTo path) with
  | some steps => tree.entry steps
  | none => .missing

end FileTree

/-- A text with every line break as a line feed. -/
def plainBreaksOf : List Char → List Char
  | [] => []
  | '\r' :: '\n' :: rest => '\n' :: plainBreaksOf rest
  | c :: rest => (if c = '\r' then '\n' else c) :: plainBreaksOf rest

/-- The text that the content of a file holds, if it holds one. -/
def fileText? (content : List UInt8) : Option String :=
  (String.fromUTF8? ⟨content.toArray⟩).map fun s => String.ofList (plainBreaksOf s.toList)

end PipelineOverride
