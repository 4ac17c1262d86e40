import PipelineOverride.CommandLine.Run

/-!
# The program

Reads the environment and the files that a call needs, and prints what the call leaves behind. All
that a call means is decided by `callProgram`.
-/

set_option autoImplicit false

namespace PipelineOverride

/-- The environment variables that the program looks at. -/
def readEnvironment : IO Environment := do
  let builtinOutput ← IO.getEnv "TASKDECK_BUILTIN_OUTPUT"
  let standardOutput ← IO.getEnv "TASKDECK_STANDARD_OUTPUT"
  let logLevel ← IO.getEnv "TASKDECK_LOG_LEVEL"
  return { builtinOutput, standardOutput, logLevel }

/-- The content of the file at steps from the root, if it can be read. -/
def readContent? (steps : List String) : IO (Option (List UInt8)) := do
  try
    let content ← IO.FS.readBinFile ("/" ++ "/".intercalate steps)
    return some content.toList
  catch _ => return none

/-- Adds files to a tree, each with the files that it imports. -/
partial def readFiles (tree : FileTree) : List FilePath → IO FileTree
  | [] => return tree
  | path :: rest => do
    let path := tree.resolve path
    if (tree.content? path.steps).isNone then
      match ← readContent? path.steps with
      | some content =>
        let tree := { tree with files := tree.files ++ [(path.steps, content)] }
        readFiles tree (importTargets tree path ++ rest)
      | none => readFiles tree rest
    else readFiles tree rest

/-- Prints what a call leaves behind and gives its exit code. -/
def report : CallResult → IO UInt32
  | .stopped stop => do
    IO.eprintln "usage: [--log-level LEVEL] compile --task TASK | validate --project FILE | list"
    return UInt32.ofNat stop.exitCode
  | .ended code printed messages => do
    IO.print printed
    messages.forM fun line => IO.eprintln line
    return UInt32.ofNat code
  | .failed failure => do
    IO.eprintln (failure.message?.getD "The call broke off")
    return 1

end PipelineOverride

open PipelineOverride in
/-- Calls the program with the arguments of the process. -/
def main (arguments : List String) : IO UInt32 := do
  let environment ← readEnvironment
  let files := ((Call.ofArguments arguments).toOption.map fun call => call.command.files).getD []
  let home := FilePath.stepsOf ((← IO.getEnv "PWD").getD "/")
  let tree ← readFiles ⟨home, []⟩ files
  report (callProgram environment tree arguments)
