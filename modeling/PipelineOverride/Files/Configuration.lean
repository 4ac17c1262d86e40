import PipelineOverride.Catalog.Basic
import PipelineOverride.Files.Tree
import PipelineOverride.Settings
import PipelineOverride.Yaml.Value

/-!
# Settings and catalog files

Both are YAML files. A missing settings file is stood in for by the one that the program ships; a
catalog file must be there.
-/

set_option autoImplicit false

namespace PipelineOverride

def readYamlFile (content : List UInt8) : Except Failure Document :=
  match fileText? content with
  | some s => Yaml.read s
  | none => .error .undecodable

/-- The settings under an environment and the content of a settings file, if there is one. -/
def Settings.load (environment : Environment) : Option (List UInt8) → Report Settings
  | none =>
    let (notices, settings) := bundled environment
    ⟨notices, .ok settings⟩
  | some content => do
    let document ← Report.ofExcept (readYamlFile content)
    ofDocument environment document

def Catalog.load (content : List UInt8) (path : FilePath) : Report Catalog := do
  let document ← Report.ofExcept (readYamlFile content)
  ofFileDocument document path.text

end PipelineOverride
