import PipelineOverride.Api.Body
import PipelineOverride.Api.Message
import PipelineOverride.Api.Service
import PipelineOverride.Catalog.Basic
import PipelineOverride.Catalog.Bundled
import PipelineOverride.CommandLine.Arguments
import PipelineOverride.CommandLine.Run
import PipelineOverride.Decimal.Binary64
import PipelineOverride.Decimal.Literal
import PipelineOverride.Decimal.Shortest
import PipelineOverride.Document.Basic
import PipelineOverride.Document.Display
import PipelineOverride.Document.Moment
import PipelineOverride.Document.Scalar
import PipelineOverride.Document.Table
import PipelineOverride.Document.Write
import PipelineOverride.Failure
import PipelineOverride.Files.Configuration
import PipelineOverride.Files.Path
import PipelineOverride.Files.ProjectFile
import PipelineOverride.Files.Tree
import PipelineOverride.Json.Printer
import PipelineOverride.Json.Reader
import PipelineOverride.Main
import PipelineOverride.Override.Compilation
import PipelineOverride.Override.Merge
import PipelineOverride.Override.Resolution
import PipelineOverride.Override.Substitution
import PipelineOverride.Pattern.Basic
import PipelineOverride.Pattern.Matcher
import PipelineOverride.Pattern.Parser
import PipelineOverride.Project.Definition
import PipelineOverride.Project.Kinds
import PipelineOverride.Project.Reference
import PipelineOverride.Project.Selection
import PipelineOverride.Report
import PipelineOverride.Session.Basic
import PipelineOverride.Session.Cache
import PipelineOverride.Settings
import PipelineOverride.Text.Base64
import PipelineOverride.Text.Blank
import PipelineOverride.Text.Case
import PipelineOverride.Text.Digit
import PipelineOverride.Text.Printable
import PipelineOverride.Text.Quoted
import PipelineOverride.Text.Ranges
import PipelineOverride.Text.Word
import PipelineOverride.Text.WordEnd
import PipelineOverride.Validation.InputCheck
import PipelineOverride.Validation.Schema
import PipelineOverride.Validation.Structure
import PipelineOverride.Yaml.Cursor
import PipelineOverride.Yaml.Lexer
import PipelineOverride.Yaml.Node
import PipelineOverride.Yaml.Scalars
import PipelineOverride.Yaml.Token
import PipelineOverride.Yaml.Typing
import PipelineOverride.Yaml.Value
import PipelineOverride.Proofs.Resolution.Preorder
import PipelineOverride.Proofs.Document.Distinct
import PipelineOverride.Proofs.Document.WellFormed
import PipelineOverride.Proofs.Merge.Modes
import PipelineOverride.Proofs.Validation.Accepted
import PipelineOverride.Proofs.Substitution.Failure
import PipelineOverride.Proofs.Substitution.RawText
import PipelineOverride.Proofs.Compilation.Returns
import PipelineOverride.Proofs.Substitution.Placeholder
import PipelineOverride.Proofs.Substitution.Simultaneous
import PipelineOverride.Proofs.Resolution.Lookups
import PipelineOverride.Proofs.Compilation.Isolation
import PipelineOverride.Proofs.Validation.Structure
import PipelineOverride.Proofs.Validation.Declared
import PipelineOverride.Proofs.Validation.Readable
import PipelineOverride.Proofs.Resolution.Progress
import PipelineOverride.Proofs.Resolution.Muting
import PipelineOverride.Proofs.Compilation.Containment
import PipelineOverride.Proofs.Compilation.Defaults
import PipelineOverride.Proofs.Files.Chains
import PipelineOverride.Proofs.Files.Folding
import PipelineOverride.Proofs.Catalog.Reach
import PipelineOverride.Proofs.Resolution.Steering
import PipelineOverride.Proofs.Catalog.Scope
import PipelineOverride.Proofs.Settings
import PipelineOverride.Proofs.Compilation.Merged
import PipelineOverride.Proofs.Session.Stability
import PipelineOverride.Proofs.Merge.Paths
import PipelineOverride.Proofs.Merge.Reapplying
import PipelineOverride.Proofs.Merge.Independence
import PipelineOverride.Proofs.Merge.Grouping
import PipelineOverride.Proofs.Substitution.Leaves
import PipelineOverride.Proofs.Substitution.Integers
import PipelineOverride.Proofs.Substitution.Literals
import PipelineOverride.Proofs.Substitution.Fields
import PipelineOverride.Proofs.Validation.Outcome
import PipelineOverride.Proofs.Resolution.Pruning
import PipelineOverride.Proofs.Compilation.Pruned
import PipelineOverride.Proofs.Catalog.Chains
import PipelineOverride.Proofs.Validation.Findings
import PipelineOverride.Proofs.Validation.Parts
import PipelineOverride.Proofs.Files.Acceptance
import PipelineOverride.Proofs.Compilation.Routes
import PipelineOverride.Proofs.Pattern.Turns
import PipelineOverride.Proofs.Validation.TimePattern
import PipelineOverride.Proofs.Compilation.Waiting
import PipelineOverride.Proofs.CommandLine.Names
import PipelineOverride.Proofs.CommandLine.Spellings
import PipelineOverride.Proofs.Api.InputChecks
import PipelineOverride.Proofs.Settings.Fallback
import PipelineOverride.Proofs.Json.RoundTrip
import PipelineOverride.Proofs.Compilation.WellFormed
import PipelineOverride.Proofs.Compilation.Rendered
import PipelineOverride.Proofs.Resolution.Termination
import PipelineOverride.Proofs.Files.Termination
