import PipelineOverride.Proofs.Compilation.Isolation
import PipelineOverride.Proofs.Compilation.WellFormed
import PipelineOverride.Proofs.Json.RoundTrip

/-!
# Rendered overrides

The text that is rendered of a task is read as what the task compiles to, with every key in its
place, whatever the user entered. The reader is the one that coerces what is entered for numbers.
-/

set_option autoImplicit false

namespace PipelineOverride

variable {compiler : Compiler} {selected : SelectedTask} {requested : Option OutputMode}
  {document : Document}

/-!
## Loaded parts
-/

theorem Bundled.wellFormedParts :
    WellFormedParts Bundled.catalog.tasks Bundled.catalog.options := by
  constructor
  · show ∀ task ∈ Bundled.catalog.tasks, ∀ base ∈ task.override, base.WellFormed
    decide
  · show ∀ entry ∈ Bundled.catalog.options, ∀ branch ∈ entry.2.cases,
      ∀ payload ∈ branch.override, payload.WellFormed
    decide

theorem WellFormedParts.of_catalog {catalog : Catalog} (valid : catalog.Valid) :
    WellFormedParts catalog.tasks catalog.options := by
  rcases valid with rfl | ⟨document, source, wellFormed, read⟩
  · exact Bundled.wellFormedParts
  · obtain ⟨project, accepted, rfl⟩ := Catalog.ofDocument_eq_ok_iff.1 read
    have parts := WellFormedParts.of_document wellFormed (Project.checked_eq_ok_iff.1 accepted).2
    refine ⟨fun task member => ?_, parts.options⟩
    exact parts.tasks task (Catalog.firstOfEachName_subset [] project.tasks member)

/-- A compiler is well formed if its project was read from a well-formed document and its catalog
is valid. -/
theorem Compiler.WellFormed.of_loaded (project : ∀ project, compiler.project = some project →
      ∃ document : Document, document.WellFormed ∧ Project.ofDocument document = .ok project)
    (catalog : compiler.catalog.Valid) : compiler.WellFormed := by
  refine ⟨fun loaded isProject => ?_, .of_catalog catalog⟩
  obtain ⟨document, wellFormed, read⟩ := project loaded isProject
  exact .of_document wellFormed read

/-!
## Rendering
-/

/-- What is rendered is the JSON text of what is compiled, if it has one. -/
theorem Compiler.render_eq_ok_iff {text : String}
    (compiles : (compiler.compile selected requested).outcome = .ok document) :
    (compiler.render selected requested).outcome = .ok text
      ↔ Json.compact? document = some text := by
  rw [render, Report.outcome_bind, compiles, Except.ok_bind]
  cases Json.compact? document with
  | none => exact iff_of_false nofun nofun
  | some written => simp

theorem Compiler.render_reads_back (formed : document.WellFormed)
    (compiles : (compiler.compile selected requested).outcome = .ok document)
    (plain : document.Plain) :
    (∀ text, (compiler.render selected requested).outcome = .ok text →
        Json.read? Json.strict text = some document)
      ∧ ((∃ text, (compiler.render selected requested).outcome = .ok text)
        ↔ document.IsJson) := by
  simp only [render_eq_ok_iff compiles]
  constructor
  · intro text written
    exact Json.read?_compact? plain formed written
  · rw [← Option.isSome_iff_exists]
    exact Json.compact?_isSome_iff plain formed

/-- Whatever text is rendered of a task is read as the override that the task compiles to, if the
override has only texts for keys, no floating-point number and no integer that is too long to be
read. There is a text exactly if the override holds JSON values only. That no mapping of a project,
a catalog or the selections has a key twice is what every reader of them ensures. -/
theorem rendered_override_reads_back (wellFormed : compiler.WellFormed)
    (entered : selected.values.WellFormed)
    (compiles : (compiler.compile selected requested).outcome = .ok document)
    (plain : document.Plain) :
    (∀ text, (compiler.render selected requested).outcome = .ok text →
        Json.read? Json.strict text = some document)
      ∧ ((∃ text, (compiler.render selected requested).outcome = .ok text)
        ↔ document.IsJson) :=
  Compiler.render_reads_back (Compiler.compile_wellFormed wellFormed entered compiles) compiles
    plain

/-- So is the text that is rendered of a task of a loaded project or catalog, if nothing but texts
was entered. -/
theorem loaded_override_reads_back
    (project : ∀ project, compiler.project = some project →
      ∃ document : Document, document.WellFormed ∧ Project.ofDocument document = .ok project)
    (catalog : compiler.catalog.Valid) (texts : selected.values.TextValues)
    (compiles : (compiler.compile selected requested).outcome = .ok document)
    (plain : document.Plain) :
    (∀ text, (compiler.render selected requested).outcome = .ok text →
        Json.read? Json.strict text = some document)
      ∧ ((∃ text, (compiler.render selected requested).outcome = .ok text)
        ↔ document.IsJson) :=
  Compiler.render_reads_back (Compiler.compile_wellFormed (.of_loaded project catalog)
    texts.wellFormed compiles) compiles plain

/-!
## A template with an awkward text
-/

/-- A text with both marks that JSON escapes, a control character, braces and a letter beyond
ASCII. -/
def awkwardText : String := "\"\\\n\x01\x7bé\x7d"

/-- A form whose template takes the text of its slot for a key and inside a value. -/
def greeting : OptionDefinition := .input {
  slots := [⟨"who", "", .string, none, noText, noText, noText, .text "text"⟩]
  override := some (.mapping [(.text "\x7bwho\x7d",
    .list [.text "Hi \x7bwho\x7d", .int (-3), .null, .mapping []])])
  label := noText
  description := noText }

def greetingTask : Task :=
  { layeredTask with override := none }

def greetingCompiler : Compiler where
  project := some ⟨noText, "1", [greetingTask], [(.text "O", greeting)]⟩
  catalog := ⟨[], []⟩
  settings := {}

def greetingSelected : SelectedTask where
  taskName := "T"
  values := [(.text "O", .input [(.text "who", .text awkwardText)])]

def greetingOverride : Document :=
  .mapping [(.text awkwardText,
    .list [.text ("Hi " ++ awkwardText), .int (-3), .null, .mapping []])]

theorem greeting_compiles :
    (greetingCompiler.compile greetingSelected (some .object)).outcome = .ok greetingOverride := by
  have found : greetingCompiler.context? greetingSelected.taskName
      = some ⟨greetingTask, [(.text "O", greeting)], false⟩ := rfl
  have arrived : arrive? [(.text "O", greeting)] [] (.text "O")
      = some ⟨.text "O", greeting⟩ := rfl
  have references : greetingTask.options = [.text "O"] := rfl
  rw [Compiler.compile_outcome_of_context _ found, Compiler.fragments_outcome, resolve, references,
    walk_singleton arrived rfl]
  rfl

theorem greetingCompiler_wellFormed : greetingCompiler.WellFormed := by
  refine ⟨fun project isProject => ?_, ⟨List.forall_mem_nil _, List.forall_mem_nil _⟩⟩
  cases isProject
  constructor
  · intro task member base isBase
    obtain rfl := List.mem_singleton.1 member
    cases isBase
  · intro entry member
    obtain rfl := List.mem_singleton.1 member
    exact List.forall_mem_nil _

theorem greetingSelected_texts : greetingSelected.values.TextValues := by
  intro entry member values isInput
  obtain rfl := List.mem_singleton.1 member
  cases isInput
  intro field fieldMember
  obtain rfl := List.mem_singleton.1 fieldMember
  exact ⟨awkwardText, rfl⟩

theorem greetingOverride_plain : greetingOverride.Plain := by
  have short : Scalar.Plain (.int (-3)) := by
    show (-3 : Int).natAbs < Nat.pow 10 Json.maxDigits
    decide +kernel
  have empty : (Document.mapping []).Plain :=
    .mapping (List.forall_mem_nil _) (List.forall_mem_nil _)
  have items : ∀ item ∈ [Document.text ("Hi " ++ awkwardText), .int (-3), .null, .mapping []],
      item.Plain := by
    simp only [List.forall_mem_cons]
    exact ⟨.scalar trivial, .scalar short, .scalar trivial, empty, List.forall_mem_nil _⟩
  refine .mapping (fun field member => ?_) fun field member => ?_
  · obtain rfl := List.mem_singleton.1 member
    exact ⟨awkwardText, rfl⟩
  · obtain rfl := List.mem_singleton.1 member
    exact .list items

theorem greeting_reads_back :
    (greetingCompiler.compile greetingSelected (some .object)).outcome = .ok greetingOverride
      ∧ ∃ text, (greetingCompiler.render greetingSelected (some .object)).outcome = .ok text
        ∧ Json.read? Json.strict text = some greetingOverride := by
  have reads := (rendered_override_reads_back greetingCompiler_wellFormed
    greetingSelected_texts.wellFormed greeting_compiles greetingOverride_plain).1
  have renders : (greetingCompiler.render greetingSelected (some .object)).outcome
      = .ok ((Json.compact? greetingOverride).getD "") :=
    (Compiler.render_eq_ok_iff greeting_compiles).2 rfl
  exact ⟨greeting_compiles, _, renders, reads _ renders⟩

end PipelineOverride
