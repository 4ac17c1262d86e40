import Mathlib.Algebra.GroupWithZero.Nat
import Mathlib.Data.Set.List
import PipelineOverride.Proofs.Validation.Outcome

/-!
# What the structural checks find

On a document of the right shape the structural checks count: an error for each option with too few
or too many cases and for each name that an earlier case or slot has, a warning for each default
case that names no case and for each task that is called like an earlier one. A name is a repeat if
it is among those before it, which the checks decide by the keys that they have seen so far.
-/

set_option autoImplicit false

namespace PipelineOverride

/-- The names that are among those before them, with their places. -/
def repeats (names : List String) : List (String × Nat) :=
  names.zipIdx.filter fun entry => entry.1 ∈ names.take entry.2

/-- The names that mappings among documents give as texts. -/
def textNames (documents : List Document) : List String :=
  documents.filterMap fun document =>
    document.fields?.bind fun own => (own.get? "name").bind Document.text?

namespace Table

/-- The items of a list field. A missing field has none. -/
def items (fields : Table Document) (name : String) : List Document :=
  match fields.getD name (.list []) with
  | .list items => items
  | _ => []

def caseNames (own : Table Document) : List String :=
  textNames (own.items "cases")

def slotNames (own : Table Document) : List String :=
  textNames (own.items "inputs")

/-- How much is wrong with an option: a number of cases that its kind does not allow, and each name
that an earlier case or slot has. -/
def faults (own : Table Document) : Nat :=
  match own.namedKind? with
  | some .switch =>
      (if (own.items "cases").length = 2 then 0 else 1) + (repeats own.caseNames).length
  | some .select =>
      (if (own.items "cases").length = 0 then 1 else 0) + (repeats own.caseNames).length
  | some .input => (repeats own.slotNames).length
  | none => 0

/-- A switch has two cases, a select option has some, and cases or slots have distinct names. -/
structure Proper (own : Table Document) : Prop where
  twoCases : own.namedKind? = some .switch → (own.items "cases").length = 2
  someCase : own.namedKind? = some .select → own.items "cases" ≠ []
  distinctCases : own.namedKind? ≠ some .input → own.caseNames.Nodup
  distinctSlots : own.namedKind? = some .input → own.slotNames.Nodup

end Table

/-- The warning about an option with cases whose default case names none of them. -/
def danglingDefault? (id : Scalar) (own : Table Document) : Option Issue :=
  match own.get? "default_case" with
  | some (.text name) =>
      if own.namedKind? = some .input ∨ name ∈ own.caseNames then none
      else some {
        path := "option." ++ id.display ++ ".default_case"
        message := "default_case '" ++ name ++ "' does not name a case" }
  | _ => none

/-- The warning about a task that is called like an earlier one. -/
def repeatedTask (name : String) (index : Nat) : Issue where
  path := "task." ++ Decimal.natText index ++ ".name"
  message := "duplicate task name '" ++ name ++ "', first definition wins"

/-- Checks return with so many errors and with these warnings. -/
def Finds (outcome : Except Failure Findings) (errors : Nat) (warnings : List Issue) : Prop :=
  ∃ findings, outcome = .ok findings ∧ findings.errors.length = errors
    ∧ findings.warnings = warnings

@[simp] theorem Findings.warnings_append (a b : Findings) :
    (a ++ b).warnings = a.warnings ++ b.warnings := rfl

variable {seen : List Scalar} {earlier names : List String} {own : Table Document}
  {document : Document} {path : String}

/-!
## Repeats
-/

/-- The repeats of a list that goes on from earlier names. -/
def repeatsFrom (earlier names : List String) : List (String × Nat) :=
  (names.zipIdx earlier.length).filter fun entry => entry.1 ∈ (earlier ++ names).take entry.2

theorem repeatsFrom_cons (earlier : List String) (name : String) (names : List String) :
    repeatsFrom earlier (name :: names) =
      (if name ∈ earlier then [(name, earlier.length)] else [])
        ++ repeatsFrom (earlier ++ [name]) names := by
  have rest : (earlier ++ [name]) ++ names = earlier ++ name :: names := by simp
  rw [repeatsFrom, repeatsFrom, rest, List.length_append, List.zipIdx_cons, List.filter_cons,
    List.take_left]
  by_cases before : name ∈ earlier
  · simp [before]
  · simp [before]

theorem repeatsFrom_eq_nil_iff : repeatsFrom earlier names = []
    ↔ names.Nodup ∧ ∀ name ∈ names, name ∉ earlier := by
  induction names generalizing earlier with
  | nil => simp [repeatsFrom]
  | cons name rest ih =>
      rw [repeatsFrom_cons, List.append_eq_nil_iff, ih, List.nodup_cons, List.forall_mem_cons]
      simp only [ite_eq_right_iff, List.cons_ne_nil, imp_false, List.mem_append,
        List.mem_singleton, not_or]
      grind

theorem repeats_eq_nil_iff : repeats names = [] ↔ names.Nodup := by
  change repeatsFrom [] names = [] ↔ _
  simp [repeatsFrom_eq_nil_iff]

/-- The keys that are seen are the given names. -/
def Holds (seen : List Scalar) (names : List String) : Prop :=
  ∀ name, (seen.any fun other => other.same (.text name)) = decide (name ∈ names)

theorem Holds.nil : Holds [] [] := by
  simp [Holds]

theorem Holds.cons (holds : Holds seen earlier) (name : String) :
    Holds (.text name :: seen) (earlier ++ [name]) := by
  intro other
  rw [List.any_cons, holds, Bool.eq_iff_iff]
  simp only [Bool.or_eq_true, Scalar.same_text, decide_eq_true_eq, List.mem_append,
    List.mem_singleton]
  grind

/-- A name that is there again changes nothing. -/
theorem Holds.again {name : String} (holds : Holds seen earlier) (before : name ∈ earlier) :
    Holds seen (earlier ++ [name]) := by
  intro other
  rw [holds, decide_eq_decide, List.mem_append, List.mem_singleton]
  grind

theorem markRepeats_texts (holds : Holds seen earlier) (names : List String) :
    ∃ keys, markRepeats seen (names.map .text) = .ok
        ((names.zipIdx earlier.length).map fun entry =>
          (.text entry.1, decide (entry.1 ∈ (earlier ++ names).take entry.2)), keys)
      ∧ Holds keys (earlier ++ names) := by
  induction names generalizing seen earlier with
  | nil => exact ⟨seen, rfl, by rwa [List.append_nil]⟩
  | cons name rest ih =>
      have goesOn : Holds (if name ∈ earlier then seen else .text name :: seen)
          (earlier ++ [name]) := by
        split
        · exact holds.again ‹_›
        · exact holds.cons name
      obtain ⟨keys, marks, holdsAll⟩ := ih goesOn
      have whole : (earlier ++ [name]) ++ rest = earlier ++ name :: rest := by simp
      rw [whole, List.length_append] at marks
      refine ⟨keys, ?_, whole ▸ holdsAll⟩
      have shown : Scalar.isShown (.text name) = true := rfl
      simp only [List.map_cons, markRepeats, Document.scalar?, holds name, decide_eq_true_eq,
        shown, Bool.not_true, Bool.and_false, Bool.false_eq_true, if_false, marks, Except.ok_bind,
        List.zipIdx_cons, List.take_left, List.length_singleton]
      rfl

theorem filterMap_ite {α β : Type} (items : List α) (holds : α → Bool) (result : α → β) :
    (items.filterMap fun item => if holds item = true then some (result item) else none)
      = (items.filter holds).map result := by
  induction items with
  | nil => rfl
  | cons item rest ih =>
      by_cases here : holds item = true
      · simp [here, ih]
      · simp [here, ih]

/-!
## Cases
-/

theorem items_eq {fields : Table Document} {name : String} {documents : List Document}
    (isList : fields.getD name (.list []) = .list documents) : fields.items name = documents := by
  rw [Table.items, isList]

theorem textNames_cons {fields : Table Document} {name : String}
    (found : fields.get? "name" = some (.text name)) (rest : List Document) :
    textNames (.mapping fields :: rest) = name :: textNames rest := by
  simp [textNames, Document.fields?, found, Document.text?]

theorem givenNames_eq_texts {documents : List Document} (named : ∀ document ∈ documents,
    ∃ (fields : Table Document) (name : String), document = .mapping fields
      ∧ fields.get? "name" = some (.text name)) :
    givenNames documents = (textNames documents).map .text := by
  induction documents with
  | nil => rfl
  | cons document rest ih =>
      obtain ⟨fields, name, rfl, found⟩ := named document (.head _)
      have given : givenNames (.mapping fields :: rest) = .text name :: givenNames rest := by
        simp [givenNames, Document.fields?, Table.getD, found]
      rw [textNames_cons found, given, ih fun other member => named other (.tail _ member),
        List.map_cons]

theorem length_repeatedCaseNames (path : String) (names : List String) :
    (repeatedCaseNames path ((names.zipIdx 0).map fun entry =>
      (.text entry.1, decide (entry.1 ∈ names.take entry.2)))).length
        = (repeats names).length := by
  rw [repeatedCaseNames, List.filterMap_map]
  simp only [Function.comp_def]
  rw [filterMap_ite, List.length_map, repeats]

/-- The warnings about an option with cases are those that its default case gives. -/
theorem checkDefaultCase_texts (id : Scalar) {keys : List Scalar}
    (fits : ProjectSchema.option.Meets (.mapping own)) (hasCases : own.namedKind? ≠ some .input)
    (holds : Holds keys own.caseNames) :
    checkDefaultCase ("option." ++ id.display) own keys
      = .ok ⟨[], (danglingDefault? id own).toList⟩ := by
  rw [checkDefaultCase, Table.given?, Table.getD, danglingDefault?]
  cases found : own.get? "default_case" with
  | none => rfl
  | some document =>
      obtain ⟨name, rfl⟩ := meets_string (Schema.meets_fields.1 (fields_of_meets fits)
        ("default_case", ProjectSchema.string) (by simp) document found)
      simp only [Option.getD_some, Document.given?, Document.isNull, Bool.false_eq_true,
        if_false, Document.scalar?, holds name, decide_eq_true_eq, hasCases, false_or]
      by_cases among : name ∈ own.caseNames
      · rw [if_pos among, if_pos among]
        rfl
      · rw [if_neg among, if_neg among]
        rfl

theorem checkCaseCount_length (path : String) (kind : OptionKind) (count : Nat) :
    (checkCaseCount path kind count).errors.length
        = (if kind = .switch then if count = 2 then 0 else 1 else if count = 0 then 1 else 0)
      ∧ (checkCaseCount path kind count).warnings = [] := by
  rw [checkCaseCount]
  split
  · split <;> exact ⟨rfl, rfl⟩
  · split <;> exact ⟨rfl, rfl⟩

theorem checkCases_finds {id : Scalar} {kind : OptionKind}
    (fits : ProjectSchema.option.Meets (.mapping own)) (isKind : own.namedKind? = some kind)
    (hasCases : kind ≠ .input) :
    Finds (checkCases ("option." ++ id.display) kind own) own.faults
      (danglingDefault? id own).toList := by
  obtain ⟨cases, isList, isListToo, fitCase⟩ :=
    items_of_meets "cases" ProjectSchema.case (fields_of_meets fits) (by simp)
  have areCases : own.items "cases" = cases := items_eq isList
  have names : givenNames cases = own.caseNames.map .text := by
    rw [Table.caseNames, areCases]
    exact givenNames_eq_texts fun branch member => named_of_meets (fitCase branch member) (by simp)
  obtain ⟨keys, marks, holds⟩ := markRepeats_texts .nil own.caseNames
  have warned := checkDefaultCase_texts id fits (by simp [isKind, hasCases]) holds
  obtain ⟨counted, unwarned⟩ :=
    checkCaseCount_length ("option." ++ id.display) kind cases.length
  rw [checkCases, isListToo]
  simp only [Document.elements, Document.elements?, Except.ok_bind, names, marks, warned]
  refine ⟨_, rfl, ?_, ?_⟩
  · simp only [Findings.errors_append, List.length_append, counted, List.nil_append,
      List.length_nil, length_repeatedCaseNames, Nat.add_zero]
    rw [Table.faults, isKind, areCases]
    cases kind with
    | input => exact absurd rfl hasCases
    | select => rfl
    | switch => rfl
  · simp only [Findings.warnings_append, unwarned, List.nil_append]

/-!
## Slots
-/

/-- A slot whose type has a meaning has an error exactly if its name is taken. -/
theorem checkSlot_finds (fits : ProjectSchema.slot.Meets (.mapping own)) (place name : String)
    (taken : Bool) :
    Finds (checkSlot place own (.text name) taken) (if taken then 1 else 0) [] := by
  obtain ⟨given, type, isGiven, isType⟩ := slotType_of_meets fits
  have typed : checkSlotType place own = .ok .none := by
    simp only [checkSlotType, isGiven, Document.shown_text, Except.ok_bind, isType,
      Option.isSome_some, if_true]
    rfl
  rw [checkSlot, typed]
  cases taken with
  | false => exact ⟨_, rfl, rfl, rfl⟩
  | true => exact ⟨_, rfl, rfl, rfl⟩

theorem checkSlotsFrom_finds {slots : List Document}
    (holds : Holds seen earlier) (fits : ∀ slot ∈ slots, ProjectSchema.slot.Meets slot) :
    Finds (checkSlotsFrom path seen (slots.zipIdx earlier.length))
      (repeatsFrom earlier (textNames slots)).length [] := by
  induction slots generalizing seen earlier with
  | nil => exact ⟨.none, rfl, rfl, rfl⟩
  | cons slot rest ih =>
      have fitsSlot := fits slot (.head _)
      obtain ⟨own, name, rfl, found⟩ := named_of_meets fitsSlot (by simp)
      obtain ⟨others, checked, counted, unwarned⟩ :=
        ih (holds.cons name) fun later member => fits later (.tail _ member)
      rw [List.length_append, List.length_singleton] at checked
      obtain ⟨first, checkedFirst, countedFirst, unwarnedFirst⟩ := checkSlot_finds fitsSlot
        (path ++ ".inputs." ++ Decimal.natText earlier.length) name (decide (name ∈ earlier))
      rw [textNames_cons found, repeatsFrom_cons, List.zipIdx_cons, checkSlotsFrom]
      simp only [Document.fields?, Table.getD, found, Option.getD_some, Document.scalar?, checked,
        Except.ok_bind, holds name, checkedFirst]
      refine ⟨_, rfl, ?_, ?_⟩
      · rw [Findings.errors_append, List.length_append, List.length_append, countedFirst, counted]
        by_cases before : name ∈ earlier
        · simp [before]
        · simp [before]
      · rw [Findings.warnings_append, unwarnedFirst, unwarned, List.append_nil]

theorem checkSlots_finds {id : Scalar} (fits : ProjectSchema.option.Meets (.mapping own))
    (isInput : own.namedKind? = some .input) :
    Finds (checkSlots ("option." ++ id.display) own) own.faults
      (danglingDefault? id own).toList := by
  obtain ⟨slots, isList, isListToo, fitSlot⟩ :=
    items_of_meets "inputs" ProjectSchema.slot (fields_of_meets fits) (by simp)
  have unwarned : danglingDefault? id own = none := by
    rw [danglingDefault?]
    split
    · rw [if_pos (.inl isInput)]
    · rfl
  rw [checkSlots, isListToo, unwarned, Table.faults, isInput, Table.slotNames, items_eq isList]
  exact checkSlotsFrom_finds .nil fitSlot

/-!
## Options
-/

theorem checkOption_finds {id : Scalar} (shown : id.isShown = true)
    (fits : ProjectSchema.option.Meets (.mapping own)) :
    Finds (checkOption id (.mapping own)) own.faults (danglingDefault? id own).toList := by
  obtain ⟨kind, isKind, named⟩ := kind_of_meets fits
  simp only [checkOption, checkOptionFields, Document.fields?, Scalar.shown_of shown, isKind,
    Except.ok_bind]
  cases kind with
  | input => exact checkSlots_finds fits named
  | select => exact checkCases_finds fits named (by decide)
  | switch => exact checkCases_finds fits named (by decide)

theorem checkOptions_finds {options : Table (Table Document)}
    (shown : ∀ entry ∈ options, entry.1.isShown = true)
    (fits : ∀ entry ∈ options, ProjectSchema.option.Meets (.mapping entry.2)) :
    Finds (checkOptions (options.map fun entry => (entry.1, .mapping entry.2)))
      (options.map fun entry => entry.2.faults).sum
      (options.filterMap fun entry => danglingDefault? entry.1 entry.2) := by
  induction options with
  | nil => exact ⟨.none, rfl, rfl, rfl⟩
  | cons entry rest ih =>
      obtain ⟨first, checkedFirst, counted, warned⟩ :=
        checkOption_finds (shown entry (.head _)) (fits entry (.head _))
      obtain ⟨others, checked, countedRest, warnedRest⟩ :=
        ih (fun later member => shown later (.tail _ member))
          fun later member => fits later (.tail _ member)
      simp only [List.map_cons, checkOptions, checkedFirst, checked, Except.ok_bind]
      refine ⟨_, rfl, ?_, ?_⟩
      · rw [Findings.errors_append, List.length_append, counted, countedRest, List.sum_cons]
      · rw [Findings.warnings_append, warned, warnedRest, List.filterMap_cons]
        cases danglingDefault? entry.1 entry.2 <;> rfl

/-- An id that cannot be shown ends the checks of the options, once those before it are checked. -/
theorem checkOptions_unshown {options : Table (Table Document)}
    (unshown : ¬ ∀ entry ∈ options, entry.1.isShown = true)
    (fits : ∀ entry ∈ options, ProjectSchema.option.Meets (.mapping entry.2)) :
    checkOptions (options.map fun entry => (entry.1, .mapping entry.2)) = .error .badValue := by
  induction options with
  | nil => exact absurd (fun _ member => by cases member) unshown
  | cons entry rest ih =>
      rw [List.map_cons, checkOptions]
      by_cases shown : entry.1.isShown = true
      · obtain ⟨first, checkedFirst, _⟩ := checkOption_finds shown (fits entry (.head _))
        have unshownRest : ¬ ∀ later ∈ rest, later.1.isShown = true :=
          fun each => unshown (List.forall_mem_cons.2 ⟨shown, each⟩)
        rw [checkedFirst, Except.ok_bind, ih unshownRest fun later member =>
          fits later (.tail _ member)]
        rfl
      · rw [checkOption, Scalar.shown, if_neg shown]
        rfl

/-!
## Tasks
-/

theorem repeatedTaskNames_eq (names : List String) :
    repeatedTaskNames ((names.zipIdx 0).map fun entry =>
        (.text entry.1, decide (entry.1 ∈ names.take entry.2)))
      = (repeats names).map fun entry => repeatedTask entry.1 entry.2 := by
  -- The marks are numbered again, by the numbers that they have.
  have again : (names.zipIdx 0).zipIdx 0 = (names.zipIdx 0).map fun entry => (entry, entry.2) :=
    List.ext_getElem (by simp) (by simp)
  rw [repeatedTaskNames, List.zipIdx_map, again, List.map_map, List.filterMap_map]
  simp only [Function.comp_def, Prod.map, id_eq]
  rw [filterMap_ite, repeats]
  rfl

theorem checkTasks_finds {tasks : List Document} (named : tasks.map taskNameOf = names.map .text) :
    checkTasks tasks
      = .ok ⟨[], (repeats names).map fun entry => repeatedTask entry.1 entry.2⟩ := by
  obtain ⟨keys, marks, _⟩ := markRepeats_texts .nil names
  rw [checkTasks, named, marks]
  simp only [Except.ok_bind, List.nil_append, List.length_nil, repeatedTaskNames_eq]
  rfl

/-!
## Documents
-/

theorem mappings_of_meets {declared : Table Document}
    (fits : ∀ entry ∈ declared, ProjectSchema.option.Meets entry.2) :
    ∃ options : Table (Table Document),
      declared = options.map fun entry => (entry.1, .mapping entry.2) := by
  have among : declared ∈ Set.range (List.map fun entry : Scalar × Table Document =>
      (entry.1, Document.mapping entry.2)) := by
    rw [Set.range_list_map]
    intro entry member
    obtain ⟨own, isMapping, _⟩ := meets_object (fits entry member)
    exact ⟨(entry.1, own), Prod.ext rfl isMapping.symm⟩
  exact among.imp fun _ same => same.symm

theorem taskNames_of_meets {tasks : List Document}
    (fits : ∀ task ∈ tasks, ProjectSchema.task.Meets task) :
    ∃ names : List String, tasks.map taskNameOf = names.map .text := by
  have among : tasks.map taskNameOf ∈ Set.range (List.map Document.text) := by
    rw [Set.range_list_map, Set.mem_ofPred_eq, List.forall_mem_map]
    intro task member
    obtain ⟨own, name, rfl, named, _⟩ := task_named_of_meets (fits task member)
    exact ⟨name, (Table.getD_getD named).symm⟩
  exact among.imp fun _ same => same.symm

/-- An option has no faults exactly if it is proper. -/
theorem faults_eq_zero_iff {kind : OptionKind} (isKind : own.namedKind? = some kind) :
    own.faults = 0 ↔ own.Proper := by
  rw [Table.faults, isKind]
  constructor
  · intro faultless
    cases kind with
    | input =>
        refine ⟨by simp [isKind], by simp [isKind], by simp [isKind], fun _ => ?_⟩
        exact repeats_eq_nil_iff.1 (List.length_eq_zero_iff.1 faultless)
    | select =>
        obtain ⟨enough, distinct⟩ := Nat.add_eq_zero_iff.1 faultless
        refine ⟨by simp [isKind], fun _ => ?_, fun _ => ?_, by simp [isKind]⟩
        · simpa using enough
        · exact repeats_eq_nil_iff.1 (List.length_eq_zero_iff.1 distinct)
    | switch =>
        obtain ⟨enough, distinct⟩ := Nat.add_eq_zero_iff.1 faultless
        refine ⟨fun _ => ?_, by simp [isKind], fun _ => ?_, by simp [isKind]⟩
        · simpa using enough
        · exact repeats_eq_nil_iff.1 (List.length_eq_zero_iff.1 distinct)
  · intro proper
    cases kind with
    | input => simp [repeats_eq_nil_iff.2 (proper.distinctSlots isKind)]
    | select =>
        have some : (own.items "cases").length ≠ 0 :=
          mt List.length_eq_zero_iff.1 (proper.someCase isKind)
        simp [repeats_eq_nil_iff.2 (proper.distinctCases (by simp [isKind])), some]
    | switch =>
        simp [repeats_eq_nil_iff.2 (proper.distinctCases (by simp [isKind])),
          proper.twoCases isKind]

theorem faultless_iff {options : Table (Table Document)}
    (fits : ∀ entry ∈ options, ProjectSchema.option.Meets (.mapping entry.2)) :
    (options.map fun entry => entry.2.faults).sum = 0 ↔ ∀ entry ∈ options, entry.2.Proper := by
  rw [List.sum_eq_zero_iff_forall_eq_nat, List.forall_mem_map]
  refine forall₂_congr fun entry member => ?_
  obtain ⟨kind, _, isKind⟩ := kind_of_meets (fits entry member)
  exact faults_eq_zero_iff isKind

theorem Findings.valid_iff {findings : Findings} :
    findings.valid = true ↔ findings.errors.length = 0 := by
  rw [Findings.valid, List.isEmpty_iff, List.length_eq_zero_iff]

theorem checkStructure_finds {fields : Table Document} {options : Table (Table Document)}
    {tasks : List Document}
    (isMapping : (fields.getD "option" .null).orIfVoid (.mapping [])
      = .mapping (options.map fun entry => (entry.1, .mapping entry.2)))
    (isList : (fields.getD "task" .null).orIfVoid (.list []) = .list tasks)
    (shown : ∀ entry ∈ options, entry.1.isShown = true)
    (fits : ∀ entry ∈ options, ProjectSchema.option.Meets (.mapping entry.2))
    (named : tasks.map taskNameOf = names.map .text) :
    Finds (checkStructure (.mapping fields)) (options.map fun entry => entry.2.faults).sum
      ((options.filterMap fun entry => danglingDefault? entry.1 entry.2)
        ++ (repeats names).map fun entry => repeatedTask entry.1 entry.2) := by
  obtain ⟨found, checked, counted, warned⟩ := checkOptions_finds shown fits
  rw [checkStructure]
  simp only [Document.fields, Document.fields?, Except.ok_bind, isMapping, isList,
    checkOptionField, checked, Document.elements, Document.elements?, checkTasks_finds named]
  refine ⟨_, rfl, ?_, ?_⟩
  · rw [Findings.errors_append, List.append_nil, counted]
  · rw [Findings.warnings_append, warned]

theorem checkStructure_unshown {fields : Table Document} {options : Table (Table Document)}
    (isMapping : (fields.getD "option" .null).orIfVoid (.mapping [])
      = .mapping (options.map fun entry => (entry.1, .mapping entry.2)))
    (unshown : ¬ ∀ entry ∈ options, entry.1.isShown = true)
    (fits : ∀ entry ∈ options, ProjectSchema.option.Meets (.mapping entry.2)) :
    checkStructure (.mapping fields) = .error .badValue := by
  rw [checkStructure]
  simp only [Document.fields, Document.fields?, Except.ok_bind, isMapping, checkOptionField,
    checkOptions_unshown unshown fits]
  rfl

/-- The options and the tasks of a document of the right shape are mappings and called by texts. -/
theorem declarations_of_meets {fields : Table Document}
    (fits : ProjectSchema.project.Meets (.mapping fields)) :
    ∃ (options : Table (Table Document)) (tasks : List Document) (names : List String),
      fields.getD "option" (.mapping [])
          = .mapping (options.map fun entry => (entry.1, .mapping entry.2))
        ∧ fields.getD "task" (.list []) = .list tasks
        ∧ tasks.map taskNameOf = names.map .text
        ∧ (∀ entry ∈ options, ProjectSchema.option.Meets (.mapping entry.2))
        ∧ ((∀ entry ∈ options, entry.1.isShown = true) →
          Finds (checkStructure (.mapping fields)) (options.map fun entry => entry.2.faults).sum
            ((options.filterMap fun entry => danglingDefault? entry.1 entry.2)
              ++ (repeats names).map fun entry => repeatedTask entry.1 entry.2))
        ∧ ((¬ ∀ entry ∈ options, entry.1.isShown = true) →
          checkStructure (.mapping fields) = .error .badValue) := by
  obtain ⟨declared, given, isMapping, _, fitOption⟩ := options_of_meets fits
  obtain ⟨tasks, isList, isListToo, fitTask⟩ :=
    items_of_meets "task" ProjectSchema.task (fields_of_meets fits) (by simp)
  obtain ⟨options, rfl⟩ := mappings_of_meets fitOption
  obtain ⟨names, named⟩ := taskNames_of_meets fitTask
  have fitOwn : ∀ entry ∈ options, ProjectSchema.option.Meets (.mapping entry.2) :=
    fun entry member => fitOption _ (List.mem_map_of_mem member)
  exact ⟨options, tasks, names, given, isList, named, fitOwn,
    fun shown => checkStructure_finds isMapping isListToo shown fitOwn named,
    fun unshown => checkStructure_unshown isMapping unshown fitOwn⟩

/-- The structural checks of a document of the right shape return exactly if all ids of options can
be shown, as all texts can. They find as many errors as the options have faults, so none exactly if
all options are proper, and they warn of each default case that names no case and of each task that
is called like an earlier one, and of nothing else. -/
theorem checkStructure_exact (shaped : ProjectSchema.project.issues document = .ok []) :
    ∃ (fields : Table Document) (options : Table (Table Document)) (tasks : List Document)
      (names : List String),
      document = .mapping fields
      ∧ fields.getD "option" (.mapping [])
        = .mapping (options.map fun entry => (entry.1, .mapping entry.2))
      ∧ fields.getD "task" (.list []) = .list tasks
      ∧ tasks.map taskNameOf = names.map .text
      ∧ ((∀ entry ∈ options, entry.1.isShown = true) → ∃ findings,
        checkStructure document = .ok findings
        ∧ findings.errors.length = (options.map fun entry => entry.2.faults).sum
        ∧ (findings.valid = true ↔ ∀ entry ∈ options, entry.2.Proper)
        ∧ findings.warnings = (options.filterMap fun entry => danglingDefault? entry.1 entry.2)
          ++ (repeats names).map fun entry => repeatedTask entry.1 entry.2)
      ∧ ((¬ ∀ entry ∈ options, entry.1.isShown = true) →
        checkStructure document = .error .badValue) := by
  have fits := Schema.issues_eq_nil_iff.1 shaped
  obtain ⟨fields, rfl, _⟩ := meets_object fits
  obtain ⟨options, tasks, names, given, isList, named, fitOption, finds, fails⟩ :=
    declarations_of_meets fits
  refine ⟨fields, options, tasks, names, rfl, given, isList, named, fun shown => ?_, fails⟩
  obtain ⟨findings, checked, counted, warned⟩ := finds shown
  have valid : findings.valid = true ↔ ∀ entry ∈ options, entry.2.Proper := by
    rw [Findings.valid_iff, counted, faultless_iff fitOption]
  exact ⟨findings, checked, counted, valid, warned⟩

/-- A switch with three cases of which two are called the same, a select option without cases but
with a default, slots of one name, and a task that is called like the id of another. -/
def crowded : Document := .object [
  ("task", .list [.object [("name", .text "T")], .object [("id", .text "T")]]),
  ("option", .object [
    ("A", .object [("type", .text "boolean"), ("cases", .list [
      .object [("name", .text "x")], .object [("name", .text "y")],
      .object [("name", .text "x")]])]),
    ("B", .object [("default_case", .text "z")]),
    ("C", .object [("type", .text "freetext"), ("default_case", .text "z"), ("inputs", .list [
      .object [("name", .text "s")], .object [("name", .text "s")],
      .object [("name", .text "s")]])])])]

theorem crowded_faults : ∃ findings, checkStructure crowded = .ok findings
    ∧ findings.errors.length = 5 ∧ findings.valid = false := by
  have shaped : ProjectSchema.project.issues crowded = .ok [] :=
    Schema.issues_eq_nil_iff.2 (by rfl)
  obtain ⟨fields, options, _, _, isMapping, given, _, _, checks, _⟩ := checkStructure_exact shaped
  cases isMapping
  have declared := Document.mapping.inj given
  have shown : ∀ entry ∈ options, entry.1.isShown = true := by
    have ids : options.map Prod.fst = [.text "A", .text "B", .text "C"] := calc
      options.map Prod.fst
        = (options.map fun entry => (entry.1, Document.mapping entry.2)).map Prod.fst := by
          rw [List.map_map]
          rfl
      _ = [.text "A", .text "B", .text "C"] := by
          rw [← declared]
          rfl
    have each : ∀ id ∈ options.map Prod.fst, id.isShown = true := by
      rw [ids]
      decide
    exact fun entry member => each _ (List.mem_map_of_mem member)
  obtain ⟨findings, checked, counted, _⟩ := checks shown
  have five : findings.errors.length = 5 := calc
    findings.errors.length = (options.map fun entry => entry.2.faults).sum := counted
    _ = ((options.map fun entry => (entry.1, Document.mapping entry.2)).map fun entry =>
          entry.2.fields?.elim 0 Table.faults).sum := by rw [List.map_map]; rfl
    _ = 5 := by rw [← declared]; rfl
  refine ⟨findings, checked, five, ?_⟩
  rw [Findings.valid, List.isEmpty_eq_false_iff, ← List.length_pos_iff, five]
  decide

/-- A select option with one case, called by an id. -/
def called (id : Scalar) : Document := .object [("option", .mapping [
  (id, .object [("cases", .list [.object [("name", .text "x")]])])])]

theorem called_shaped (id : Scalar) : ProjectSchema.project.issues (called id) = .ok [] :=
  Schema.issues_eq_nil_iff.2 (by rfl)

/-- The smallest integer that has too many digits to be shown. -/
def vastId : Scalar := .int (Nat.pow 10 maxShownDigits : Nat)

theorem vastId_unshown : ¬ vastId.isShown = true := by
  rw [vastId, Scalar.isShown, Int.natAbs_natCast, decide_eq_true_eq]
  exact Nat.lt_irrefl _

/-- An id that cannot be shown ends the checks of a document of the right shape. -/
theorem vastId_unchecked : ProjectSchema.project.issues (called vastId) = .ok []
    ∧ checkStructure (called vastId) = .error .badValue := by
  refine ⟨called_shaped vastId, ?_⟩
  obtain ⟨declared, _, _, given, _, _, _, _, fails⟩ :=
    declarations_of_meets (Schema.issues_eq_nil_iff.1 (called_shaped vastId))
  refine fails fun each => vastId_unshown ?_
  cases declared with
  | nil => cases given
  | cons entry rest =>
      have isId : vastId = entry.1 :=
        congrArg Prod.fst (List.cons.inj (Document.mapping.inj given)).1
      rw [isId]
      exact each entry (.head _)

end PipelineOverride
