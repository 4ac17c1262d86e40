import PipelineOverride.Proofs.Document.Shown
import PipelineOverride.Validation.Structure

/-!
# Structural checks

When the structural checks of a document return, and what it means that they find no error. They
return if whatever they walk over has elements, whatever they compare is atomic, and whatever they
name in an issue can be shown. Anything else ends them with a failure, which is no finding.
-/

set_option autoImplicit false

namespace PipelineOverride

@[simp] theorem Findings.errors_append (a b : Findings) :
    (a ++ b).errors = a.errors ++ b.errors := rfl

/-!
## What the checks compare
-/

/-- Wherever one of the documents is a mapping, its name is atomic. -/
def NamesAtomic (documents : List Document) : Prop :=
  ∀ document ∈ documents, ∀ fields, document.fields? = some fields →
    (fields.getD "name" .null).scalar?.isSome = true

namespace Table

/-- The cases of an option can be walked over, and the names of cases can be compared. -/
def CasesComparable (fields : Table Document) : Prop :=
  ∃ cases, ((fields.getD "cases" .null).orIfVoid (.list [])).elements = .ok cases
    ∧ NamesAtomic cases
    ∧ ∀ name, fields.given? "default_case" = some name → name.scalar?.isSome = true

/-- The slots of an option can be walked over, and their names can be compared. -/
def SlotsComparable (fields : Table Document) : Prop :=
  ∃ slots, ((fields.getD "inputs" .null).orIfVoid (.list [])).elements = .ok slots
    ∧ NamesAtomic slots

end Table

/-- The parts of an option that a check of its kind compares can be compared. -/
def OptionComparable (document : Document) : Prop :=
  ∀ fields, document.fields? = some fields →
    ∀ kind, OptionKind.ofTag? (fields.getD "type" .null) = some kind →
    if kind = .input then fields.SlotsComparable else fields.CasesComparable

/-- All parts of a project document that the structural checks compare can be compared. -/
structure Comparable (fields : Table Document) : Prop where
  options : ∀ declared, ((fields.getD "option" .null).orIfVoid (.mapping [])).fields?
      = some declared → ∀ entry ∈ declared, OptionComparable entry.2
  tasks : ∃ tasks, ((fields.getD "task" .null).orIfVoid (.list [])).elements = .ok tasks
    ∧ ∀ task ∈ tasks, (taskNameOf task).scalar?.isSome = true

/-!
## What the checks show
-/

/-- A document is the key. -/
def Document.IsKey (document : Document) (key : Scalar) : Prop :=
  ∃ other, document.scalar? = some other ∧ other.same key = true

/-- Each key that is there again can be shown. -/
def RepeatsShown (names : List Document) : Prop :=
  names.Pairwise fun earlier later => ∀ a b, earlier.scalar? = some a → later.scalar? = some b →
    a.same b = true → b.isShown = true

namespace Table

/-- Among the cases of an option each repeated name can be shown, and so can a default case that
names none of them. -/
def CasesShowable (fields : Table Document) : Prop :=
  ∀ cases, ((fields.getD "cases" .null).orIfVoid (.list [])).elements = .ok cases →
    RepeatsShown (givenNames cases) ∧ ∀ name key, fields.given? "default_case" = some name →
      name.scalar? = some key → key.isShown = true ∨ ∃ given ∈ givenNames cases, given.IsKey key

/-- Among the slots of an option each repeated name can be shown, and so can all types. -/
def SlotsShowable (fields : Table Document) : Prop :=
  ∀ slots, ((fields.getD "inputs" .null).orIfVoid (.list [])).elements = .ok slots →
    RepeatsShown (givenNames slots) ∧ ∀ slot ∈ slots, ∀ own, slot.fields? = some own →
      (own.getD "pipeline_type" (.text "string")).isShown = true

end Table

/-- The parts of an option that a check of its kind names can be shown. -/
structure OptionShowable (id : Scalar) (document : Document) : Prop where
  id : id.isShown = true
  tag : ∀ fields, document.fields? = some fields → (fields.getD "type" .null).isShown = true
  own : ∀ fields, document.fields? = some fields →
    ∀ kind, OptionKind.ofTag? (fields.getD "type" .null) = some kind →
    if kind = .input then fields.SlotsShowable else fields.CasesShowable

/-- All parts of a project document that the structural checks name can be shown. -/
structure StructureShowable (fields : Table Document) : Prop where
  options : ∀ declared, ((fields.getD "option" .null).orIfVoid (.mapping [])).fields?
      = some declared → ∀ entry ∈ declared, OptionShowable entry.1 entry.2
  tasks : ∀ tasks, ((fields.getD "task" .null).orIfVoid (.list [])).elements = .ok tasks →
    RepeatsShown (tasks.map taskNameOf)

/-!
## Repeated keys
-/

/-- A condition holds of each key that is there again, among the documents or after the keys that
were seen before. -/
structure IfAgain (good : Scalar → Prop) (seen : List Scalar) (names : List Document) : Prop where
  among : names.Pairwise fun earlier later => ∀ a b, earlier.scalar? = some a →
    later.scalar? = some b → a.same b = true → good b
  before : ∀ name ∈ names, ∀ key, name.scalar? = some key →
    (seen.any fun other => other.same key) = true → good key

variable {good : Scalar → Prop} {seen : List Scalar} {name : Document} {names rest : List Document}
  {key : Scalar}

theorem IfAgain.nil : IfAgain good seen [] :=
  ⟨.nil, fun _ member => by cases member⟩

theorem ifAgain_nil_iff : IfAgain good [] names ↔
    names.Pairwise fun earlier later => ∀ a b, earlier.scalar? = some a →
      later.scalar? = some b → a.same b = true → good b :=
  ⟨IfAgain.among, fun among => ⟨among, fun _ _ _ _ seen => by cases seen⟩⟩

/-- Going on after a key that was not or may not have been seen before. -/
theorem ifAgain_cons_iff (isKey : name.scalar? = some key) : IfAgain good seen (name :: rest) ↔
    ((seen.any fun other => other.same key) = true → good key)
      ∧ IfAgain good (key :: seen) rest := by
  constructor
  · intro again
    obtain ⟨first, among⟩ := List.pairwise_cons.1 again.among
    refine ⟨again.before name (.head _) key isKey, among, fun later member b isB seenB => ?_⟩
    rw [List.any_cons, Bool.or_eq_true] at seenB
    rcases seenB with same | seenB
    · exact first later member key b isKey isB same
    · exact again.before later (.tail _ member) b isB seenB
  · intro given
    obtain ⟨here, again⟩ := given
    constructor
    · refine List.pairwise_cons.2 ⟨fun later member a b isA isB same => ?_, again.among⟩
      cases isKey.symm.trans isA
      exact again.before later member b isB (by rw [List.any_cons, same, Bool.true_or])
    · intro other member b isB seenB
      rcases List.mem_cons.1 member with rfl | member
      · cases isKey.symm.trans isB
        exact here seenB
      · exact again.before other member b isB (by rw [List.any_cons, seenB, Bool.or_true])

theorem ifAgain_congr {others : List Scalar} (same : ∀ key,
    (seen.any fun other => other.same key) = others.any fun other => other.same key) :
    IfAgain good seen names ↔ IfAgain good others names := by
  constructor
  · exact fun again => ⟨again.among, fun name member key isKey before =>
      again.before name member key isKey ((same key).trans before)⟩
  · exact fun again => ⟨again.among, fun name member key isKey before =>
      again.before name member key isKey ((same key).symm.trans before)⟩

/-- A key that was seen before need not be put down again. -/
theorem any_same_again (seen : List Scalar) (key other : Scalar) :
    ((if (seen.any fun given => given.same key) = true then seen else key :: seen).any
      fun given => given.same other) = (key :: seen).any fun given => given.same other := by
  split
  · rename_i repeated
    obtain ⟨given, member, sameKey⟩ := List.any_eq_true.1 repeated
    rw [List.any_cons, Bool.eq_iff_iff, Bool.or_eq_true]
    refine ⟨.inr, fun either => either.elim (fun same => ?_) id⟩
    exact List.any_eq_true.2 ⟨given, member, Scalar.same_trans sameKey same⟩
  · rfl

theorem markRepeats_keys {marked : List (Document × Bool) × List Scalar}
    (marks : markRepeats seen names = .ok marked) (other : Scalar) :
    (marked.2.any fun given => given.same other) = true
      ↔ (seen.any fun given => given.same other) = true ∨ ∃ name ∈ names, name.IsKey other := by
  induction names generalizing seen marked with
  | nil =>
      cases marks
      simp
  | cons name rest ih =>
      rw [markRepeats] at marks
      cases isKey : name.scalar? with
      | none => simp [isKey] at marks
      | some key =>
          simp only [isKey] at marks
          split at marks
          · cases marks
          · obtain ⟨others, marksRest, ends⟩ := Except.bind_eq_ok_iff.1 marks
            cases ends
            have isName : name.IsKey other ↔ key.same other = true := by
              simp [Document.IsKey, isKey]
            rw [ih marksRest, any_same_again, List.any_cons, Bool.or_eq_true,
              List.exists_mem_cons_iff, isName, or_assoc, or_left_comm]

/-!
## When the checks return
-/

theorem Document.elements_returns (document : Document) :
    ReturnsIf document.elements (document.elements?.isSome = true) := by
  rw [Document.elements]
  cases document.elements? with
  | none => exact .error .wrongKind (by simp)
  | some elements => exact .ok elements (by simp)

theorem markRepeats_returns (seen : List Scalar) (names : List Document) :
    ReturnsIf (markRepeats seen names) ((∀ name ∈ names, name.scalar?.isSome = true)
      ∧ IfAgain (fun key => key.isShown = true) seen names) := by
  induction names generalizing seen with
  | nil => exact .ok _ ⟨by simp, .nil⟩
  | cons name rest ih =>
      rw [markRepeats]
      cases isKey : name.scalar? with
      | none =>
          refine .error .wrongKind fun given => ?_
          simpa [isKey] using given.1 name (.head _)
      | some key =>
          simp only
          rw [ifAgain_cons_iff isKey, List.forall_mem_cons, isKey]
          split
          · rename_i unshown
            rw [Bool.and_eq_true, Bool.not_eq_true'] at unshown
            refine .error .badValue fun given => ?_
            cases (given.2.1 unshown.1).symm.trans unshown.2
          · rename_i showable
            have here : (seen.any fun other => other.same key) = true → key.isShown = true := by
              intro repeated
              simpa [repeated] using showable
            refine ((ih _).map _).congr ?_
            rw [ifAgain_congr (any_same_again seen key), and_iff_right here, Option.isSome_some,
              and_iff_right rfl]

theorem givenNames_cons {document : Document} {fields : Table Document} {rest : List Document}
    (isMapping : document.fields? = some fields) :
    givenNames (document :: rest) = fields.getD "name" .null :: givenNames rest := by
  simp [givenNames, isMapping]

theorem givenNames_cons_other {document : Document} {rest : List Document}
    (isOther : document.fields? = none) : givenNames (document :: rest) = givenNames rest := by
  simp [givenNames, isOther]

theorem givenNames_atomic_iff {documents : List Document} :
    (∀ name ∈ givenNames documents, name.scalar?.isSome = true) ↔ NamesAtomic documents := by
  simp only [givenNames, List.mem_filterMap, Option.map_eq_some_iff, NamesAtomic]
  constructor
  · intro each document member fields isMapping
    exact each _ ⟨document, member, fields, isMapping, rfl⟩
  · intro atomic name given
    obtain ⟨document, member, fields, isMapping, rfl⟩ := given
    exact atomic document member fields isMapping

theorem checkDefaultCase_returns (path : String) (fields : Table Document)
    (names : List Scalar) : ReturnsIf (checkDefaultCase path fields names)
      (∀ name, fields.given? "default_case" = some name → ∃ key, name.scalar? = some key
        ∧ (key.isShown = true ∨ (names.any fun other => other.same key) = true)) := by
  rw [checkDefaultCase]
  cases fields.given? "default_case" with
  | none => exact .ok _ (by simp)
  | some name =>
      simp only [Option.some.injEq, forall_eq']
      cases name.scalar? with
      | none => exact .error .wrongKind (by simp)
      | some key =>
          simp only [Option.some.injEq, exists_eq_left']
          split
          · rename_i among
            exact .ok _ (.inr among)
          · rename_i stray
            exact (key.shown_returns.map _).congr (or_iff_left stray).symm

theorem checkCases_returns (path : String) (kind : OptionKind) (fields : Table Document) :
    ReturnsIf (checkCases path kind fields)
      (fields.CasesComparable ∧ fields.CasesShowable) := by
  have dangling (names : List Document) (marked) (marks : markRepeats [] names = .ok marked) :
      ReturnsIf (checkDefaultCase path fields marked.2)
        (∀ name, fields.given? "default_case" = some name → ∃ key, name.scalar? = some key
          ∧ (key.isShown = true ∨ ∃ given ∈ names, given.IsKey key)) := by
    refine (checkDefaultCase_returns path fields marked.2).congr ?_
    simp only [markRepeats_keys marks, List.any_nil, Bool.false_eq_true, false_or]
  refine ((Document.elements_returns _).bind fun cases _ =>
    (markRepeats_returns [] (givenNames cases)).and fun marked marks =>
      (dangling _ marked marks).map _).congr ?_
  simp only [givenNames_atomic_iff, ifAgain_nil_iff]
  constructor
  · intro given
    obtain ⟨cases, walked, ⟨atomic, repeats⟩, dangling⟩ := given
    refine ⟨⟨cases, walked, atomic, fun name isName => ?_⟩, fun others walkedOthers => ?_⟩
    · obtain ⟨key, isKey, _⟩ := dangling name isName
      rw [isKey, Option.isSome_some]
    · cases walked.symm.trans walkedOthers
      refine ⟨repeats, fun name key isName isKey => ?_⟩
      obtain ⟨other, isOther, shown⟩ := dangling name isName
      cases isKey.symm.trans isOther
      exact shown
  · intro given
    obtain ⟨⟨cases, walked, atomic, defaults⟩, showable⟩ := given
    obtain ⟨repeats, dangling⟩ := showable cases walked
    refine ⟨cases, walked, ⟨atomic, repeats⟩, fun name isName => ?_⟩
    obtain ⟨key, isKey⟩ := Option.isSome_iff_exists.1 (defaults name isName)
    exact ⟨key, isKey, dangling name key isName isKey⟩

theorem checkSlotName_returns (place : String) (name : Scalar) (taken : Bool) :
    ReturnsIf (checkSlotName place name taken) (taken = true → name.isShown = true) := by
  cases taken with
  | false => exact .ok _ (by simp)
  | true => exact (name.shown_returns.map _).congr (by simp)

theorem checkSlot_returns (place : String) (fields : Table Document) (name : Scalar)
    (taken : Bool) : ReturnsIf (checkSlot place fields name taken)
      ((taken = true → name.isShown = true)
        ∧ (fields.getD "pipeline_type" (.text "string")).isShown = true) :=
  (checkSlotName_returns place name taken).and fun _ _ => ((Document.shown_returns _).map _).map _

theorem checkSlotsFrom_returns (path : String) (seen : List Scalar)
    (slots : List (Document × Nat)) :
    ReturnsIf (checkSlotsFrom path seen slots) (NamesAtomic (slots.map Prod.fst)
      ∧ IfAgain (fun key => key.isShown = true) seen (givenNames (slots.map Prod.fst))
      ∧ ∀ slot ∈ slots.map Prod.fst, ∀ own, slot.fields? = some own →
        (own.getD "pipeline_type" (.text "string")).isShown = true) := by
  induction slots generalizing seen with
  | nil => exact .ok _ ⟨by simp [NamesAtomic], .nil, by simp⟩
  | cons slot rest ih =>
      obtain ⟨document, index⟩ := slot
      rw [checkSlotsFrom]
      cases isMapping : document.fields? with
      | none =>
          rw [List.map_cons, givenNames_cons_other isMapping]
          exact (ih seen).congr (by simp [NamesAtomic, isMapping])
      | some fields =>
          simp only
          rw [List.map_cons, givenNames_cons isMapping]
          cases isKey : (fields.getD "name" .null).scalar? with
          | none =>
              refine .error .wrongKind fun given => ?_
              simpa [isKey] using given.1 document (.head _) fields isMapping
          | some key =>
              refine ((checkSlot_returns _ fields key _).and fun _ _ => (ih _).map _).congr ?_
              rw [ifAgain_cons_iff isKey]
              simp [NamesAtomic, isMapping, isKey]
              tauto

theorem checkSlots_returns (path : String) (fields : Table Document) :
    ReturnsIf (checkSlots path fields) (fields.SlotsComparable ∧ fields.SlotsShowable) := by
  refine ((Document.elements_returns _).bind fun slots _ =>
    checkSlotsFrom_returns path [] slots.zipIdx).congr ?_
  simp only [List.zipIdx_map_fst, ifAgain_nil_iff]
  constructor
  · intro given
    obtain ⟨slots, walked, atomic, shown⟩ := given
    refine ⟨⟨slots, walked, atomic⟩, fun others walkedOthers => ?_⟩
    cases walked.symm.trans walkedOthers
    exact shown
  · intro given
    obtain ⟨⟨slots, walked, atomic⟩, showable⟩ := given
    exact ⟨slots, walked, atomic, showable slots walked⟩

theorem OptionKind.ofTag_returns (tag : Document) :
    ReturnsIf (OptionKind.ofTag tag) (tag.isShown = true) :=
  .guarded _ .badValue

theorem OptionKind.ofTag_eq_ok {tag : Document} {kind : Option OptionKind}
    (isTag : OptionKind.ofTag tag = .ok kind) : OptionKind.ofTag? tag = kind := by
  rw [OptionKind.ofTag] at isTag
  split at isTag
  · exact Except.ok.inj isTag
  · cases isTag

theorem checkOptionFields_returns (path : String) (fields : Table Document) :
    ReturnsIf (checkOptionFields path fields) ((fields.getD "type" .null).isShown = true
      ∧ ∀ kind, OptionKind.ofTag? (fields.getD "type" .null) = some kind →
        (if kind = .input then fields.SlotsComparable else fields.CasesComparable)
          ∧ if kind = .input then fields.SlotsShowable else fields.CasesShowable) := by
  refine ((OptionKind.ofTag_returns _).and fun kind isTag => ?_)
  obtain rfl := OptionKind.ofTag_eq_ok isTag
  cases OptionKind.ofTag? (fields.getD "type" .null) with
  | none => exact .ok _ (by simp)
  | some kind =>
      cases kind with
      | input => exact (checkSlots_returns path fields).congr (by simp)
      | select => exact (checkCases_returns path .select fields).congr (by simp)
      | switch => exact (checkCases_returns path .switch fields).congr (by simp)

theorem checkOption_returns (id : Scalar) (document : Document) :
    ReturnsIf (checkOption id document)
      (OptionComparable document ∧ OptionShowable id document) := by
  rw [checkOption]
  cases isMapping : document.fields? with
  | none =>
      refine (id.shown_returns.map _).congr
        ⟨fun shown => ⟨?_, shown, ?_, ?_⟩, fun given => given.2.id⟩
      · simp [OptionComparable, isMapping]
      · simp [isMapping]
      · simp [isMapping]
  | some fields =>
      refine (id.shown_returns.and fun _ _ => checkOptionFields_returns _ fields).congr ?_
      have onlyFields {good : Table Document → Prop} :
          (∀ other, document.fields? = some other → good other) ↔ good fields := by
        simp [isMapping]
      constructor
      · intro given
        obtain ⟨shown, tag, own⟩ := given
        exact ⟨onlyFields.2 fun kind isKind => (own kind isKind).1, shown, onlyFields.2 tag,
          onlyFields.2 fun kind isKind => (own kind isKind).2⟩
      · intro given
        obtain ⟨comparable, shown⟩ := given
        exact ⟨shown.id, shown.tag fields isMapping, fun kind isKind =>
          ⟨comparable fields isMapping kind isKind, shown.own fields isMapping kind isKind⟩⟩

theorem checkOptions_returns (options : List (Scalar × Document)) :
    ReturnsIf (checkOptions options)
      (∀ entry ∈ options, OptionComparable entry.2 ∧ OptionShowable entry.1 entry.2) := by
  induction options with
  | nil => exact .ok _ (by simp)
  | cons entry rest ih =>
      obtain ⟨id, document⟩ := entry
      rw [List.forall_mem_cons]
      exact (checkOption_returns id document).and fun _ _ => ih.map _

theorem checkOptionField_returns (given : Document) :
    ReturnsIf (checkOptionField given) (∀ declared, given.fields? = some declared →
      ∀ entry ∈ declared, OptionComparable entry.2 ∧ OptionShowable entry.1 entry.2) := by
  rw [checkOptionField]
  cases given.fields? with
  | none => exact .ok _ (by simp)
  | some declared => exact (checkOptions_returns declared).congr (by simp)

theorem checkTasks_returns (tasks : List Document) :
    ReturnsIf (checkTasks tasks) ((∀ task ∈ tasks, (taskNameOf task).scalar?.isSome = true)
      ∧ RepeatsShown (tasks.map taskNameOf)) := by
  refine ((markRepeats_returns [] _).map _).congr ?_
  rw [ifAgain_nil_iff, List.forall_mem_map]
  rfl

/-- The structural checks of a mapping return exactly if all that they compare is comparable and all
that they name can be shown. -/
theorem checkStructure_returns (fields : Table Document) :
    ReturnsIf (checkStructure (.mapping fields))
      (Comparable fields ∧ StructureShowable fields) := by
  have options := checkOptionField_returns ((fields.getD "option" .null).orIfVoid (.mapping []))
  refine (options.and fun _ _ => (Document.elements_returns _).bind fun tasks _ =>
    (checkTasks_returns tasks).map _).congr ?_
  constructor
  · intro given
    obtain ⟨each, tasks, walked, atomic, repeats⟩ := given
    refine ⟨⟨fun declared given entry member => (each declared given entry member).1,
      tasks, walked, atomic⟩, fun declared given entry member =>
        (each declared given entry member).2, fun others walkedOthers => ?_⟩
    cases walked.symm.trans walkedOthers
    exact repeats
  · intro given
    obtain ⟨comparable, shown⟩ := given
    obtain ⟨tasks, walked, atomic⟩ := comparable.tasks
    exact ⟨fun declared given entry member =>
      ⟨comparable.options declared given entry member, shown.options declared given entry member⟩,
      tasks, walked, atomic, shown.tasks tasks walked⟩

/-!
## What the absence of errors means
-/

/-- No two of the documents are one key. -/
def Apart (names : List Document) : Prop :=
  names.Pairwise fun earlier later => ∀ a b, earlier.scalar? = some a → later.scalar? = some b →
    ¬ a.same b = true

/-- If no name is marked as a repeat then none is one. -/
theorem markRepeats_unmarked {marked : List (Document × Bool) × List Scalar}
    (marks : markRepeats seen names = .ok marked) (unmarked : ∀ mark ∈ marked.1, mark.2 = false) :
    IfAgain (fun _ => False) seen names := by
  induction names generalizing seen marked with
  | nil => exact .nil
  | cons name rest ih =>
      rw [markRepeats] at marks
      cases isKey : name.scalar? with
      | none => simp [isKey] at marks
      | some key =>
          simp only [isKey] at marks
          split at marks
          · cases marks
          · obtain ⟨others, marksRest, ends⟩ := Except.bind_eq_ok_iff.1 marks
            cases ends
            have unseen : ¬ (seen.any fun other => other.same key) = true :=
              Bool.not_eq_true _ ▸ unmarked _ (.head _)
            have later := ih marksRest fun mark member => unmarked mark (.tail _ member)
            exact (ifAgain_cons_iff isKey).2
              ⟨unseen, (ifAgain_congr (any_same_again seen key)).1 later⟩

/-- What an option without errors has: as many cases as its kind needs, with distinct names, or
slots with distinct names. -/
def Table.Admissible (fields : Table Document) (kind : OptionKind) : Prop :=
  if kind = .input then
    ∃ slots, ((fields.getD "inputs" .null).orIfVoid (.list [])).elements = .ok slots
      ∧ Apart (givenNames slots)
  else
    ∃ cases, ((fields.getD "cases" .null).orIfVoid (.list [])).elements = .ok cases
      ∧ (if kind = .switch then cases.length = 2 else cases ≠ []) ∧ Apart (givenNames cases)

theorem checkCaseCount_silent {path : String} {kind : OptionKind} {count : Nat}
    (silent : (checkCaseCount path kind count).errors = []) :
    if kind = .switch then count = 2 else count ≠ 0 := by
  rw [checkCaseCount] at silent
  split at silent
  · rename_i isSwitch
    rw [if_pos isSwitch]
    split at silent
    · assumption
    · cases silent
  · rename_i notSwitch
    rw [if_neg notSwitch]
    split at silent
    · cases silent
    · assumption

theorem repeatedCaseNames_eq_nil_iff {path : String} {marks : List (Document × Bool)} :
    repeatedCaseNames path marks = [] ↔ ∀ mark ∈ marks, mark.2 = false := by
  simp only [repeatedCaseNames, List.filterMap_eq_nil_iff, ite_eq_right_iff, reduceCtorEq,
    imp_false, Bool.not_eq_true]

theorem checkCases_silent {path : String} {kind : OptionKind} {fields : Table Document}
    {findings : Findings} (hasCases : kind ≠ .input)
    (checked : checkCases path kind fields = .ok findings) (silent : findings.errors = []) :
    fields.Admissible kind := by
  simp only [checkCases, Except.bind_eq_ok_iff] at checked
  obtain ⟨cases, walked, marked, marks, dangling, _, ends⟩ := checked
  cases ends
  simp only [Findings.errors_append, List.append_eq_nil_iff, repeatedCaseNames_eq_nil_iff]
    at silent
  obtain ⟨⟨count, fresh⟩, _⟩ := silent
  have enough := checkCaseCount_silent count
  rw [Table.Admissible, if_neg hasCases]
  refine ⟨cases, walked, ?_, (markRepeats_unmarked marks fresh).among⟩
  simpa only [ne_eq, List.length_eq_zero_iff] using enough

theorem checkSlot_silent {place : String} {fields : Table Document} {name : Scalar} {taken : Bool}
    {findings : Findings} (checked : checkSlot place fields name taken = .ok findings)
    (silent : findings.errors = []) : ¬ taken = true := by
  intro isTaken
  simp only [checkSlot, checkSlotName, isTaken, if_true, Except.bind_eq_ok_iff] at checked
  obtain ⟨repeated, ⟨_, _, isRepeated⟩, _, _, ends⟩ := checked
  cases isRepeated
  cases ends
  cases (List.append_eq_nil_iff.1 silent).1

theorem checkSlotsFrom_silent {path : String} {slots : List (Document × Nat)}
    {findings : Findings} (checked : checkSlotsFrom path seen slots = .ok findings)
    (silent : findings.errors = []) :
    IfAgain (fun _ => False) seen (givenNames (slots.map Prod.fst)) := by
  induction slots generalizing seen findings with
  | nil => exact .nil
  | cons slot rest ih =>
      obtain ⟨document, index⟩ := slot
      rw [checkSlotsFrom] at checked
      cases isMapping : document.fields? with
      | none =>
          simp only [isMapping] at checked
          rw [List.map_cons, givenNames_cons_other isMapping]
          exact ih checked silent
      | some fields =>
          simp only [isMapping] at checked
          rw [List.map_cons, givenNames_cons isMapping]
          cases isKey : (fields.getD "name" .null).scalar? with
          | none => simp [isKey] at checked
          | some key =>
              simp only [isKey, Except.bind_eq_ok_iff] at checked
              obtain ⟨first, checkedFirst, others, checkedRest, ends⟩ := checked
              cases ends
              simp only [Findings.errors_append, List.append_eq_nil_iff] at silent
              exact (ifAgain_cons_iff isKey).2
                ⟨checkSlot_silent checkedFirst silent.1, ih checkedRest silent.2⟩

theorem checkSlots_silent {path : String} {fields : Table Document} {findings : Findings}
    (checked : checkSlots path fields = .ok findings) (silent : findings.errors = []) :
    fields.Admissible .input := by
  simp only [checkSlots, Except.bind_eq_ok_iff] at checked
  obtain ⟨slots, walked, checkedSlots⟩ := checked
  have apart := (checkSlotsFrom_silent checkedSlots silent).among
  rw [List.zipIdx_map_fst] at apart
  exact ⟨slots, walked, apart⟩

theorem checkOption_silent {id : Scalar} {fields : Table Document} {findings : Findings}
    (checked : checkOption id (.mapping fields) = .ok findings) (silent : findings.errors = []) :
    ∃ kind, OptionKind.ofTag? (fields.getD "type" .null) = some kind
      ∧ fields.Admissible kind := by
  simp only [checkOption, checkOptionFields, Document.fields?, Except.bind_eq_ok_iff] at checked
  obtain ⟨_, _, tagged, isTag, checked⟩ := checked
  obtain rfl := OptionKind.ofTag_eq_ok isTag
  cases isKind : OptionKind.ofTag? (fields.getD "type" .null) with
  | none =>
      rw [isKind] at checked
      cases checked
      cases silent
  | some kind =>
      rw [isKind] at checked
      refine ⟨kind, rfl, ?_⟩
      cases kind with
      | input => exact checkSlots_silent checked silent
      | select => exact checkCases_silent (by decide) checked silent
      | switch => exact checkCases_silent (by decide) checked silent

theorem checkOptions_silent {options : List (Scalar × Document)} {findings : Findings}
    (checked : checkOptions options = .ok findings) (silent : findings.errors = []) :
    ∀ entry ∈ options, ∃ own, checkOption entry.1 entry.2 = .ok own ∧ own.errors = [] := by
  induction options generalizing findings with
  | nil => exact fun _ member => by cases member
  | cons entry rest ih =>
      obtain ⟨id, document⟩ := entry
      simp only [checkOptions, Except.bind_eq_ok_iff] at checked
      obtain ⟨first, checkedFirst, others, checkedRest, ends⟩ := checked
      cases ends
      simp only [Findings.errors_append, List.append_eq_nil_iff] at silent
      exact List.forall_mem_cons.2 ⟨⟨first, checkedFirst, silent.1⟩, ih checkedRest silent.2⟩

/-- In a document without structural errors, no option has any. -/
theorem checkStructure_silent {fields declared : Table Document} {findings : Findings}
    (checked : checkStructure (.mapping fields) = .ok findings) (silent : findings.errors = [])
    (given : (fields.getD "option" .null).orIfVoid (.mapping []) = .mapping declared) :
    ∀ entry ∈ declared, ∃ own, checkOption entry.1 entry.2 = .ok own ∧ own.errors = [] := by
  simp only [checkStructure, Document.fields, Document.fields?, Except.ok_bind,
    Except.bind_eq_ok_iff] at checked
  obtain ⟨options, checkedOptions, _, _, tasks, _, ends⟩ := checked
  cases ends
  simp only [Findings.errors_append, List.append_eq_nil_iff] at silent
  rw [given] at checkedOptions
  exact checkOptions_silent checkedOptions silent.1

end PipelineOverride
