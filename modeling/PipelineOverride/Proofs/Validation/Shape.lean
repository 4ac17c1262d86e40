import PipelineOverride.Validation.Structure

/-!
# Documents of a shape

A document meets a shape if the check of the shape finds nothing. What that says of the parts of the
document is one equivalence for each form of shapes; the path at which a document is checked does
not matter.
-/

set_option autoImplicit false

namespace PipelineOverride

theorem Document.isText_iff {document : Document} {s : String} :
    document.isText s = true ↔ document = .text s := by
  rw [Document.isText, beq_iff_eq]
  constructor
  · intro isText
    cases document with
    | scalar value =>
        cases value with
        | text t =>
            cases isText
            rfl
        | _ => cases isText
    | _ => cases isText
  · rintro rfl
    rfl

namespace Schema

mutual

/-- Whether a check finds anything does not depend on the path. -/
theorem check_eq_nil_at (path other : List PathStep) (document : Document) :
    ∀ shape : Schema, check path document shape = [] ↔ check other document shape = []
  | .kinds allowed => by
      simp only [check]
      split <;> simp
  | .fields shapes => by
      simp only [check]
      cases document.fields? with
      | none => rfl
      | some table => exact checkFields_eq_nil_at path other table shapes
  | .everyField shape => by
      simp only [check]
      cases document.fields? with
      | none => rfl
      | some table =>
          simp only [List.flatMap_eq_nil_iff]
          exact forall₂_congr fun field _ => check_eq_nil_at _ _ field.2 shape
  | .items shape => by
      simp only [check]
      cases document with
      | list members =>
          simp only [List.flatMap_eq_nil_iff]
          exact forall₂_congr fun item _ => check_eq_nil_at _ _ item.1 shape
      | _ => rfl
  | .required names => by
      simp only [check]
      cases document.fields? with
      | none => rfl
      | some table => simp only [List.map_eq_nil_iff]
  | .nonEmpty => by
      simp only [check]
      split <;> simp
  | .oneOf texts => by
      simp only [check]
      split <;> simp
  | .requiredAny names => by
      simp only [check]
      cases document.fields? with
      | none => rfl
      | some table =>
          simp only
          split <;> simp
  | .all shapes => by
      simp only [check]
      exact checkAll_eq_nil_at path other document shapes

theorem checkFields_eq_nil_at (path other : List PathStep) (table : Table Document) :
    ∀ shapes : List (String × Schema),
      checkFields path table shapes = [] ↔ checkFields other table shapes = []
  | [] => by simp only [checkFields]
  | (name, shape) :: rest => by
      simp only [checkFields, List.append_eq_nil_iff, checkFields_eq_nil_at path other table rest]
      cases table.get? name with
      | none => rfl
      | some value =>
          simp only [check_eq_nil_at (path ++ [.key (.text name)]) (other ++ [.key (.text name)])
            value shape]

theorem checkAll_eq_nil_at (path other : List PathStep) (document : Document) :
    ∀ shapes : List Schema,
      checkAll path document shapes = [] ↔ checkAll other document shapes = []
  | [] => by simp only [checkAll]
  | shape :: rest => by
      simp only [checkAll, List.append_eq_nil_iff, check_eq_nil_at path other document shape,
        checkAll_eq_nil_at path other document rest]

end

/-- A document meets a shape if checking it finds nothing. -/
def Meets (shape : Schema) (document : Document) : Prop :=
  check [] document shape = []

variable {document : Document} {shape : Schema}

theorem meets_iff_check (path : List PathStep) :
    Meets shape document ↔ check path document shape = [] :=
  check_eq_nil_at [] path document shape

theorem meets_kinds {allowed : List ValueKind} :
    Meets (.kinds allowed) document ↔ ∃ kind ∈ allowed, kind.admits document = true := by
  simp only [Meets, check, ite_eq_left_iff, List.cons_ne_nil, imp_false, Decidable.not_not,
    List.any_eq_true]

theorem meets_all {shapes : List Schema} :
    Meets (.all shapes) document ↔ ∀ shape ∈ shapes, Meets shape document := by
  simp only [Meets, check]
  induction shapes with
  | nil => simp [checkAll]
  | cons shape rest ih => simp [checkAll, ih]

theorem meets_fields {shapes : List (String × Schema)} {table : Table Document} :
    Meets (.fields shapes) (.mapping table) ↔
      ∀ field ∈ shapes, ∀ value, table.get? field.1 = some value → Meets field.2 value := by
  simp only [Meets, check, Document.fields?]
  induction shapes with
  | nil => simp [checkFields]
  | cons field rest ih =>
      obtain ⟨name, shape⟩ := field
      simp only [checkFields, List.append_eq_nil_iff, ih, List.forall_mem_cons]
      refine and_congr_left fun _ => ?_
      cases table.get? name with
      | none => simp
      | some value =>
          simp only [Option.some.injEq, forall_eq']
          exact (meets_iff_check ([] ++ [.key (.text name)])).symm

theorem meets_items {members : List Document} :
    Meets (.items shape) (.list members) ↔ ∀ member ∈ members, Meets shape member := by
  simp only [Meets, check, List.flatMap_eq_nil_iff]
  constructor
  · intro none member position
    obtain ⟨index, inside, rfl⟩ := List.mem_iff_getElem.1 position
    refine (meets_iff_check _).2 (none (members[index], index) ?_)
    exact List.mk_mem_zipIdx_iff_getElem?.2 (List.getElem?_eq_getElem inside)
  · intro each item position
    refine (meets_iff_check _).1 (each item.1 ?_)
    exact List.fst_mem_of_mem_zipIdx position

theorem meets_everyField {table : Table Document} :
    Meets (.everyField shape) (.mapping table) ↔ ∀ field ∈ table, Meets shape field.2 := by
  simp only [Meets, check, Document.fields?, List.flatMap_eq_nil_iff]
  exact forall₂_congr fun field _ => (meets_iff_check _).symm

theorem meets_required {names : List String} {table : Table Document} :
    Meets (.required names) (.mapping table)
      ↔ ∀ name ∈ names, ∃ value, table.get? name = some value := by
  simp only [Meets, check, Document.fields?, List.map_eq_nil_iff, List.filter_eq_nil_iff,
    Option.isNone_iff_eq_none, ← Option.isSome_iff_exists, Option.isSome_iff_ne_none, ne_eq]

theorem meets_nonEmpty : Meets .nonEmpty document ↔ document ≠ .text "" := by
  simp only [Meets, check, ite_eq_right_iff, List.cons_ne_nil, imp_false, Document.isText_iff,
    ne_eq]

theorem meets_oneOf {texts : List String} :
    Meets (.oneOf texts) document ↔ ∃ text ∈ texts, document = .text text := by
  simp only [Meets, check, ite_eq_left_iff, List.cons_ne_nil, imp_false, Classical.not_not,
    List.any_eq_true, Document.isText_iff]

theorem meets_requiredAny {names : List String} {table : Table Document} :
    Meets (.requiredAny names) (.mapping table)
      ↔ ∃ name ∈ names, ∃ value, table.get? name = some value := by
  simp only [Meets, check, Document.fields?, ite_eq_left_iff, List.cons_ne_nil, imp_false,
    Classical.not_not, List.any_eq_true, Option.isSome_iff_exists]

end Schema

end PipelineOverride
