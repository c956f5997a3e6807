/-
The law of properties to one.

For a property declared as a class, with or without null, both directions are decided by the
hierarchy and by null on either side: the database must not hold a class or a null that the
property does not take, and the property must not take a class or, unless that is tolerated, a
null that the database cannot hold.
-/

import AssociationCheck.Proofs.Rule.Expected
import AssociationCheck.Proofs.Rule.Findings
import AssociationCheck.Proofs.Subtype.Nullable
import AssociationCheck.Proofs.Types.Texts

namespace AssociationCheck

open Building TypeStore

variable {hierarchy : Hierarchy} {options : CheckOptions} {store : TypeStore}

/-! ### Null in the database -/

/-- A property has null in the database unless it is the whole identifier or, on the owning side,
which no other field stores, some join column cannot be null. -/
def ClassMetadata.CanHoldNull (metadata : ClassMetadata) (field : String)
    (mapping : AssociationMapping) : Prop :=
  metadata.identifier ≠ [field] ∧
    (mapping.isOwningSide = false ∨ mapping.mappedBy.isSome = true ∨
      ∀ column ∈ mapping.joinColumns, column.nullable ≠ some false)

instance (metadata : ClassMetadata) (field : String) (mapping : AssociationMapping) :
    Decidable (metadata.CanHoldNull field mapping) :=
  inferInstanceAs (Decidable (_ ∧ _))

theorem JoinColumn.isNullable_iff (column : JoinColumn) :
    column.isNullable = true ↔ column.nullable ≠ some false := by
  unfold JoinColumn.isNullable
  cases column.nullable with
  | none => simp
  | some nullable => cases nullable <;> simp

theorem AssociationMapping.isNullable_iff (mapping : AssociationMapping) :
    mapping.isNullable = true ↔
      (mapping.isOwningSide = false ∨ mapping.mappedBy.isSome = true ∨
        ∀ column ∈ mapping.joinColumns, column.nullable ≠ some false) := by
  simp only [AssociationMapping.isNullable, AssociationMapping.isInverseSide, Bool.or_eq_true,
    Bool.not_eq_true', List.all_eq_true, JoinColumn.isNullable_iff, or_assoc]

theorem ClassMetadata.identifierRole_eq_sole_iff (metadata : ClassMetadata) (field : String) :
    metadata.identifierRole field = .sole ↔ metadata.identifier = [field] := by
  unfold ClassMetadata.identifierRole
  constructor
  · intro sole
    split at sole
    · cases sole
    · rename_i present
      split at sole
      · rename_i single
        obtain ⟨only, alone⟩ := List.length_eq_one_iff.mp single
        rw [alone] at present ⊢
        simp at present
        rw [present]
      · cases sole
  · intro alone
    simp [alone]

theorem expectsNull_ofMapping (metadata : ClassMetadata) (field : String)
    {mapping : AssociationMapping} (toOne : mapping.kind.cardinality = .toOne) :
    (Association.ofMapping mapping (metadata.identifierRole field)).expectsNull =
      decide (metadata.CanHoldNull field mapping) := by
  have single :
      (Association.ofMapping mapping (metadata.identifierRole field)).isToMany = false := by
    rw [isToMany_ofMapping, toOne]
    rfl
  have shared : metadata.identifier ≠ [field] ↔ metadata.identifierRole field ≠ .sole :=
    not_congr (metadata.identifierRole_eq_sole_iff field).symm
  rw [Bool.eq_iff_iff, decide_eq_true_iff]
  unfold Association.expectsNull ClassMetadata.CanHoldNull
  rw [single, shared, ← mapping.isNullable_iff]
  simp [Association.ofMapping, and_comm]

/-! ### The law -/

def orNullText (nullable : Bool) (name : String) : String :=
  if nullable then name ++ "|null" else name

theorem text_orNull (standard : initial.GrowsTo store) {base id : TypeId} {name : String}
    {nullable : Bool} (found : store.lookup base = some (.object name []))
    (written : store.OrNull nullable base id) : store.text id = orNullText nullable name := by
  cases nullable with
  | false =>
      have same : id = base := written
      rw [same]
      exact textWithin_class 31 found
  | true => exact textWithin_orNull standard 30 written found

variable {metadata : ClassMetadata} {entity : EntityClass} {property : DeclaredProperty}

theorem checkProperty_toOne (standard : initial.GrowsTo store) {association : Association}
    (toOne : association.isToMany = false) {className : String} {base declared : TypeId}
    {nullable : Bool} (found : store.lookup base = some (.object className []))
    (written : store.OrNull nullable base declared) :
    ((checkProperty hierarchy options entity property declared association).run store).1 =
      findings entity property
        (decide (hierarchy.isSameOrDerived association.targetEntity className = true ∧
          (association.expectsNull = true → nullable = true)))
        (decide (hierarchy.isSameOrDerived className association.targetEntity = true ∧
          (nullable = true → association.expectsNull = true ∨ options.allowNullable = true)))
        (orNullText association.expectsNull (withoutLeadingSeparators association.targetEntity))
        (orNullText nullable className) := by
  have expects := expectedType_toOne options standard toOne
  obtain ⟨grows, target, targetFound, expectedWritten⟩ := expects
  have compared : comparedType hierarchy options association declared = pure declared := by
    rw [comparedType, toOne, if_neg Bool.false_ne_true]
  rw [checkProperty_run, compared]
  generalize (expectedType options association).run store = expected at *
  obtain ⟨expected, later⟩ := expected
  have laterStandard : initial.GrowsTo later := standard.trans grows
  obtain ⟨stored, storedRun, storedWritten⟩ :=
    declaredForProperty_orNull options laterStandard targetFound rfl expectedWritten
      (grows found) rfl (written.grow grows)
  simp only [run_pure, storedRun]
  have tolerated : ((nullable && (association.expectsNull || !options.allowNullable)) = true →
      association.expectsNull = true) ↔
      (nullable = true → association.expectsNull = true ∨ options.allowNullable = true) := by
    cases nullable <;> cases association.expectsNull <;> simp
  have fromDatabase := (Subtype.settles_classOrNull hierarchy laterStandard targetFound
    (grows found) expectedWritten (written.grow grows)).isSubtype_eq (by decide)
  have fromProperty := (Subtype.settles_classOrNull hierarchy laterStandard (grows found)
    targetFound storedWritten expectedWritten).isSubtype_eq (by decide)
  rw [databaseFits, propertyFits, fromDatabase, fromProperty,
    text_orNull laterStandard targetFound expectedWritten,
    text_orNull laterStandard (grows found) (written.grow grows)]
  simp only [Hierarchy.isSameOrDerived_withoutLeadingSeparators_left,
    Hierarchy.isSameOrDerived_withoutLeadingSeparators_right, tolerated]

def managerHierarchy : Hierarchy := Hierarchy.empty.addParent "Manager" "User"

def shop : EntityClass := ⟨"Shop", "Shop.php", [⟨"manager", some ⟨8⟩, 12⟩]⟩

def shopMapping (isOwningSide : Bool) (mappedBy : Option String) : AssociationMapping :=
  { fieldName := "manager", kind := .oneToOne, targetEntity := "\\Manager", isOwningSide, mappedBy
    joinColumns := [{ nullable := some false }] }

def shopMetadata (mapping : AssociationMapping) : ClassMetadata :=
  { name := "Shop", associations := [("manager", mapping)] }

/-- The shapes `User` and `User|null`, numbered from 7. -/
def userStore : TypeStore :=
  ⟨(initial.shapes.push (.object "User" [])).push (.union [⟨7⟩, .null])⟩

end AssociationCheck
