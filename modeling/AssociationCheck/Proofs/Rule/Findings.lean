/-
What the check of a class finds property by property.

The diagnostics of a class are those of its properties, one after the other, each found in the
store that the properties before it have left. Those of one property are decided by whether each
direction fits.
-/

import AssociationCheck.Proofs.Types.Nullable
import AssociationCheck.Rule.Check

namespace AssociationCheck

open Building TypeStore

/-! ### Diagnostics of one property -/

/-- What one side of a property can contain and what the other side expects. -/
def DiagnosticKind.about (kind : DiagnosticKind) (entity : EntityClass)
    (property : DeclaredProperty) (contained expects : String) : Diagnostic :=
  kind.diagnose entity.file property.line [entity.name, property.name, contained, expects]

def findings (entity : EntityClass) (property : DeclaredProperty) (fromDatabase fromProperty : Bool)
    (expected declared : String) : List Diagnostic :=
  (if fromDatabase then []
    else [DiagnosticKind.databaseCanContain.about entity property expected declared]) ++
  (if fromProperty then []
    else [DiagnosticKind.propertyCanContain.about entity property declared expected])

variable (hierarchy : Hierarchy) (options : CheckOptions) (metadata : ClassMetadata)
  (entity : EntityClass) (property : DeclaredProperty)

def comparedType (association : Association) (declared : TypeId) : Building TypeId :=
  if association.isToMany then normalizeCollection hierarchy options declared else pure declared

theorem checkProperty_run (written : TypeId) (association : Association) (store : TypeStore) :
    (checkProperty hierarchy options entity property written association).run store =
      let expected := (expectedType options association).run store
      let declared := (comparedType hierarchy options association written).run expected.2
      let stored := (declaredForProperty options expected.1 declared.1).run declared.2
      (findings entity property (databaseFits stored.2 hierarchy expected.1 declared.1)
        (propertyFits stored.2 hierarchy stored.1 expected.1) (stored.2.text expected.1)
        (stored.2.text written), stored.2) := by
  unfold checkProperty comparedType
  rw [run_bind]
  cases association.isToMany
  · rw [if_neg Bool.false_ne_true, run_bind, run_bind, run_get_bind, run_pure,
      if_neg Bool.false_ne_true]
    rfl
  · rw [if_pos rfl, run_bind, run_bind, run_get_bind, run_pure, if_pos rfl]
    rfl

/-! ### Associations -/

theorem association?_of_get? {metadata : ClassMetadata} {field : String}
    {mapping : AssociationMapping} (mapped : metadata.associations.get? field = some mapping) :
    metadata.association? field =
      some (.ofMapping mapping (metadata.identifierRole field)) := by
  rw [ClassMetadata.association?, mapped]
  rfl

theorem isToMany_ofMapping (mapping : AssociationMapping) (role : IdentifierRole) :
    (Association.ofMapping mapping role).isToMany = (mapping.kind.cardinality == .toMany) := rfl

/-! ### Null that is tolerated -/

/-- The declared type has to fit without its null where null is tolerated and not expected. -/
theorem declaredForProperty_orNull {store : TypeStore} (standard : initial.GrowsTo store)
    {expectedBase expected base declared : TypeId} {expectedShape shape : Shape}
    {expectsNull nullable : Bool} (expectedFound : store.lookup expectedBase = some expectedShape)
    (expectedPlain : expectedShape.isPlain = true)
    (expectedWritten : store.OrNull expectsNull expectedBase expected)
    (found : store.lookup base = some shape) (plain : shape.isPlain = true)
    (written : store.OrNull nullable base declared) :
    ∃ stored, (declaredForProperty options expected declared).run store = (stored, store) ∧
      store.OrNull (nullable && (expectsNull || !options.allowNullable)) base stored := by
  have expectedNull := isNullable_orNull standard expectedFound expectedPlain expectedWritten
  rw [declaredForProperty, run_get_bind, expectedNull]
  cases tolerated : options.allowNullable && !expectsNull with
  | true =>
      refine ⟨base, ?_, ?_⟩
      · rw [if_pos rfl, removeNull_run standard found plain written]
      · obtain ⟨allowed, unexpected⟩ := Bool.and_eq_true_iff.mp tolerated
        have stays : (nullable && (expectsNull || !options.allowNullable)) = false := by
          simp_all
        rw [stays]
        exact rfl
  | false =>
      refine ⟨declared, ?_, ?_⟩
      · rw [if_neg Bool.false_ne_true, run_pure]
      · have kept : (expectsNull || !options.allowNullable) = true := by
          cases expectsNull <;> simp_all
        rw [kept, Bool.and_true]
        exact written

/-! ### Growth -/

theorem grows_collectionOf (name : String) (value : TypeId) : Grows (collectionOf name value) :=
  grows_bind (grows_intern _) (fun _ => grows_bind (grows_intern _) (fun _ =>
    grows_intersection _))

theorem grows_expectedType (association : Association) :
    Grows (expectedType options association) := by
  apply grows_bind (grows_intern _)
  intro target
  split
  · exact grows_collectionOf _ target
  · split
    · exact grows_union _
    · exact grows_pure target

theorem grows_normalizeWithin (levels : Nat) (declared : TypeId) :
    Grows (normalizeWithin hierarchy options levels declared) := by
  induction levels generalizing declared with
  | zero => exact grows_pure declared
  | succ levels ih =>
      rw [normalizeWithin]
      refine grows_get_bind (fun store => ?_)
      split
      · split
        · split
          · exact grows_collectionOf _ _
          · exact grows_pure declared
        · exact grows_pure declared
      · split
        · exact grows_pure declared
        · exact grows_intern _
      · split
        · exact grows_pure declared
        · exact grows_intern _
      · exact grows_bind (grows_mapM ih _) (fun _ => grows_union _)
      · exact grows_bind (grows_mapM ih _) (fun _ => grows_intersection _)
      · exact grows_pure declared

theorem grows_comparedType (association : Association) (declared : TypeId) :
    Grows (comparedType hierarchy options association declared) := by
  unfold comparedType
  split
  · exact grows_get_bind (fun store => grows_normalizeWithin hierarchy options store.size declared)
  · exact grows_pure declared

theorem grows_declaredForProperty (expected declared : TypeId) :
    Grows (declaredForProperty options expected declared) := by
  refine grows_get_bind (fun store => ?_)
  split
  · exact grows_removeNull declared
  · exact grows_pure declared

theorem grows_checkProperty (written : TypeId) (association : Association) :
    Grows (checkProperty hierarchy options entity property written association) := by
  intro store
  rw [checkProperty_run]
  exact ((grows_expectedType options association store).trans
    (grows_comparedType hierarchy options association written _)).trans
    (grows_declaredForProperty options _ _ _)

/-! ### Diagnostics of a class -/

theorem checkProperties_nil (store : TypeStore) :
    (checkProperties hierarchy options metadata entity []).run store = ([], store) := rfl

def checkMapped (property : DeclaredProperty) : Building (List Diagnostic) :=
  match property.declaredType, metadata.association? property.name with
  | some declared, some association =>
      checkProperty hierarchy options entity property declared association
  | _, _ => pure []

theorem checkProperties_cons (others : List DeclaredProperty) (store : TypeStore) :
    (checkProperties hierarchy options metadata entity (property :: others)).run store =
      let first := (checkMapped hierarchy options metadata entity property).run store
      let rest := (checkProperties hierarchy options metadata entity others).run first.2
      (first.1 ++ rest.1, rest.2) := by
  rw [checkProperties]
  unfold checkMapped
  cases property.declaredType with
  | none => rfl
  | some declared => cases metadata.association? property.name <;> rfl

theorem grows_checkMapped : Grows (checkMapped hierarchy options metadata entity property) := by
  unfold checkMapped
  split
  · exact grows_checkProperty hierarchy options entity property _ _
  · exact grows_pure []

theorem grows_checkProperties (properties : List DeclaredProperty) :
    Grows (checkProperties hierarchy options metadata entity properties) := by
  induction properties with
  | nil => exact grows_pure []
  | cons property others ih =>
      intro store
      rw [checkProperties_cons]
      exact (grows_checkMapped hierarchy options metadata entity property store).trans (ih _)

theorem checkProperties_append (before after : List DeclaredProperty) (store : TypeStore) :
    (checkProperties hierarchy options metadata entity (before ++ after)).run store =
      let front := (checkProperties hierarchy options metadata entity before).run store
      let back := (checkProperties hierarchy options metadata entity after).run front.2
      (front.1 ++ back.1, back.2) := by
  induction before generalizing store with
  | nil => rfl
  | cons first others ih =>
      rw [List.cons_append, checkProperties_cons, checkProperties_cons]
      simp only [ih, List.append_assoc]

theorem checkMapped_eq {declared : TypeId} {association : Association}
    (typed : property.declaredType = some declared)
    (mapped : metadata.association? property.name = some association) :
    checkMapped hierarchy options metadata entity property =
      checkProperty hierarchy options entity property declared association := by
  unfold checkMapped
  rw [typed, mapped]

theorem checkProperties_through {declared : TypeId} {association : Association}
    (typed : property.declaredType = some declared)
    (mapped : metadata.association? property.name = some association)
    (before : List DeclaredProperty) (store : TypeStore) :
    ((checkProperties hierarchy options metadata entity (before ++ [property])).run store).2 =
      ((checkProperty hierarchy options entity property declared association).run
        ((checkProperties hierarchy options metadata entity before).run store).2).2 := by
  simp only [checkProperties_append, checkProperties_cons, checkProperties_nil,
    checkMapped_eq hierarchy options metadata entity property typed mapped]

/-- The diagnostics of a class are those of the properties before some property, those of that
property, and those of the properties after it. -/
theorem checkProperties_around {declared : TypeId} {association : Association}
    (typed : property.declaredType = some declared)
    (mapped : metadata.association? property.name = some association)
    (before after : List DeclaredProperty) (store : TypeStore) :
    ((checkProperties hierarchy options metadata entity
        (before ++ property :: after)).run store).1 =
      let front := (checkProperties hierarchy options metadata entity before).run store
      let through := (checkProperties hierarchy options metadata entity
        (before ++ [property])).run store
      front.1 ++
        ((checkProperty hierarchy options entity property declared association).run front.2).1 ++
        ((checkProperties hierarchy options metadata entity after).run through.2).1 := by
  simp only [checkProperties_append, checkProperties_cons, checkProperties_nil,
    checkMapped_eq hierarchy options metadata entity property typed mapped, List.append_assoc]

theorem mem_checkClass_of_mem {declared : TypeId} {association : Association}
    (typed : property.declaredType = some declared)
    (mapped : metadata.association? property.name = some association)
    {before after : List DeclaredProperty} (split : entity.properties = before ++ property :: after)
    {store : TypeStore} {diagnostic : Diagnostic}
    (present : diagnostic ∈
      ((checkProperty hierarchy options entity property declared association).run
        ((checkProperties hierarchy options metadata entity before).run store).2).1) :
    diagnostic ∈ ((checkClass hierarchy options (some metadata) entity).run store).1 := by
  rw [checkClass, split,
    checkProperties_around hierarchy options metadata entity property typed mapped]
  exact List.mem_append_left _ (List.mem_append_right _ present)

end AssociationCheck
