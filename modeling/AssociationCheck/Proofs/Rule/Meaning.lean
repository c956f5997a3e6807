/-
What the expected type means.

The values of the expected type follow from the association alone. It names no class with arguments,
so a definite yes about it means containment whatever the declared type is.
-/

import AssociationCheck.Proofs.Rule.Expected
import AssociationCheck.Proofs.Subtype.Soundness
import AssociationCheck.Proofs.Types.Entries

namespace AssociationCheck

open Building TypeStore

variable {store later : TypeStore} {hierarchy : Hierarchy} {options : CheckOptions}
  {association : Association}

/-! ### Values -/

/-- What the mapping allows the property to hold: to many, collections of targets; to one, targets
and, where the database can hold it, null. -/
def Association.Expects (hierarchy : Hierarchy) (options : CheckOptions) (association : Association)
    (value : Value) : Prop :=
  if association.isToMany then
    value.IsInstance hierarchy options.collectionInterface ∧
      value.Yields hierarchy (Value.IsInstance hierarchy association.targetEntity)
  else
    value.IsInstance hierarchy association.targetEntity ∨
      (association.expectsNull = true ∧ value = .null)

def Association.ExpectedAs (options : CheckOptions) (association : Association) (store : TypeStore)
    (expected : TypeId) : Prop :=
  ∃ target,
    store.lookup target = some (.object (withoutLeadingSeparators association.targetEntity) []) ∧
      if association.isToMany then
        store.Meets (withoutLeadingSeparators options.collectionInterface) .mixed target expected
      else store.OrNull association.expectsNull target expected

theorem expectedType_ensures (options : CheckOptions) (standard : initial.GrowsTo store)
    (association : Association) :
    Ensures (expectedType options association) store (fun expected later =>
      store.GrowsTo later ∧ association.ExpectedAs options later expected) := by
  unfold Association.ExpectedAs
  cases cardinality : association.isToMany with
  | false => simpa using expectedType_toOne options standard cardinality
  | true => simpa using expectedType_toMany options standard cardinality

theorem Association.ExpectedAs.grow {expected : TypeId}
    (shaped : association.ExpectedAs options store expected) (grows : store.GrowsTo later) :
    association.ExpectedAs options later expected := by
  obtain ⟨target, found, form⟩ := shaped
  refine ⟨target, grows found, ?_⟩
  split at form
  · rw [if_pos ‹_›]
    exact form.grow grows
  · rw [if_neg ‹_›]
    exact form.grow grows

theorem Association.ExpectedAs.holds_iff {expected : TypeId} {value : Value}
    (shaped : association.ExpectedAs options store expected) (standard : initial.GrowsTo store) :
    store.Holds hierarchy expected value ↔ association.Expects hierarchy options value := by
  obtain ⟨target, found, form⟩ := shaped
  have instances (item : Value) : store.Holds hierarchy target item ↔
      item.IsInstance hierarchy association.targetEntity := by
    rw [holds_class_iff found, Value.isInstance_withoutLeadingSeparators]
  unfold Association.Expects
  split at form
  · rw [if_pos ‹_›, holds_meets_iff standard form, Value.yields_congr instances,
      Value.isInstance_withoutLeadingSeparators]
  · rw [if_neg ‹_›, holds_orNull_iff standard form, instances]

theorem Association.ExpectedAs.isNullable {expected : TypeId}
    (shaped : association.ExpectedAs options store expected) (standard : initial.GrowsTo store) :
    store.isNullable expected = association.expectsNull := by
  obtain ⟨target, found, form⟩ := shaped
  split at form
  · rename_i toMany
    obtain ⟨_, _, _, _, expectedFound⟩ := form
    have never : association.expectsNull = false := by
      simp [Association.expectsNull, toMany]
    have whole : store.OrNull false expected expected := rfl
    rw [never]
    exact isNullable_orNull standard expectedFound rfl whole
  · exact isNullable_orNull standard found rfl form

/-! ### Well-formedness -/

theorem collectionOf_extends (formed : store.WellFormed) (name : String) {value : TypeId}
    (known : store.Contains value) :
    Ensures (collectionOf name value) store
      (fun id later => store.ExtendsTo later ∧ later.Contains id) := by
  apply ensures_bind (object_extends formed name (by simp))
  rintro instances middle ⟨first, instancesFound⟩
  apply ensures_bind (iterable_extends first.wellFormed
    (contains_scalar first.wellFormed.standard .mixed) (first.contains known))
  rintro items next ⟨second, itemsFound⟩
  have members : ∀ member ∈ [instances, items], next.Contains member := by
    simpa using And.intro (second.contains (contains_of_lookup instancesFound))
      (contains_of_lookup itemsFound)
  apply (intersection_extends second.wellFormed members).weaken
  rintro id later ⟨third, known⟩
  exact ⟨(first.trans second).trans third, known⟩

theorem expectedType_extends (options : CheckOptions) (formed : store.WellFormed)
    (association : Association) :
    Ensures (expectedType options association) store
      (fun expected later => store.ExtendsTo later ∧ later.Contains expected) := by
  apply ensures_bind (object_extends formed association.targetEntity (by simp))
  rintro target middle ⟨first, found⟩
  have known := contains_of_lookup found
  split
  · apply (collectionOf_extends first.wellFormed options.collectionInterface known).weaken
    rintro expected later ⟨second, expectedKnown⟩
    exact ⟨first.trans second, expectedKnown⟩
  · split
    · apply (addNull_extends first.wellFormed known).weaken
      rintro expected later ⟨second, expectedKnown⟩
      exact ⟨first.trans second, expectedKnown⟩
    · exact ensures_pure ⟨first, known⟩

/-! ### Containment -/

theorem not_hasArity_class {id : TypeId} {name : String}
    (found : store.lookup id = some (.object name [])) (count : Nat) :
    ¬ store.HasArity id count := by
  intro arity
  rcases arity.cases found with ⟨_, _, same, given⟩ | ⟨_, present, _⟩
  · cases same
    exact given rfl
  · cases present

theorem not_hasArity_of_parts {id : TypeId} {shape : Shape} {count : Nat}
    (found : store.lookup id = some shape)
    (whole : ∀ name arguments, shape ≠ .object name arguments)
    (parts : ∀ part ∈ shape.parts, ¬ store.HasArity part count) : ¬ store.HasArity id count := by
  intro arity
  rcases arity.cases found with ⟨name, arguments, same, _⟩ | ⟨part, present, inside⟩
  · exact whole name arguments same
  · exact parts part present inside

theorem Association.ExpectedAs.not_hasArity {expected : TypeId}
    (shaped : association.ExpectedAs options store expected) (standard : initial.GrowsTo store)
    (count : Nat) : ¬ store.HasArity expected count := by
  obtain ⟨target, found, form⟩ := shaped
  have targetPlain := not_hasArity_class found count
  split at form
  · obtain ⟨instances, items, instancesFound, itemsFound, expectedFound⟩ := form
    have keyPlain : ¬ store.HasArity .mixed count := not_hasArity_scalar standard .mixed count
    have itemsPlain : ¬ store.HasArity items count :=
      not_hasArity_of_parts itemsFound (by simp) (by simp [Shape.parts, keyPlain, targetPlain])
    exact not_hasArity_of_parts expectedFound (by simp)
      (by simp [Shape.parts, not_hasArity_class instancesFound count, itemsPlain])
  · cases expectsNull : association.expectsNull with
    | false =>
        rw [expectsNull] at form
        have same : expected = target := form
        rw [same]
        exact targetPlain
    | true =>
        rw [expectsNull] at form
        have expectedFound : store.lookup expected = some (.union [target, .null]) := form
        have nullPlain : ¬ store.HasArity .null count := not_hasArity_scalar standard .null count
        exact not_hasArity_of_parts expectedFound (by simp)
          (by simp [Shape.parts, targetPlain, nullPlain])

/-- What is definitely below the expected type, or above it, is contained in it or contains it. -/
theorem Association.ExpectedAs.comparable {expected other : TypeId}
    (shaped : association.ExpectedAs options store expected) (standard : initial.GrowsTo store) :
    store.Comparable expected other ∧ store.Comparable other expected :=
  ⟨fun count _ arity _ => absurd arity (shaped.not_hasArity standard count),
    fun _ count _ arity => absurd arity (shaped.not_hasArity standard count)⟩

end AssociationCheck
