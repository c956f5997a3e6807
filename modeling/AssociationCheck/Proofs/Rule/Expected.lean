/-
The expected type.

To one, the expected type is the class of the target, with null where the database can hold null.
To many, it is a collection of the target, which is never null.
-/

import AssociationCheck.Proofs.Types.Collections
import AssociationCheck.Rule.Expected

namespace AssociationCheck

open Building TypeStore

variable {store : TypeStore} {association : Association}

theorem collectionOf_ensures (standard : initial.GrowsTo store) (name : String) (value : TypeId) :
    Ensures (collectionOf name value) store (fun id later =>
      store.GrowsTo later ∧ later.Meets (withoutLeadingSeparators name) .mixed value id) := by
  apply ensures_bind (object_ensures name [] store)
  rintro instances middle ⟨first, instancesFound⟩
  apply ensures_bind (intern_ensures (.iterable .mixed value) middle)
  rintro items next ⟨second, itemsFound⟩
  apply (meet_ensures ((standard.trans first).trans second) (second instancesFound)
    itemsFound).weaken
  rintro id later ⟨third, meets⟩
  exact ⟨(first.trans second).trans third, meets⟩

/-- The expected type of a property to one is its target, with null where the database can hold
null. -/
theorem expectedType_toOne (options : CheckOptions) (standard : initial.GrowsTo store)
    (toOne : association.isToMany = false) :
    Ensures (expectedType options association) store (fun expected later =>
      store.GrowsTo later ∧ ∃ target,
        later.lookup target =
          some (.object (withoutLeadingSeparators association.targetEntity) []) ∧
        later.OrNull association.expectsNull target expected) := by
  apply ensures_bind (object_ensures association.targetEntity [] store)
  rintro target middle ⟨grows, found⟩
  rw [toOne, if_neg Bool.false_ne_true]
  cases expectsNull : association.expectsNull with
  | false =>
      rw [if_neg Bool.false_ne_true]
      exact ensures_pure ⟨grows, target, found, rfl⟩
  | true =>
      rw [if_pos rfl]
      apply (addNull_ensures (standard.trans grows) found rfl).weaken
      rintro expected later ⟨further, written⟩
      exact ⟨grows.trans further, target, further found, written⟩

theorem expectedType_toMany (options : CheckOptions) (standard : initial.GrowsTo store)
    (toMany : association.isToMany = true) :
    Ensures (expectedType options association) store (fun expected later =>
      store.GrowsTo later ∧ ∃ target,
        later.lookup target =
          some (.object (withoutLeadingSeparators association.targetEntity) []) ∧
        later.Meets (withoutLeadingSeparators options.collectionInterface) .mixed target
          expected) := by
  apply ensures_bind (object_ensures association.targetEntity [] store)
  rintro target middle ⟨grows, found⟩
  rw [toMany, if_pos rfl]
  apply (collectionOf_ensures (standard.trans grows) options.collectionInterface target).weaken
  rintro expected later ⟨further, meets⟩
  exact ⟨grows.trans further, target, further found, meets⟩

end AssociationCheck
