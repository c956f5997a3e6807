/-
Collections.

A collection is stored as the intersection of a class and of what can be iterated. Neither of the
two is opened or left out, so the intersection is kept as it is.
-/

import AssociationCheck.Proofs.Types.Nullable

namespace AssociationCheck.TypeStore

open Building

variable {store later : TypeStore} {id instances items key value : TypeId} {name : String}

/-- The instances of a class without arguments that yield keys and values of two types. -/
def Meets (store : TypeStore) (name : String) (key value id : TypeId) : Prop :=
  ∃ instances items, store.lookup instances = some (.object name []) ∧
    store.lookup items = some (.iterable key value) ∧
    store.lookup id = some (.intersection [instances, items])

theorem Meets.grow (meets : store.Meets name key value id) (grows : store.GrowsTo later) :
    later.Meets name key value id := by
  obtain ⟨instances, items, instancesFound, itemsFound, found⟩ := meets
  exact ⟨instances, items, grows instancesFound, grows itemsFound, grows found⟩

theorem normalizeIntersection_pair (standard : initial.GrowsTo store)
    (instancesFound : store.lookup instances = some (.object name []))
    (itemsFound : store.lookup items = some (.iterable key value)) :
    store.normalizeIntersection [instances, items] =
      .stored (.intersection [instances, items]) := by
  have instancesWhole : (store.lookup instances).bind Shape.intersectionMembers? = none := by
    rw [instancesFound]
    rfl
  have itemsWhole : (store.lookup items).bind Shape.intersectionMembers? = none := by
    rw [itemsFound]
    rfl
  have instancesApart := ne_scalar_of_lookup standard instancesFound rfl
  have itemsApart := ne_scalar_of_lookup standard itemsFound rfl
  have instancesNotMixed : instances ≠ .mixed := instancesApart .mixed
  have instancesNotNever : instances ≠ .never := instancesApart .never
  have itemsNotMixed : items ≠ .mixed := itemsApart .mixed
  have itemsNotNever : items ≠ .never := itemsApart .never
  have distinct : instances ≠ items := ne_of_lookup instancesFound itemsFound (by simp)
  have once : [instances, items].eraseDups = [instances, items] := by
    simp [List.eraseDups_cons, Ne.symm distinct]
  simp [normalizeIntersection, flatten_whole instancesWhole, flatten_whole itemsWhole,
    instancesNotMixed, itemsNotMixed, once, Ne.symm instancesNotNever, Ne.symm itemsNotNever]

theorem meet_ensures (standard : initial.GrowsTo store)
    (instancesFound : store.lookup instances = some (.object name []))
    (itemsFound : store.lookup items = some (.iterable key value)) :
    Ensures (intersection [instances, items]) store
      (fun id later => store.GrowsTo later ∧ later.Meets name key value id) := by
  apply ensures_get_bind
  rw [normalizeIntersection_pair standard instancesFound itemsFound]
  apply (intern_ensures (.intersection [instances, items]) store).weaken
  rintro id later ⟨grows, found⟩
  exact ⟨grows, instances, items, grows instancesFound, grows itemsFound, found⟩

end AssociationCheck.TypeStore
