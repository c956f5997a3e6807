/-
How a store grows.

A computation on a store adds shapes at its end and changes none, so a type keeps its shape under
its identifier in every later store. This is the frame that all reasoning about stores rests on.
-/

import AssociationCheck.Types.Store

namespace AssociationCheck

/-! ### Running computations -/

namespace Building

variable {α β : Type}

theorem run_pure (value : α) (store : TypeStore) :
    (pure value : Building α).run store = (value, store) := rfl

theorem run_bind (first : Building α) (next : α → Building β) (store : TypeStore) :
    (first >>= next).run store = (next (first.run store).1).run (first.run store).2 := rfl

theorem run_get_bind (next : TypeStore → Building β) (store : TypeStore) :
    ((get : Building TypeStore) >>= next).run store = (next store).run store := rfl

/-- What holds of the result of a computation and of the store that it leaves. -/
def Ensures (build : Building α) (store : TypeStore) (goal : α → TypeStore → Prop) : Prop :=
  goal (build.run store).1 (build.run store).2

variable {store : TypeStore} {goal : β → TypeStore → Prop}

theorem ensures_pure {value : β} (holds : goal value store) : Ensures (pure value) store goal :=
  holds

theorem ensures_bind {first : Building α} {next : α → Building β}
    {middle : α → TypeStore → Prop} (start : Ensures first store middle)
    (rest : ∀ value later, middle value later → Ensures (next value) later goal) :
    Ensures (first >>= next) store goal :=
  rest _ _ start

theorem ensures_of_run {build : Building β} {value : β} {later : TypeStore}
    (run : build.run store = (value, later)) (holds : goal value later) :
    Ensures build store goal := by
  rw [Ensures, run]
  exact holds

theorem ensures_mapM_pair {build : α → Building β} {first second : α}
    {middle : β → TypeStore → Prop} {pairGoal : List β → TypeStore → Prop}
    (start : Ensures (build first) store middle)
    (rest : ∀ value later, middle value later →
      Ensures (build second) later (fun other last => pairGoal [value, other] last)) :
    Ensures ([first, second].mapM build) store pairGoal :=
  rest _ _ start

theorem ensures_get_bind {next : TypeStore → Building β} (rest : Ensures (next store) store goal) :
    Ensures (get >>= next) store goal :=
  rest

theorem Ensures.weaken {build : Building β} {weaker : β → TypeStore → Prop}
    (ensured : Ensures build store goal)
    (implied : ∀ value later, goal value later → weaker value later) :
    Ensures build store weaker :=
  implied _ _ ensured

end Building

namespace TypeStore

open Building

variable {store later last : TypeStore} {id : TypeId} {shape : Shape}

/-! ### Known identifiers -/

def Contains (store : TypeStore) (id : TypeId) : Prop := id.index < store.size

instance (store : TypeStore) (id : TypeId) : Decidable (store.Contains id) :=
  inferInstanceAs (Decidable (id.index < store.size))

theorem contains_of_lookup (found : store.lookup id = some shape) : store.Contains id := by
  obtain ⟨inside, _⟩ := Array.getElem?_eq_some_iff.mp found
  exact inside

theorem exists_lookup (known : store.Contains id) : ∃ shape, store.lookup id = some shape :=
  ⟨store.shapes[id.index], Array.getElem?_eq_getElem known⟩

theorem lookup_unique {other : Shape} (found : store.lookup id = some shape)
    (again : store.lookup id = some other) : shape = other :=
  Option.some.inj (found.symm.trans again)

theorem ne_of_lookup {otherId : TypeId} {other : Shape} (found : store.lookup id = some shape)
    (otherFound : store.lookup otherId = some other) (differ : shape ≠ other) : id ≠ otherId := by
  intro same
  subst same
  exact differ (lookup_unique found otherFound)

/-! ### Growth -/

def GrowsTo (store later : TypeStore) : Prop :=
  ∀ ⦃id shape⦄, store.lookup id = some shape → later.lookup id = some shape

theorem GrowsTo.refl (store : TypeStore) : store.GrowsTo store := fun _ _ found => found

theorem GrowsTo.trans (first : store.GrowsTo later) (second : later.GrowsTo last) :
    store.GrowsTo last :=
  fun _ _ found => second (first found)

theorem GrowsTo.contains (grows : store.GrowsTo later) (known : store.Contains id) :
    later.Contains id := by
  obtain ⟨shape, found⟩ := exists_lookup known
  exact contains_of_lookup (grows found)

theorem GrowsTo.lookup_eq (grows : store.GrowsTo later) (known : store.Contains id) :
    later.lookup id = store.lookup id := by
  obtain ⟨shape, found⟩ := exists_lookup known
  rw [found, grows found]

theorem size_le_of_growsTo (grows : store.GrowsTo later) : store.size ≤ later.size := by
  apply Nat.le_of_not_lt
  intro smaller
  have known : store.Contains ⟨later.size⟩ := smaller
  exact Nat.lt_irrefl _ (grows.contains known)

/-! ### Interning -/

theorem lookup_of_find? (found : store.find? shape = some id) : store.lookup id = some shape := by
  obtain ⟨index, known, rfl⟩ := Option.map_eq_some_iff.mp found
  rw [Array.idxOf?, Option.map_eq_some_iff] at known
  obtain ⟨place, known, rfl⟩ := known
  simpa [lookup] using (Array.finIdxOf?_eq_some_iff.mp known).1

theorem lookup_push (store : TypeStore) (shape : Shape) (id : TypeId) :
    (TypeStore.mk (store.shapes.push shape)).lookup id =
      if id.index = store.size then some shape else store.lookup id := by
  rw [lookup, Array.getElem?_push]
  rfl

theorem intern_run_cases (shape : Shape) (store : TypeStore) :
    (∃ id, store.lookup id = some shape ∧ (intern shape).run store = (id, store)) ∨
      (intern shape).run store = (⟨store.size⟩, ⟨store.shapes.push shape⟩) := by
  cases known : store.find? shape with
  | some id =>
      refine Or.inl ⟨id, lookup_of_find? known, ?_⟩
      change intern shape store = _
      rw [intern, known]
  | none =>
      refine Or.inr ?_
      change intern shape store = _
      rw [intern, known]

theorem growsTo_push (store : TypeStore) (shape : Shape) :
    store.GrowsTo ⟨store.shapes.push shape⟩ := by
  intro id other found
  have inside : id.index < store.size := contains_of_lookup found
  rw [lookup_push, if_neg (Nat.ne_of_lt inside), found]

theorem intern_ensures (shape : Shape) (store : TypeStore) :
    Ensures (intern shape) store
      (fun id later => store.GrowsTo later ∧ later.lookup id = some shape) := by
  unfold Ensures
  rcases intern_run_cases shape store with ⟨id, found, same⟩ | added
  · rw [same]
    exact ⟨GrowsTo.refl store, found⟩
  · rw [added]
    refine ⟨growsTo_push store shape, ?_⟩
    rw [lookup_push, if_pos rfl]

theorem object_ensures (name : String) (arguments : List TypeId) (store : TypeStore) :
    Ensures (object name arguments) store (fun id later => store.GrowsTo later ∧
      later.lookup id = some (.object (withoutLeadingSeparators name) arguments)) :=
  intern_ensures _ store

end TypeStore

/-! ### Growth of computations -/

namespace Building

open TypeStore

variable {α β : Type}

/-- Whatever store it starts from, the computation only adds types. -/
def Grows (build : Building α) : Prop := ∀ store : TypeStore, store.GrowsTo (build.run store).2

theorem grows_pure (value : α) : Grows (pure value) := fun store => GrowsTo.refl store

theorem grows_bind {first : Building α} {next : α → Building β} (start : Grows first)
    (rest : ∀ value, Grows (next value)) : Grows (first >>= next) :=
  fun store => (start store).trans (rest _ _)

theorem grows_get_bind {next : TypeStore → Building β} (rest : ∀ store, Grows (next store)) :
    Grows (get >>= next) :=
  fun store => rest store store

theorem grows_mapM {build : α → Building β} (each : ∀ item, Grows (build item)) (items : List α) :
    Grows (items.mapM build) := by
  induction items with
  | nil => exact grows_pure []
  | cons first others ih =>
      rw [List.mapM_cons]
      exact grows_bind (each first) (fun _ => grows_bind ih (fun _ => grows_pure _))

theorem grows_intern (shape : Shape) : Grows (intern shape) :=
  fun store => (intern_ensures shape store).1

theorem grows_settle (form : Normalized) : Grows (settle form) := by
  cases form with
  | known id => exact grows_pure id
  | stored shape => exact grows_intern shape

theorem grows_union (members : List TypeId) : Grows (union members) :=
  grows_get_bind (fun _ => grows_settle _)

theorem grows_intersection (members : List TypeId) : Grows (intersection members) :=
  grows_get_bind (fun _ => grows_settle _)

theorem grows_removeNull (id : TypeId) : Grows (removeNull id) := by
  unfold removeNull
  split
  · exact grows_pure _
  · refine grows_get_bind (fun store => ?_)
    split
    · exact grows_union _
    · exact grows_pure id

end Building

end AssociationCheck
