/-
Values of classes and of collections.

A class without arguments has its instances; an iterable or an array of any keys has the values
whose entries have values of its element type; a collection has the values that are both.
-/

import AssociationCheck.Proofs.Types.Collections
import AssociationCheck.Proofs.Types.Values

namespace AssociationCheck

namespace Value

def IsInstance (hierarchy : Hierarchy) (name : String) : Value → Prop
  | object className _ => hierarchy.Reaches (.of className) (.of name)
  | _ => False

/-- An array, or an object that can be iterated, whose entries have certain values. -/
def Yields (hierarchy : Hierarchy) (item : Value → Prop) : Value → Prop
  | array entries => ∀ entry ∈ entries, item entry.2
  | object className entries =>
      hierarchy.Reaches (.of className) (.of Hierarchy.traversable) ∧
        ∀ entry ∈ entries, item entry.2
  | _ => False

def Lists (item : Value → Prop) : Value → Prop
  | array entries => ∀ entry ∈ entries, item entry.2
  | _ => False

variable {hierarchy : Hierarchy} {item other : Value → Prop}

@[simp] theorem isInstance_withoutLeadingSeparators (name : String) (value : Value) :
    value.IsInstance hierarchy (withoutLeadingSeparators name) ↔
      value.IsInstance hierarchy name := by
  cases value <;> simp [IsInstance]

theorem yields_congr (same : ∀ value, item value ↔ other value) (value : Value) :
    value.Yields hierarchy item ↔ value.Yields hierarchy other := by
  cases value <;> simp [Yields, same]

theorem lists_congr (same : ∀ value, item value ↔ other value) (value : Value) :
    value.Lists item ↔ value.Lists other := by
  cases value <;> simp [Lists, same]

end Value

namespace TypeStore

variable {store : TypeStore} {hierarchy : Hierarchy} {id base key item : TypeId} {name : String}
  {value : Value}

theorem holds_class_iff (found : store.lookup id = some (.object name [])) :
    store.Holds hierarchy id value ↔ value.IsInstance hierarchy name := by
  rw [holds_iff found]
  cases value <;> simp [Shape.Admits, Value.IsInstance]

theorem holds_iterable_iff (standard : initial.GrowsTo store)
    (found : store.lookup id = some (.iterable .mixed item)) :
    store.Holds hierarchy id value ↔ value.Yields hierarchy (store.Holds hierarchy item) := by
  rw [holds_iff found]
  cases value <;> simp [Shape.Admits, Value.Yields, holds_mixed standard]

theorem holds_array_iff (standard : initial.GrowsTo store)
    (found : store.lookup id = some (.array .mixed item)) :
    store.Holds hierarchy id value ↔ value.Lists (store.Holds hierarchy item) := by
  rw [holds_iff found]
  cases value <;> simp [Shape.Admits, Value.Lists, holds_mixed standard]

theorem holds_meets_iff (standard : initial.GrowsTo store)
    (meets : store.Meets name .mixed item id) :
    store.Holds hierarchy id value ↔
      value.IsInstance hierarchy name ∧ value.Yields hierarchy (store.Holds hierarchy item) := by
  obtain ⟨instances, items, instancesFound, itemsFound, found⟩ := meets
  rw [holds_iff found, ← holds_class_iff instancesFound, ← holds_iterable_iff standard itemsFound]
  simp [Shape.Admits]

theorem holds_orNull_iff (standard : initial.GrowsTo store) {nullable : Bool}
    (written : store.OrNull nullable base id) :
    store.Holds hierarchy id value ↔
      store.Holds hierarchy base value ∨ (nullable = true ∧ value = .null) := by
  cases nullable with
  | false =>
      have same : id = base := written
      simp [same]
  | true =>
      have found : store.lookup id = some (.union [base, .null]) := written
      rw [holds_iff found]
      simp [Shape.Admits, holds_null_iff standard]

/-! ### Widening -/

theorem Holds.isInstance {arguments : List TypeId} (held : store.Holds hierarchy id value)
    (found : store.lookup id = some (.object name arguments)) :
    value.IsInstance hierarchy name := by
  have admitted := (holds_iff found).mp held
  cases value with
  | object className entries => exact admitted.1
  | _ => exact admitted.elim

theorem iteratedTypes_last {arguments : List TypeId} (last : arguments.getLast? = some item) :
    (Subtype.iteratedTypes arguments).2 = item := by
  obtain ⟨others, rfl⟩ := List.getLast?_eq_some_iff.mp last
  unfold Subtype.iteratedTypes
  rw [List.reverse_append]
  cases others.reverse <;> rfl

/-- What the instances of a generic class that can be iterated yield are values of its last
argument. -/
theorem Holds.yields_last {arguments : List TypeId} (held : store.Holds hierarchy id value)
    (found : store.lookup id = some (.object name arguments))
    (iterates : hierarchy.Reaches (.of name) (.of Hierarchy.traversable))
    (last : arguments.getLast? = some item) :
    value.Yields hierarchy (store.Holds hierarchy item) := by
  have admitted := (holds_iff found).mp held
  have given : arguments ≠ [] := by
    rintro rfl
    cases last
  cases value with
  | object className entries =>
      refine ⟨admitted.1.trans iterates, ?_⟩
      intro entry present
      rw [← iteratedTypes_last last]
      exact (admitted.2 given iterates entry present).2
  | _ => exact admitted.elim

theorem Holds.yields (held : store.Holds hierarchy id value)
    (found : store.lookup id = some (.iterable key item)) :
    value.Yields hierarchy (store.Holds hierarchy item) := by
  have admitted := (holds_iff found).mp held
  cases value with
  | array entries => exact fun entry present => (admitted entry present).2
  | object className entries =>
      exact ⟨admitted.1, fun entry present => (admitted.2 entry present).2⟩
  | _ => exact admitted.elim

theorem Holds.lists (held : store.Holds hierarchy id value)
    (found : store.lookup id = some (.array key item)) :
    value.Lists (store.Holds hierarchy item) := by
  have admitted := (holds_iff found).mp held
  cases value with
  | array entries => exact fun entry present => (admitted entry present).2
  | _ => exact admitted.elim

end TypeStore

end AssociationCheck
