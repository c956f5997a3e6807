/-
Forms of collections and how they are compared.

A property to many is declared as an iterable, an array, a class, a class with arguments or a class
together with an iterable. Its normal form names no type of keys, and a class with arguments becomes
a collection where it is or derives from the interface of collections.
-/

import AssociationCheck.Proofs.Hierarchy.Ancestry
import AssociationCheck.Proofs.Rule.Expected
import AssociationCheck.Proofs.Rule.Findings

namespace AssociationCheck

open Building TypeStore

/-! ### Forms -/

/-- What a property to many is declared as, apart from the type of its elements. -/
inductive CollectionForm
  | iterable (key : TypeId)
  /-- An array or a list. -/
  | array (key : TypeId)
  /-- A class without arguments, which says nothing of the elements. -/
  | bare (name : String)
  /-- A class with arguments, the last of which is the type of the elements. -/
  | generic (name : String) (leading : List TypeId)
  /-- A class together with an iterable. -/
  | meet (name : String) (key : TypeId)
  deriving DecidableEq, Repr

namespace CollectionForm

/-- A type has a form around a type of elements. -/
def Written (store : TypeStore) (element id : TypeId) : CollectionForm → Prop
  | iterable key => store.lookup id = some (.iterable key element)
  | array key => store.lookup id = some (.array key element)
  | bare name => store.lookup id = some (.object name [])
  | generic name leading => store.lookup id = some (.object name (leading ++ [element]))
  | meet name key => store.Meets name key element id

def normal (hierarchy : Hierarchy) (interface : String) : CollectionForm → CollectionForm
  | iterable _ => iterable .mixed
  | array _ => array .mixed
  | bare name => bare name
  | generic name leading =>
      if hierarchy.isSameOrDerived name interface then meet (withoutLeadingSeparators name) .mixed
      else generic name leading
  | meet name _ => meet name .mixed

variable {hierarchy : Hierarchy} {options : CheckOptions} {store later : TypeStore}
  {element id : TypeId} {form : CollectionForm}

theorem Written.grow (written : form.Written store element id) (grows : store.GrowsTo later) :
    form.Written later element id := by
  cases form with
  | meet name key => exact Meets.grow written grows
  | iterable key => exact grows written
  | array key => exact grows written
  | bare name => exact grows written
  | generic name leading => exact grows written

theorem Written.plain (written : form.Written store element id) :
    ∃ shape, store.lookup id = some shape ∧ shape.isPlain = true := by
  cases form with
  | iterable key => exact ⟨_, written, rfl⟩
  | array key => exact ⟨_, written, rfl⟩
  | bare name => exact ⟨_, written, rfl⟩
  | generic name leading => exact ⟨_, written, rfl⟩
  | meet name key =>
      obtain ⟨instances, items, _, _, found⟩ := written
      exact ⟨_, found, rfl⟩

@[simp] theorem normal_withoutLeadingSeparators (interface : String) :
    form.normal hierarchy (withoutLeadingSeparators interface) =
      form.normal hierarchy interface := by
  cases form <;> simp [normal]

end CollectionForm

/-! ### Normal forms -/

variable (hierarchy : Hierarchy) (options : CheckOptions) {store : TypeStore}

theorem normalizeWithin_class (levels : Nat) {name : String} {id : TypeId}
    (found : store.lookup id = some (.object name [])) :
    (normalizeWithin hierarchy options (levels + 1) id).run store = (id, store) := by
  rw [normalizeWithin, run_get_bind, found]
  rfl

theorem normalizeWithin_null (standard : initial.GrowsTo store) (levels : Nat) :
    (normalizeWithin hierarchy options (levels + 1) .null).run store = (.null, store) := by
  have nullFound : store.lookup .null = some (.scalar .null) := lookup_scalar standard .null
  rw [normalizeWithin, run_get_bind, nullFound]
  rfl

theorem normalizeWithin_iterable (levels : Nat) {key value id : TypeId}
    (found : store.lookup id = some (.iterable key value)) :
    Ensures (normalizeWithin hierarchy options (levels + 1) id) store (fun result later =>
      store.GrowsTo later ∧ later.lookup result = some (.iterable .mixed value)) := by
  rw [normalizeWithin]
  apply ensures_get_bind
  rw [found]
  by_cases anyKey : key = .mixed
  · rw [anyKey] at found
    simp only [anyKey, if_true]
    exact ensures_pure ⟨GrowsTo.refl store, found⟩
  · simp only [anyKey, if_false]
    exact intern_ensures (.iterable .mixed value) store

theorem normalizeWithin_array (levels : Nat) {key value id : TypeId}
    (found : store.lookup id = some (.array key value)) :
    Ensures (normalizeWithin hierarchy options (levels + 1) id) store (fun result later =>
      store.GrowsTo later ∧ later.lookup result = some (.array .mixed value)) := by
  rw [normalizeWithin]
  apply ensures_get_bind
  rw [found]
  by_cases anyKey : key = .mixed
  · rw [anyKey] at found
    simp only [anyKey, if_true]
    exact ensures_pure ⟨GrowsTo.refl store, found⟩
  · simp only [anyKey, if_false]
    exact intern_ensures (.array .mixed value) store

theorem normalizeWithin_meets (standard : initial.GrowsTo store) (levels : Nat) {name : String}
    {key value id : TypeId} (meets : store.Meets name key value id) :
    Ensures (normalizeWithin hierarchy options (levels + 2) id) store (fun result later =>
      store.GrowsTo later ∧ later.Meets name .mixed value result) := by
  obtain ⟨instances, items, instancesFound, itemsFound, found⟩ := meets
  rw [normalizeWithin]
  apply ensures_get_bind
  rw [found]
  have members : Ensures
      ([instances, items].mapM (normalizeWithin hierarchy options (levels + 1))) store
      (fun ids later => store.GrowsTo later ∧ ∃ normalItems, ids = [instances, normalItems] ∧
        later.lookup normalItems = some (.iterable .mixed value)) := by
    have kept : Ensures (normalizeWithin hierarchy options (levels + 1) instances) store
        (fun result later => result = instances ∧ later = store) :=
      ensures_of_run (normalizeWithin_class hierarchy options levels instancesFound) ⟨rfl, rfl⟩
    apply ensures_mapM_pair kept
    rintro result middle ⟨rfl, rfl⟩
    apply (normalizeWithin_iterable hierarchy options levels itemsFound).weaken
    rintro normalItems later ⟨grows, normalFound⟩
    exact ⟨grows, normalItems, rfl, normalFound⟩
  apply ensures_bind members
  rintro ids middle ⟨grows, normalItems, rfl, normalFound⟩
  apply (meet_ensures (standard.trans grows) (grows instancesFound) normalFound).weaken
  rintro result later ⟨further, meets⟩
  exact ⟨grows.trans further, meets⟩

theorem normalizeWithin_form (standard : initial.GrowsTo store) (levels : Nat)
    {form : CollectionForm} {element id : TypeId} (written : form.Written store element id) :
    Ensures (normalizeWithin hierarchy options (levels + 2) id) store (fun result later =>
      store.GrowsTo later ∧
        (form.normal hierarchy options.collectionInterface).Written later element result) := by
  cases form with
  | iterable key => exact normalizeWithin_iterable hierarchy options (levels + 1) written
  | array key => exact normalizeWithin_array hierarchy options (levels + 1) written
  | bare name =>
      exact ensures_of_run (normalizeWithin_class hierarchy options (levels + 1) written)
        ⟨GrowsTo.refl store, written⟩
  | generic name leading =>
      have found : store.lookup id = some (.object name (leading ++ [element])) := written
      have last : (leading ++ [element]).getLast? = some element := List.getLast?_concat
      rw [normalizeWithin]
      apply ensures_get_bind
      simp only [found, last, CollectionForm.normal]
      by_cases derived : hierarchy.isSameOrDerived name options.collectionInterface = true
      · rw [if_pos derived, if_pos derived]
        exact collectionOf_ensures standard name element
      · rw [if_neg derived, if_neg derived]
        exact ensures_pure ⟨GrowsTo.refl store, found⟩
  | meet name key => exact normalizeWithin_meets hierarchy options standard levels written

/-- Null stays where it is. -/
theorem normalizeWithin_orNull (standard : initial.GrowsTo store) (levels : Nat)
    {form : CollectionForm} {element base id : TypeId} {nullable : Bool}
    (formWritten : form.Written store element base) (written : store.OrNull nullable base id) :
    Ensures (normalizeWithin hierarchy options (levels + 3) id) store (fun result later =>
      store.GrowsTo later ∧ ∃ normalBase,
        (form.normal hierarchy options.collectionInterface).Written later element normalBase ∧
        later.OrNull nullable normalBase result) := by
  cases nullable with
  | false =>
      have same : id = base := written
      rw [same]
      apply (normalizeWithin_form hierarchy options standard (levels + 1) formWritten).weaken
      rintro result later ⟨grows, normal⟩
      exact ⟨grows, result, normal, rfl⟩
  | true =>
      have found : store.lookup id = some (.union [base, .null]) := written
      rw [normalizeWithin]
      apply ensures_get_bind
      rw [found]
      have members : Ensures
          ([base, .null].mapM (normalizeWithin hierarchy options (levels + 2))) store
          (fun ids later => store.GrowsTo later ∧ ∃ normalBase, ids = [normalBase, .null] ∧
            (form.normal hierarchy options.collectionInterface).Written later element
              normalBase) := by
        apply ensures_mapM_pair
          (normalizeWithin_form hierarchy options standard levels formWritten)
        rintro normalBase middle ⟨grows, normal⟩
        exact ensures_of_run
          (normalizeWithin_null hierarchy options (standard.trans grows) (levels + 1))
          ⟨grows, normalBase, rfl, normal⟩
      apply ensures_bind members
      rintro ids middle ⟨grows, normalBase, rfl, normal⟩
      obtain ⟨shape, baseFound, plain⟩ := normal.plain
      apply (addNull_ensures (standard.trans grows) baseFound plain).weaken
      rintro result later ⟨further, nullWritten⟩
      exact ⟨grows.trans further, normalBase, normal.grow further, nullWritten⟩

end AssociationCheck
