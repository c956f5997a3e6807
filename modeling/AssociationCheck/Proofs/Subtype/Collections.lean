/-
Definite answers on collections.

A class without arguments is never definitely below an iterable of a class, since nothing is known
of what its instances yield; an iterable is never definitely below a class or an array. So one
collection is definitely below another exactly when the classes are and the elements are.
-/

import AssociationCheck.Proofs.Subtype.Nullable
import AssociationCheck.Proofs.Types.Collections

namespace AssociationCheck.Subtype

open TypeStore

variable {hierarchy : Hierarchy} {store : TypeStore}
  {source target first second key value otherKey otherValue : TypeId}
  {sourceShape targetShape : Shape} {name otherName element otherElement : String}
  {arguments : List TypeId} {depth : Nat} {law otherLaw : Prop}

/-! ### Shapes that are never below each other -/

theorem neverBelow_of_shapes (standard : initial.GrowsTo store)
    (sourceFound : store.lookup source = some sourceShape)
    (targetFound : store.lookup target = some targetShape)
    (sourceAtomic : IsAtomic sourceShape) (targetAtomic : IsAtomic targetShape)
    (apart : sourceShape ≠ targetShape)
    (unreasoned : ∀ levels,
      ¬ DefiniteAtomic hierarchy (Below hierarchy store levels) sourceShape targetShape) :
    NeverBelow hierarchy store source target := by
  apply neverBelow_succ
  intro levels
  rw [below_atomic_iff standard levels sourceFound targetFound sourceAtomic targetAtomic]
  rintro (same | reason)
  · exact ne_of_lookup sourceFound targetFound apart same
  · exact unreasoned levels reason

theorem class_neverBelow_iterable (standard : initial.GrowsTo store)
    (sourceFound : store.lookup source = some (.object name []))
    (targetFound : store.lookup target = some (.iterable key value))
    (valueFound : store.lookup value = some (.object element [])) :
    NeverBelow hierarchy store source target := by
  apply neverBelow_of_shapes standard sourceFound targetFound (isAtomic_object _ _)
    (isAtomic_iterable _ _) (by simp)
  intro levels reason
  cases reason with
  | objectToIterable _ _ values =>
      exact mixed_neverBelow standard valueFound (by simp) levels values

theorem iterable_neverBelow_class (standard : initial.GrowsTo store)
    (sourceFound : store.lookup source = some (.iterable key value))
    (targetFound : store.lookup target = some (.object name arguments)) :
    NeverBelow hierarchy store source target := by
  apply neverBelow_of_shapes standard sourceFound targetFound (isAtomic_iterable _ _)
    (isAtomic_object _ _) (by simp)
  intro levels reason
  cases reason

theorem iterable_neverBelow_array (standard : initial.GrowsTo store)
    (sourceFound : store.lookup source = some (.iterable key value))
    (targetFound : store.lookup target = some (.array otherKey otherValue)) :
    NeverBelow hierarchy store source target := by
  apply neverBelow_of_shapes standard sourceFound targetFound (isAtomic_iterable _ _)
    (isAtomic_array _ _) (by simp)
  intro levels reason
  cases reason

theorem class_neverBelow_array (standard : initial.GrowsTo store)
    (sourceFound : store.lookup source = some (.object name arguments))
    (targetFound : store.lookup target = some (.array key value)) :
    NeverBelow hierarchy store source target := by
  apply neverBelow_of_shapes standard sourceFound targetFound (isAtomic_object _ _)
    (isAtomic_array _ _) (by simp)
  intro levels reason
  cases reason

theorem array_neverBelow_class (standard : initial.GrowsTo store)
    (sourceFound : store.lookup source = some (.array key value))
    (targetFound : store.lookup target = some (.object name arguments)) :
    NeverBelow hierarchy store source target := by
  apply neverBelow_of_shapes standard sourceFound targetFound (isAtomic_array _ _)
    (isAtomic_object _ _) (by simp)
  intro levels reason
  cases reason

theorem class_neverBelow_unrelated (standard : initial.GrowsTo store)
    (sourceFound : store.lookup source = some (.object name arguments))
    (targetFound : store.lookup target = some (.object otherName []))
    (unrelated : hierarchy.isSameOrDerived name otherName = false) :
    NeverBelow hierarchy store source target := by
  have settles := settles_class hierarchy standard sourceFound targetFound
  intro levels
  cases levels with
  | zero => exact not_below_zero _ _ _ _
  | succ levels =>
      rw [settles (levels + 1) (by omega), unrelated]
      exact Bool.false_ne_true

/-- What a class without arguments yields is not known to fit the arguments of another class. -/
theorem class_neverBelow_generic (standard : initial.GrowsTo store)
    (sourceFound : store.lookup source = some (.object name []))
    (targetFound : store.lookup target = some (.object otherName arguments))
    (given : arguments ≠ []) (apart : sameClass name otherName = false) :
    NeverBelow hierarchy store source target := by
  apply neverBelow_of_shapes standard sourceFound targetFound (isAtomic_object _ _)
    (isAtomic_object _ _) (by simp [Ne.symm given])
  intro levels reason
  cases reason with
  | object _ comparable _ =>
      rcases comparable with same | bare | equallyMany
      · rw [apart] at same
        cases same
      · exact given bare
      · exact given (List.length_eq_zero_iff.mp equallyMany.symm)

/-! ### Intersections -/

theorem below_intersection_iff (standard : initial.GrowsTo store) (levels : Nat)
    (sourceFound : store.lookup source = some sourceShape) (plain : sourceShape.isPlain = true)
    (targetFound : store.lookup target = some (.intersection [first, second]))
    (apart : source ≠ target) :
    Below hierarchy store (levels + 1) source target ↔
      Below hierarchy store levels source first ∧ Below hierarchy store levels source second := by
  rw [below_iff_of_lookup standard levels sourceFound targetFound
    (by rintro kind rfl; cases plain) (by simp), or_iff_right apart]
  constructor
  · intro reason
    cases reason with
    | unionSource => cases plain
    | intersectionTarget _ each => exact ⟨each first (by simp), each second (by simp)⟩
    | intersectionSource whole _ _ => cases whole
    | atomic reason => cases reason
  · rintro ⟨belowFirst, belowSecond⟩
    refine .intersectionTarget (unionMembers?_of_isPlain plain) ?_
    intro member present
    rcases List.mem_cons.mp present with rfl | isSecond
    · exact belowFirst
    · rw [List.mem_singleton.mp isSecond]
      exact belowSecond

theorem below_of_intersection_iff (standard : initial.GrowsTo store) (levels : Nat)
    (sourceFound : store.lookup source = some (.intersection [first, second]))
    (targetFound : store.lookup target = some targetShape) (atomic : IsAtomic targetShape) :
    Below hierarchy store (levels + 1) source target ↔
      Below hierarchy store levels first target ∨ Below hierarchy store levels second target := by
  have apart : source ≠ target := by
    apply ne_of_lookup sourceFound targetFound
    rintro rfl
    cases atomic.2
  rw [below_iff_of_lookup standard levels sourceFound targetFound (by simp) atomic.composed,
    or_iff_right apart]
  constructor
  · intro reason
    cases reason with
    | unionTarget => cases atomic.2
    | intersectionTarget => cases atomic.2
    | intersectionSource _ present relates =>
        rcases List.mem_cons.mp present with rfl | isSecond
        · exact Or.inl relates
        · rw [List.mem_singleton.mp isSecond] at relates
          exact Or.inr relates
    | atomic reason => cases reason
  · rintro (belowFirst | belowSecond)
    · exact .intersectionSource atomic.2 List.mem_cons_self belowFirst
    · exact .intersectionSource atomic.2 (by simp) belowSecond

theorem settles_intersection (standard : initial.GrowsTo store)
    (sourceFound : store.lookup source = some sourceShape) (plain : sourceShape.isPlain = true)
    (targetFound : store.lookup target = some (.intersection [first, second]))
    (settlesFirst : Settles hierarchy store depth source first law)
    (settlesSecond : Settles hierarchy store depth source second otherLaw)
    (atSame : source = target → law ∧ otherLaw) :
    Settles hierarchy store (depth + 1) source target (law ∧ otherLaw) := by
  refine settles_succ (fun levels enough => ?_)
  by_cases same : source = target
  · rw [same]
    exact iff_of_true (below_refl levels target) (atSame same)
  · rw [below_intersection_iff standard levels sourceFound plain targetFound same,
      settlesFirst levels enough, settlesSecond levels enough]

theorem settles_of_intersection (standard : initial.GrowsTo store)
    (sourceFound : store.lookup source = some (.intersection [first, second]))
    (targetFound : store.lookup target = some targetShape) (atomic : IsAtomic targetShape)
    (settlesFirst : Settles hierarchy store depth first target law)
    (settlesSecond : Settles hierarchy store depth second target otherLaw) :
    Settles hierarchy store (depth + 1) source target (law ∨ otherLaw) := by
  refine settles_succ (fun levels enough => ?_)
  rw [below_of_intersection_iff standard levels sourceFound targetFound atomic,
    settlesFirst levels enough, settlesSecond levels enough]

theorem neverBelow_intersection (standard : initial.GrowsTo store)
    (sourceFound : store.lookup source = some sourceShape) (atomic : IsAtomic sourceShape)
    (targetFound : store.lookup target = some (.intersection [first, second]))
    (never : NeverBelow hierarchy store source first ∨ NeverBelow hierarchy store source second) :
    NeverBelow hierarchy store source target := by
  have apart : source ≠ target := by
    apply ne_of_lookup sourceFound targetFound
    rintro rfl
    cases atomic.2
  apply neverBelow_succ
  intro levels
  rw [below_intersection_iff standard levels sourceFound atomic.1 targetFound apart]
  rintro ⟨belowFirst, belowSecond⟩
  rcases never with never | never
  · exact never levels belowFirst
  · exact never levels belowSecond

theorem neverBelow_of_intersection (standard : initial.GrowsTo store)
    (sourceFound : store.lookup source = some (.intersection [first, second]))
    (targetFound : store.lookup target = some targetShape) (atomic : IsAtomic targetShape)
    (neverFirst : NeverBelow hierarchy store first target)
    (neverSecond : NeverBelow hierarchy store second target) :
    NeverBelow hierarchy store source target := by
  apply neverBelow_succ
  intro levels
  rw [below_of_intersection_iff standard levels sourceFound targetFound atomic]
  rintro (belowFirst | belowSecond)
  · exact neverFirst levels belowFirst
  · exact neverSecond levels belowSecond

/-! ### Collections -/

theorem settles_iterable (hierarchy : Hierarchy) (standard : initial.GrowsTo store)
    (sourceFound : store.lookup source = some (.iterable .mixed value))
    (targetFound : store.lookup target = some (.iterable .mixed otherValue))
    (valueFound : store.lookup value = some (.object element []))
    (otherFound : store.lookup otherValue = some (.object otherElement [])) :
    Settles hierarchy store 2 source target
      (hierarchy.isSameOrDerived element otherElement = true) := by
  refine settles_succ (fun levels enough => ?_)
  have values := settles_class hierarchy standard valueFound otherFound levels enough
  obtain ⟨below, rfl⟩ : ∃ below, levels = below + 1 := ⟨levels - 1, by omega⟩
  rw [below_atomic_iff standard (below + 1) sourceFound targetFound (isAtomic_iterable _ _)
    (isAtomic_iterable _ _), ← values]
  constructor
  · rintro (same | reason)
    · rw [same] at sourceFound
      cases lookup_unique sourceFound targetFound
      exact below_refl below value
    · cases reason with
      | iterableToIterable _ belowValue => exact belowValue
  · exact fun belowValue => Or.inr (.iterableToIterable (below_refl below .mixed) belowValue)

theorem settles_meets_class (hierarchy : Hierarchy) (standard : initial.GrowsTo store)
    (meets : store.Meets name key value source)
    (targetFound : store.lookup target = some (.object otherName [])) :
    Settles hierarchy store 2 source target
      (hierarchy.isSameOrDerived name otherName = true) := by
  obtain ⟨instances, items, instancesFound, itemsFound, found⟩ := meets
  have settles := settles_of_intersection standard found targetFound (isAtomic_object _ _)
    (settles_class hierarchy standard instancesFound targetFound)
    (iterable_neverBelow_class standard itemsFound targetFound).settles
  simpa using settles

theorem settles_meets_iterable (hierarchy : Hierarchy) (standard : initial.GrowsTo store)
    (meets : store.Meets name .mixed value source)
    (targetFound : store.lookup target = some (.iterable .mixed otherValue))
    (valueFound : store.lookup value = some (.object element []))
    (otherFound : store.lookup otherValue = some (.object otherElement [])) :
    Settles hierarchy store 3 source target
      (hierarchy.isSameOrDerived element otherElement = true) := by
  obtain ⟨instances, items, instancesFound, itemsFound, found⟩ := meets
  have settles := settles_of_intersection standard found targetFound (isAtomic_iterable _ _)
    (class_neverBelow_iterable standard instancesFound targetFound otherFound).settles
    (settles_iterable hierarchy standard itemsFound targetFound valueFound otherFound)
  simpa using settles

/-- A collection is below another one when the classes are and the elements are. -/
theorem settles_meets (hierarchy : Hierarchy) (standard : initial.GrowsTo store)
    (meets : store.Meets name .mixed value source)
    (otherMeets : store.Meets otherName .mixed otherValue target)
    (valueFound : store.lookup value = some (.object element []))
    (otherFound : store.lookup otherValue = some (.object otherElement [])) :
    Settles hierarchy store 4 source target
      (hierarchy.isSameOrDerived name otherName = true ∧
        hierarchy.isSameOrDerived element otherElement = true) := by
  obtain ⟨otherInstances, otherItems, otherInstancesFound, otherItemsFound, targetFound⟩ :=
    otherMeets
  have instancesSettle :=
    (settles_meets_class hierarchy standard meets otherInstancesFound).deeper (by decide : 2 ≤ 3)
  have itemsSettle :=
    settles_meets_iterable hierarchy standard meets otherItemsFound valueFound otherFound
  obtain ⟨instances, items, instancesFound, itemsFound, found⟩ := meets
  refine settles_intersection standard found rfl targetFound instancesSettle itemsSettle ?_
  -- One type on both sides is a yes without a look at its members.
  intro same
  rw [same] at found
  cases lookup_unique found targetFound
  cases lookup_unique instancesFound otherInstancesFound
  cases lookup_unique itemsFound otherItemsFound
  cases lookup_unique valueFound otherFound
  exact ⟨Hierarchy.isSameOrDerived_refl _, Hierarchy.isSameOrDerived_refl _⟩

theorem meets_neverBelow_array (standard : initial.GrowsTo store)
    (meets : store.Meets name key value source)
    (targetFound : store.lookup target = some (.array otherKey otherValue)) :
    NeverBelow hierarchy store source target := by
  obtain ⟨instances, items, instancesFound, itemsFound, found⟩ := meets
  exact neverBelow_of_intersection standard found targetFound (isAtomic_array _ _)
    (class_neverBelow_array standard instancesFound targetFound)
    (iterable_neverBelow_array standard itemsFound targetFound)

theorem meets_neverBelow_generic (standard : initial.GrowsTo store)
    (meets : store.Meets name key value source)
    (targetFound : store.lookup target = some (.object otherName arguments))
    (given : arguments ≠ []) (apart : sameClass name otherName = false) :
    NeverBelow hierarchy store source target := by
  obtain ⟨instances, items, instancesFound, itemsFound, found⟩ := meets
  exact neverBelow_of_intersection standard found targetFound (isAtomic_object _ _)
    (class_neverBelow_generic standard instancesFound targetFound given apart)
    (iterable_neverBelow_class standard itemsFound targetFound)

theorem meets_neverBelow_null (standard : initial.GrowsTo store)
    (meets : store.Meets name key value source) : NeverBelow hierarchy store source .null := by
  obtain ⟨instances, items, instancesFound, itemsFound, found⟩ := meets
  apply neverBelow_null standard found rfl
  rintro ids same id present
  cases same
  rcases List.mem_cons.mp present with rfl | isItems
  · exact class_neverBelow_null standard instancesFound
  · rw [List.mem_singleton.mp isItems]
    exact neverBelow_null standard itemsFound rfl (by simp)

theorem null_neverBelow_meets (standard : initial.GrowsTo store)
    (meets : store.Meets name key value target) : NeverBelow hierarchy store .null target := by
  obtain ⟨instances, items, instancesFound, itemsFound, found⟩ := meets
  apply null_neverBelow standard found rfl
  rintro ids same
  cases same
  exact ⟨instances, List.mem_cons_self, null_neverBelow_class standard instancesFound⟩

end AssociationCheck.Subtype
