/-
The order of consistent entries does not matter.

A run asks its hierarchy who derives from whom, what is an interface and what is final, and knows
nothing else of it. Hierarchies that answer alike therefore lead to one result, and so do entries
of the hierarchy that are consistent, in whatever order an input lists them.
-/

import AssociationCheck.Proofs.Analysis.Runs
import AssociationCheck.Proofs.Hierarchy.Order

namespace AssociationCheck

section Alike

variable {first second : Hierarchy} (alike : first.Alike second)
include alike

/-! ### The relation -/

namespace Subtype

theorem atomicRule_alike (ask : TypePair → Answer) (source target : Shape) :
    atomicRule first ask source target = atomicRule second ask source target := by
  cases source <;> cases target <;> try rfl
  case object.object =>
      simp only [atomicRule, objectRule, alike.isDerivedFrom, alike.mayShareInstances]
  case object.iterable =>
      simp only [atomicRule, objectToIterableRule, alike.isTraversable, alike.isFinal]
  case iterable.object =>
      simp only [atomicRule, iterableToObjectRule, alike.isTraversable, alike.isFinal]

theorem step_alike (store : TypeStore) (ask : TypePair → Answer) :
    step store first ask = step store second ask := by
  have shapes : shapeRule first ask = shapeRule second ask := by
    funext pair source target
    unfold shapeRule
    split
    · rfl
    · rfl
    · rfl
    · rfl
    · exact atomicRule_alike alike ask source target
  funext pair
  rw [step, step, shapes]

theorem within_alike (store : TypeStore) (levels : Nat) :
    within store first levels = within store second levels := by
  induction levels with
  | zero => rfl
  | succ levels ih =>
      funext pair
      rw [within, within, ih, step_alike alike]

end Subtype

theorem relate_alike (store : TypeStore) (source target : TypeId) :
    relate store first source target = relate store second source target := by
  rw [relate, relate, Subtype.fromLevel, Subtype.fromLevel, Subtype.within_alike alike]

/-! ### The check -/

theorem normalizeWithin_alike (options : CheckOptions) (levels : Nat) :
    normalizeWithin first options levels = normalizeWithin second options levels := by
  induction levels with
  | zero => rfl
  | succ levels ih =>
      funext declared
      simp only [normalizeWithin, ih, alike.isSameOrDerived]

theorem checkProperty_alike (options : CheckOptions) (entity : EntityClass)
    (property : DeclaredProperty) (written : TypeId) (association : Association) :
    checkProperty first options entity property written association =
      checkProperty second options entity property written association := by
  have compared : comparedType first options association written =
      comparedType second options association written := by
    simp only [comparedType, normalizeCollection, normalizeWithin_alike alike]
  funext store
  have firstRun := checkProperty_run first options entity property written association store
  have secondRun := checkProperty_run second options entity property written association store
  rw [compared] at firstRun
  simp only [databaseFits, propertyFits, isSubtype, relate_alike alike] at firstRun secondRun
  exact firstRun.trans secondRun.symm

theorem checkClass_alike (options : CheckOptions) (metadata : Option ClassMetadata)
    (entity : EntityClass) :
    checkClass first options metadata entity = checkClass second options metadata entity := by
  have each (metadata : ClassMetadata) (properties : List DeclaredProperty) :
      checkProperties first options metadata entity properties =
        checkProperties second options metadata entity properties := by
    induction properties with
    | nil => rfl
    | cons property others ih =>
        simp only [checkProperties, checkProperty_alike alike, ih]
  cases metadata with
  | none => rfl
  | some metadata => exact each metadata entity.properties

theorem checkClasses_alike {m : Type → Type} [Monad m] {ε : Type} (load : m (Except ε Snapshot))
    (options : CheckOptions) (classes : List EntityClass) (store : TypeStore)
    (resolver : Resolver) :
    checkClasses load first options classes store resolver =
      checkClasses load second options classes store resolver := by
  induction classes generalizing store resolver with
  | nil => rfl
  | cons entity others ih => simp only [checkClasses, checkClass_alike alike, ih]

end Alike

/-! ### Runs -/

/-- Where entries of the hierarchy are consistent, no parent is refused in any order of them, all
orders give the same answers about all classes, and a run finds the same. -/
theorem Hierarchy.Consistent.analyse_perm {entries order : List HierarchyEntry}
    (consistent : Consistent entries) (reordered : order.Perm entries) :
    standard.takesAll entries = true ∧ standard.takesAll order = true ∧
      (∀ name,
        (ofEntries order).contains name = (ofEntries entries).contains name ∧
        (ofEntries order).isInterface name = (ofEntries entries).isInterface name ∧
        (ofEntries order).isFinal name = (ofEntries entries).isFinal name) ∧
      (∀ name other,
        (ofEntries order).isDerivedFrom name other =
          (ofEntries entries).isDerivedFrom name other ∧
        (ofEntries order).mayShareInstances name other =
          (ofEntries entries).mayShareInstances name other) ∧
      ∀ {m : Type → Type} [Monad m] {ε : Type} (load : m (Except ε Snapshot))
        (options : CheckOptions) (classes : List InputClass) (resolver : Resolver),
        analyse load options ⟨classes, order⟩ resolver =
          analyse load options ⟨classes, entries⟩ resolver := by
  have alike := consistent.alike reordered
  obtain ⟨taken, _⟩ := consistent.ofEntries_edges
  obtain ⟨takenOther, _⟩ := (consistent.perm reordered).ofEntries_edges
  refine ⟨taken, takenOther, fun name => ?_, fun name other => ?_, ?_⟩
  · exact ⟨alike.contains name, alike.isInterface name, alike.isFinal name⟩
  · exact ⟨alike.isDerivedFrom name other, alike.mayShareInstances name other⟩
  · intro m _ ε load options classes resolver
    simp only [analyse, checkClasses_alike alike]

/-- A tray is declared before the bag that it is, and an iterator is declared anew. -/
def trayEntries : List HierarchyEntry :=
  [ { name := "Tray", parents := ["\\BAG", "Countable"], isFinal := true },
    { name := "Bag", parents := [Hierarchy.collection, "bag\\Base"], isInterface := true },
    { name := "\\iterator", parents := ["Traversable"] } ]

theorem analyse_perm_trays :
    let order := trayEntries.reverse
    Hierarchy.standard.takesAll order = true ∧
      (Hierarchy.ofEntries trayEntries).isDerivedFrom "tray" "\\Bag\\base" = true ∧
      (Hierarchy.ofEntries order).isDerivedFrom "tray" "\\Bag\\base" = true ∧
      analyse missingSnapshot {} ⟨shopInput.classes, order⟩ (.static shopResolver) =
        analyse missingSnapshot {} ⟨shopInput.classes, trayEntries⟩ (.static shopResolver) := by
  intro order
  -- Classes of one rank have names of one length, so the lengths are ranked.
  let lengths : List Nat := [11, 9, 8, 17, 46, 38, 43, 50, 33, 3, 4]
  have consistent : Hierarchy.Consistent trayEntries :=
    .of_rank (by decide +kernel) (fun key => lengths.idxOf key.length) (by decide +kernel)
      (by decide +kernel)
  obtain ⟨_, edges, exactly⟩ := consistent.ofEntries_edges
  have isBag : (Hierarchy.ofEntries trayEntries).Parent (.of "tray") (.of "bag") :=
    (edges ..).mpr (by decide +kernel)
  have isBase : (Hierarchy.ofEntries trayEntries).Parent (.of "bag") (.of "\\Bag\\base") :=
    (edges ..).mpr (by decide +kernel)
  have derived : (Hierarchy.ofEntries trayEntries).isDerivedFrom "tray" "\\Bag\\base" = true :=
    (exactly ..).mpr (.tail (.single isBag) isBase)
  obtain ⟨_, taken, _, derives, finds⟩ :=
    consistent.analyse_perm (List.reverse_perm trayEntries)
  exact ⟨taken, derived, (derives "tray" "\\Bag\\base").1.trans derived,
    finds missingSnapshot {} shopInput.classes _⟩

end AssociationCheck
