/-
The relation on trees.

What a definite yes says of two types depends on their trees alone, so it is stated for trees,
without a store and without a limit. In a canonical store the relation of types answers yes with
enough levels exactly where their trees fit. How unions and intersections of trees fit is then
read off their members.
-/

import AssociationCheck.Proofs.Subtype.Levels
import AssociationCheck.Proofs.Subtype.Soundness
import AssociationCheck.Proofs.Types.Joining

namespace AssociationCheck

namespace TypeTree

/-! ### Fitting -/

def iteratedTypes (arguments : List TypeTree) : TypeTree × TypeTree :=
  match arguments.reverse with
  | [] => (.scalar .mixed, .scalar .mixed)
  | [value] => (.scalar .mixed, value)
  | value :: key :: _ => (key, value)

/-- Type arguments by position; one that the source does not give is `mixed`. -/
def argumentPairs : List TypeTree → List TypeTree → List (TypeTree × TypeTree)
  | _, [] => []
  | [], target :: targets => (.scalar .mixed, target) :: argumentPairs [] targets
  | source :: sources, target :: targets => (source, target) :: argumentPairs sources targets

def Undivided (tree : TypeTree) : Prop :=
  tree.unionMembers = [tree] ∧ tree.intersectionMembers = [tree]

/-- Every value of the source is definitely a value of the target. -/
inductive Fits (hierarchy : Hierarchy) : TypeTree → TypeTree → Prop
  | refl (tree : TypeTree) : Fits hierarchy tree tree
  | top (source : TypeTree) : Fits hierarchy source (.scalar .mixed)
  | bottom (target : TypeTree) : Fits hierarchy (.scalar .never) target
  | unionSource {members : List TypeTree} {target : TypeTree} (proper : target ≠ .scalar .never)
      (each : ∀ member ∈ members, Fits hierarchy member target) :
      Fits hierarchy (.union members) target
  | unionTarget {source member : TypeTree} {members : List TypeTree}
      (proper : source ≠ .scalar .mixed) (whole : source.unionMembers = [source])
      (present : member ∈ members) (accepts : Fits hierarchy source member) :
      Fits hierarchy source (.union members)
  | intersectionTarget {source : TypeTree} {members : List TypeTree}
      (proper : source ≠ .scalar .mixed) (whole : source.unionMembers = [source])
      (each : ∀ member ∈ members, Fits hierarchy source member) :
      Fits hierarchy source (.intersection members)
  | intersectionSource {member target : TypeTree} {members : List TypeTree}
      (proper : target ≠ .scalar .never) (undivided : target.Undivided)
      (present : member ∈ members) (relates : Fits hierarchy member target) :
      Fits hierarchy (.intersection members) target
  | object {source target : String} {sources targets : List TypeTree}
      (derived : hierarchy.isSameOrDerived source target = true)
      (comparable : sameClass source target = true ∨ targets = [] ∨
        sources.length = targets.length)
      (covariant : ∀ pair ∈ argumentPairs sources targets, Fits hierarchy pair.1 pair.2) :
      Fits hierarchy (.object source sources) (.object target targets)
  | objectToIterable {source : String} {arguments : List TypeTree} {key value : TypeTree}
      (iterates : hierarchy.isTraversable source = true)
      (keys : Fits hierarchy (iteratedTypes arguments).1 key)
      (values : Fits hierarchy (iteratedTypes arguments).2 value) :
      Fits hierarchy (.object source arguments) (.iterable key value)
  | iterableToIterable {sourceKey sourceValue key value : TypeTree}
      (keys : Fits hierarchy sourceKey key) (values : Fits hierarchy sourceValue value) :
      Fits hierarchy (.iterable sourceKey sourceValue) (.iterable key value)
  | arrayToIterable {sourceKey sourceValue key value : TypeTree}
      (keys : Fits hierarchy sourceKey key) (values : Fits hierarchy sourceValue value) :
      Fits hierarchy (.array sourceKey sourceValue) (.iterable key value)
  | arrayToArray {sourceKey sourceValue key value : TypeTree}
      (keys : Fits hierarchy sourceKey key) (values : Fits hierarchy sourceValue value) :
      Fits hierarchy (.array sourceKey sourceValue) (.array key value)

variable {hierarchy further : Hierarchy} {source target tree : TypeTree}
  {members trees : List TypeTree}

/-- What fits in a hierarchy fits in one that knows more. -/
theorem Fits.mono (fits : Fits hierarchy source target)
    (learns : ∀ child ancestor, hierarchy.isSameOrDerived child ancestor = true →
      further.isSameOrDerived child ancestor = true) : Fits further source target := by
  induction fits with
  | refl tree => exact .refl tree
  | top source => exact .top source
  | bottom target => exact .bottom target
  | unionSource proper _ ih => exact .unionSource proper ih
  | unionTarget proper whole present _ ih => exact .unionTarget proper whole present ih
  | intersectionTarget proper whole _ ih => exact .intersectionTarget proper whole ih
  | intersectionSource proper undivided present _ ih =>
      exact .intersectionSource proper undivided present ih
  | object derived comparable _ ih => exact .object (learns _ _ derived) comparable ih
  | objectToIterable iterates _ _ keys values =>
      exact .objectToIterable (learns _ _ iterates) keys values
  | iterableToIterable _ _ keys values => exact .iterableToIterable keys values
  | arrayToIterable _ _ keys values => exact .arrayToIterable keys values
  | arrayToArray _ _ keys values => exact .arrayToArray keys values

theorem ne_union_of_whole (whole : tree.unionMembers = [tree]) (members : List TypeTree) :
    tree ≠ .union members := by
  intro isUnion
  rw [isUnion] at whole
  have size : sizeOf members = sizeOf [union members] := congrArg sizeOf whole
  simp at size
  omega

theorem ne_intersection_of_whole (whole : tree.intersectionMembers = [tree])
    (members : List TypeTree) : tree ≠ .intersection members := by
  intro isIntersection
  rw [isIntersection] at whole
  have size : sizeOf members = sizeOf [intersection members] := congrArg sizeOf whole
  simp at size
  omega

end TypeTree

/-! ### Types of a store -/

namespace Subtype

open TypeStore

variable {hierarchy : Hierarchy} {store : TypeStore} {source target : TypeId}
  {sourceShape targetShape : Shape}

theorem map_argumentPairs (canonical : store.Canonical) (sources targets : List TypeId) :
    TypeTree.argumentPairs (sources.map store.tree) (targets.map store.tree) =
      (argumentPairs sources targets).map (Prod.map store.tree store.tree) := by
  induction targets generalizing sources with
  | nil => simp [argumentPairs, TypeTree.argumentPairs]
  | cons target targets ih =>
      cases sources with
      | nil =>
          have rest := ih []
          have mixed : store.tree .mixed = .scalar .mixed := canonical.tree_scalar .mixed
          simp only [List.map_nil] at rest
          simp [argumentPairs, TypeTree.argumentPairs, rest, mixed]
      | cons source sources => simp [argumentPairs, TypeTree.argumentPairs, ih]

theorem map_iteratedTypes (canonical : store.Canonical) (arguments : List TypeId) :
    TypeTree.iteratedTypes (arguments.map store.tree) =
      (store.tree (iteratedTypes arguments).1, store.tree (iteratedTypes arguments).2) := by
  have mixed : store.tree .mixed = .scalar .mixed := canonical.tree_scalar .mixed
  unfold TypeTree.iteratedTypes iteratedTypes
  rw [← List.map_reverse]
  cases arguments.reverse with
  | nil => simp [mixed]
  | cons value others => cases others <;> simp [mixed]

theorem undivided_of_members? (canonical : store.Canonical)
    (targetFound : store.lookup target = some targetShape) (whole : targetShape.members? = none) :
    (store.tree target).Undivided := by
  rw [canonical.tree_of_lookup targetFound]
  cases targetShape <;> first | exact ⟨rfl, rfl⟩ | cases whole

/-! ### From answers to trees -/

section

variable {below : TypeId → TypeId → Prop}
  (treesFit : ∀ lower upper, store.Contains lower → store.Contains upper → below lower upper →
    (store.tree lower).Fits hierarchy (store.tree upper))
  (canonical : store.Canonical) (sourceFound : store.lookup source = some sourceShape)
  (targetFound : store.lookup target = some targetShape)

include treesFit canonical sourceFound targetFound

theorem DefiniteAtomic.fits (reason : DefiniteAtomic hierarchy below sourceShape targetShape) :
    (store.tree source).Fits hierarchy (store.tree target) := by
  have sourcePart : ∀ part ∈ sourceShape.parts, store.Contains part :=
    fun part present => canonical.contains_part sourceFound present
  have targetPart : ∀ part ∈ targetShape.parts, store.Contains part :=
    fun part present => canonical.contains_part targetFound present
  have mixedKnown : store.Contains .mixed := contains_scalar canonical.standard .mixed
  have entries {sourceKey sourceValue key value : TypeId}
      (sourceParts : sourceShape.parts = [sourceKey, sourceValue])
      (targetParts : targetShape.parts = [key, value]) (keys : below sourceKey key)
      (values : below sourceValue value) :
      (store.tree sourceKey).Fits hierarchy (store.tree key) ∧
        (store.tree sourceValue).Fits hierarchy (store.tree value) := by
    constructor
    · exact treesFit _ _ (sourcePart _ (by simp [sourceParts]))
        (targetPart _ (by simp [targetParts])) keys
    · exact treesFit _ _ (sourcePart _ (by simp [sourceParts]))
        (targetPart _ (by simp [targetParts])) values
  rw [canonical.tree_of_lookup sourceFound, canonical.tree_of_lookup targetFound]
  cases reason with
  | object derived comparable covariant =>
      refine .object derived (by simpa using comparable) ?_
      rw [map_argumentPairs canonical]
      intro pair present
      obtain ⟨ids, among, rfl⟩ := List.mem_map.mp present
      obtain ⟨inSources, inTargets⟩ := mem_of_mem_argumentPairs among
      refine treesFit _ _ ?_ (targetPart _ inTargets) (covariant ids among)
      rcases inSources with isMixed | inSources
      · exact isMixed ▸ mixedKnown
      · exact sourcePart _ inSources
  | objectToIterable iterates keys values =>
      rename_i arguments key value
      obtain ⟨keyAmong, valueAmong⟩ := iteratedTypes_cases arguments
      have known {part : TypeId} (among : part = .mixed ∨ part ∈ arguments) :
          store.Contains part := by
        rcases among with rfl | among
        · exact mixedKnown
        · exact sourcePart part among
      refine .objectToIterable iterates ?_ ?_
      · rw [map_iteratedTypes canonical]
        exact treesFit _ _ (known keyAmong) (targetPart key (by simp [Shape.parts])) keys
      · rw [map_iteratedTypes canonical]
        exact treesFit _ _ (known valueAmong) (targetPart value (by simp [Shape.parts])) values
  | iterableToIterable keys values =>
      obtain ⟨keys, values⟩ := entries rfl rfl keys values
      exact .iterableToIterable keys values
  | arrayToIterable keys values =>
      obtain ⟨keys, values⟩ := entries rfl rfl keys values
      exact .arrayToIterable keys values
  | arrayToArray keys values =>
      obtain ⟨keys, values⟩ := entries rfl rfl keys values
      exact .arrayToArray keys values

theorem Definite.fits (notBottom : target ≠ .never) (notTop : source ≠ .mixed)
    (reason : Definite hierarchy below source target sourceShape targetShape) :
    (store.tree source).Fits hierarchy (store.tree target) := by
  have sourceKnown : store.Contains source := contains_of_lookup sourceFound
  have targetKnown : store.Contains target := contains_of_lookup targetFound
  have sourcePart : ∀ part ∈ sourceShape.parts, store.Contains part :=
    fun part present => canonical.contains_part sourceFound present
  have targetPart : ∀ part ∈ targetShape.parts, store.Contains part :=
    fun part present => canonical.contains_part targetFound present
  have properTarget : store.tree target ≠ .scalar .never :=
    mt (canonical.tree_eq_scalar_iff targetKnown).mp notBottom
  have properSource : store.tree source ≠ .scalar .mixed :=
    mt (canonical.tree_eq_scalar_iff sourceKnown).mp notTop
  have sourceTree := canonical.tree_of_lookup sourceFound
  have targetTree := canonical.tree_of_lookup targetFound
  cases reason with
  | unionSource each =>
      rw [sourceTree]
      refine .unionSource properTarget (List.forall_mem_map.mpr fun member present => ?_)
      exact treesFit _ _ (sourcePart member present) targetKnown (each member present)
  | unionTarget whole present accepts =>
      have wholeTree := canonical.unionMembers_of_whole sourceKnown (by simpa [sourceFound])
      rw [targetTree]
      exact .unionTarget properSource wholeTree (List.mem_map_of_mem present)
        (treesFit _ _ sourceKnown (targetPart _ present) accepts)
  | intersectionTarget whole each =>
      have wholeTree := canonical.unionMembers_of_whole sourceKnown (by simpa [sourceFound])
      rw [targetTree]
      refine .intersectionTarget properSource wholeTree
        (List.forall_mem_map.mpr fun member present => ?_)
      exact treesFit _ _ sourceKnown (targetPart member present) (each member present)
  | intersectionSource whole present relates =>
      have undivided := undivided_of_members? canonical targetFound whole
      rw [sourceTree]
      exact .intersectionSource properTarget undivided (List.mem_map_of_mem present)
        (treesFit _ _ (sourcePart _ present) targetKnown relates)
  | atomic reason => exact reason.fits treesFit canonical sourceFound targetFound

end

theorem Below.fits (canonical : store.Canonical) {levels : Nat}
    (sourceKnown : store.Contains source) (targetKnown : store.Contains target)
    (yes : Below hierarchy store levels source target) :
    (store.tree source).Fits hierarchy (store.tree target) := by
  induction levels generalizing source target with
  | zero => exact absurd yes (not_below_zero _ _ _ _)
  | succ levels ih =>
      rcases (below_succ_iff ..).mp yes with
        (rfl | rfl | rfl) | ⟨notBottom, notTop, _, _, sourceFound, targetFound, reason⟩
      · exact .refl _
      · rw [show store.tree .mixed = .scalar .mixed from canonical.tree_scalar .mixed]
        exact .top _
      · rw [show store.tree .never = .scalar .never from canonical.tree_scalar .never]
        exact .bottom _
      · exact reason.fits (fun lower upper lowerKnown upperKnown => ih lowerKnown upperKnown)
          canonical sourceFound targetFound notBottom notTop

/-! ### From trees to answers -/

section Shapes

variable {id : TypeId} {key value : TypeTree} {parts : List TypeTree}
  (canonical : store.Canonical) (known : store.Contains id)
include canonical known

theorem exists_object {name : String} (isTree : store.tree id = .object name parts) :
    ∃ ids, store.lookup id = some (.object name ids) ∧ ids.map store.tree = parts := by
  obtain ⟨shape, found⟩ := exists_lookup known
  rw [canonical.tree_of_lookup found] at isTree
  cases shape <;> cases isTree
  exact ⟨_, found, rfl⟩

theorem exists_iterable (isTree : store.tree id = .iterable key value) :
    ∃ keyId valueId, store.lookup id = some (.iterable keyId valueId) ∧
      store.tree keyId = key ∧ store.tree valueId = value := by
  obtain ⟨shape, found⟩ := exists_lookup known
  rw [canonical.tree_of_lookup found] at isTree
  cases shape <;> cases isTree
  exact ⟨_, _, found, rfl, rfl⟩

theorem exists_array (isTree : store.tree id = .array key value) :
    ∃ keyId valueId, store.lookup id = some (.array keyId valueId) ∧
      store.tree keyId = key ∧ store.tree valueId = value := by
  obtain ⟨shape, found⟩ := exists_lookup known
  rw [canonical.tree_of_lookup found] at isTree
  cases shape <;> cases isTree
  exact ⟨_, _, found, rfl, rfl⟩

theorem exists_union (isTree : store.tree id = .union parts) :
    ∃ ids, store.lookup id = some (.union ids) ∧ ids.map store.tree = parts := by
  obtain ⟨shape, found⟩ := exists_lookup known
  rw [canonical.tree_of_lookup found] at isTree
  cases shape <;> cases isTree
  exact ⟨_, found, rfl⟩

theorem exists_intersection (isTree : store.tree id = .intersection parts) :
    ∃ ids, store.lookup id = some (.intersection ids) ∧ ids.map store.tree = parts := by
  obtain ⟨shape, found⟩ := exists_lookup known
  rw [canonical.tree_of_lookup found] at isTree
  cases shape <;> cases isTree
  exact ⟨_, found, rfl⟩

end Shapes

/-- Some pairs, each of which needs some levels, need a number of levels together. -/
theorem exists_levels {pairs : List TypePair}
    (each : ∀ pair ∈ pairs, ∃ levels, Below hierarchy store levels pair.1 pair.2) :
    ∃ levels, ∀ pair ∈ pairs, Below hierarchy store levels pair.1 pair.2 := by
  induction pairs with
  | nil => exact ⟨0, fun _ absent => absurd absent List.not_mem_nil⟩
  | cons pair others ih =>
      obtain ⟨first, here⟩ := each pair List.mem_cons_self
      obtain ⟨rest, later⟩ := ih (fun other present => each other (List.mem_cons_of_mem _ present))
      refine ⟨first + rest, fun other present => ?_⟩
      rcases List.mem_cons.mp present with rfl | among
      · exact here.deeper (Nat.le_add_right ..)
      · exact (later other among).deeper (Nat.le_add_left ..)

theorem exists_levels_both {first second third fourth : TypeId}
    (lower : ∃ levels, Below hierarchy store levels first second)
    (upper : ∃ levels, Below hierarchy store levels third fourth) :
    ∃ levels, Below hierarchy store levels first second ∧
      Below hierarchy store levels third fourth := by
  have both : ∀ pair ∈ [(first, second), (third, fourth)],
      ∃ levels, Below hierarchy store levels pair.1 pair.2 := by simp [lower, upper]
  obtain ⟨levels, each⟩ := exists_levels both
  exact ⟨levels, each (first, second) (by simp), each (third, fourth) (by simp)⟩

theorem unionMembers?_of_whole (canonical : store.Canonical)
    (sourceFound : store.lookup source = some sourceShape)
    (whole : (store.tree source).unionMembers = [store.tree source]) :
    sourceShape.unionMembers? = none := by
  rw [canonical.tree_of_lookup sourceFound] at whole
  cases sourceShape with
  | union ids => exact absurd rfl (TypeTree.ne_union_of_whole whole _)
  | _ => rfl

theorem members?_of_undivided (canonical : store.Canonical)
    (targetFound : store.lookup target = some targetShape)
    (undivided : (store.tree target).Undivided) : targetShape.members? = none := by
  rw [canonical.tree_of_lookup targetFound] at undivided
  cases targetShape with
  | union ids => exact absurd rfl (TypeTree.ne_union_of_whole undivided.1 _)
  | intersection ids => exact absurd rfl (TypeTree.ne_intersection_of_whole undivided.2 _)
  | _ => rfl

theorem exists_below_of_definite (canonical : store.Canonical)
    (sourceFound : store.lookup source = some sourceShape)
    (targetFound : store.lookup target = some targetShape)
    (notTop : store.tree source ≠ .scalar .mixed) (notBottom : store.tree target ≠ .scalar .never)
    {levels : Nat} (reason : Definite hierarchy (Below hierarchy store levels) source target
      sourceShape targetShape) :
    ∃ levels, Below hierarchy store levels source target := by
  have sourceKnown : store.Contains source := contains_of_lookup sourceFound
  have targetKnown : store.Contains target := contains_of_lookup targetFound
  refine ⟨levels + 1, (below_succ_iff ..).mpr (.inr ⟨?_, ?_, _, _, sourceFound, targetFound,
    reason⟩)⟩
  · exact fun isNever => notBottom ((canonical.tree_eq_scalar_iff targetKnown).mpr isNever)
  · exact fun isMixed => notTop ((canonical.tree_eq_scalar_iff sourceKnown).mpr isMixed)

/-! ### Enough levels -/

/-- Some number of levels says yes to every two types with these trees. -/
def EventuallyBelow (hierarchy : Hierarchy) (store : TypeStore) (lower upper : TypeTree) : Prop :=
  ∀ source target, store.Contains source → store.Contains target →
    store.tree source = lower → store.tree target = upper →
      ∃ levels, Below hierarchy store levels source target

namespace EventuallyBelow

variable {lower upper sourceKey sourceValue key value : TypeTree} {members : List TypeTree}
  (canonical : store.Canonical)
include canonical

theorem refl (tree : TypeTree) : EventuallyBelow hierarchy store tree tree := by
  intro source target sourceKnown targetKnown isSource isTarget
  have same := canonical.eq_of_tree_eq sourceKnown targetKnown (isSource.trans isTarget.symm)
  exact ⟨1, (below_succ_iff ..).mpr (.inl (.inl same))⟩

theorem top (lower : TypeTree) : EventuallyBelow hierarchy store lower (.scalar .mixed) := by
  intro source target _ targetKnown _ isTarget
  have isMixed : target = .mixed := (canonical.tree_eq_scalar_iff targetKnown).mp isTarget
  exact ⟨1, (below_succ_iff ..).mpr (.inl (.inr (.inl isMixed)))⟩

theorem bottom (upper : TypeTree) : EventuallyBelow hierarchy store (.scalar .never) upper := by
  intro source target sourceKnown _ isSource _
  have isNever : source = .never := (canonical.tree_eq_scalar_iff sourceKnown).mp isSource
  exact ⟨1, (below_succ_iff ..).mpr (.inl (.inr (.inr isNever)))⟩

theorem unionSource (proper : upper ≠ .scalar .never)
    (each : ∀ member ∈ members, EventuallyBelow hierarchy store member upper) :
    EventuallyBelow hierarchy store (.union members) upper := by
  intro source target sourceKnown targetKnown isSource isTarget
  obtain ⟨ids, sourceFound, rfl⟩ := exists_union canonical sourceKnown isSource
  obtain ⟨targetShape, targetFound⟩ := exists_lookup targetKnown
  have each : ∀ pair ∈ ids.map (fun id => (id, target)),
      ∃ levels, Below hierarchy store levels pair.1 pair.2 := by
    intro pair present
    obtain ⟨id, among, rfl⟩ := List.mem_map.mp present
    exact each _ (List.mem_map_of_mem among) id target
      (canonical.contains_part sourceFound among) targetKnown rfl isTarget
  obtain ⟨levels, below⟩ := exists_levels each
  exact exists_below_of_definite canonical sourceFound targetFound (by simp [isSource])
    (isTarget ▸ proper) (.unionSource fun id among => below _ (List.mem_map_of_mem among))

theorem unionTarget {member : TypeTree} (proper : lower ≠ .scalar .mixed)
    (whole : lower.unionMembers = [lower]) (present : member ∈ members)
    (accepts : EventuallyBelow hierarchy store lower member) :
    EventuallyBelow hierarchy store lower (.union members) := by
  intro source target sourceKnown targetKnown isSource isTarget
  obtain ⟨sourceShape, sourceFound⟩ := exists_lookup sourceKnown
  obtain ⟨ids, targetFound, rfl⟩ := exists_union canonical targetKnown isTarget
  obtain ⟨id, among, rfl⟩ := List.mem_map.mp present
  have idKnown : store.Contains id := canonical.contains_part targetFound among
  obtain ⟨levels, below⟩ := accepts source id sourceKnown idKnown isSource rfl
  have wholeShape := unionMembers?_of_whole canonical sourceFound (isSource ▸ whole)
  exact exists_below_of_definite canonical sourceFound targetFound (isSource ▸ proper)
    (by simp [isTarget]) (.unionTarget wholeShape among below)

theorem intersectionTarget (proper : lower ≠ .scalar .mixed)
    (whole : lower.unionMembers = [lower])
    (each : ∀ member ∈ members, EventuallyBelow hierarchy store lower member) :
    EventuallyBelow hierarchy store lower (.intersection members) := by
  intro source target sourceKnown targetKnown isSource isTarget
  obtain ⟨sourceShape, sourceFound⟩ := exists_lookup sourceKnown
  obtain ⟨ids, targetFound, rfl⟩ := exists_intersection canonical targetKnown isTarget
  have each : ∀ pair ∈ ids.map (fun id => (source, id)),
      ∃ levels, Below hierarchy store levels pair.1 pair.2 := by
    intro pair present
    obtain ⟨id, among, rfl⟩ := List.mem_map.mp present
    exact each _ (List.mem_map_of_mem among) source id sourceKnown
      (canonical.contains_part targetFound among) isSource rfl
  obtain ⟨levels, below⟩ := exists_levels each
  have wholeShape := unionMembers?_of_whole canonical sourceFound (isSource ▸ whole)
  exact exists_below_of_definite canonical sourceFound targetFound (isSource ▸ proper)
    (by simp [isTarget]) (.intersectionTarget wholeShape
      fun id among => below _ (List.mem_map_of_mem among))

theorem intersectionSource {member : TypeTree} (proper : upper ≠ .scalar .never)
    (undivided : upper.Undivided) (present : member ∈ members)
    (relates : EventuallyBelow hierarchy store member upper) :
    EventuallyBelow hierarchy store (.intersection members) upper := by
  intro source target sourceKnown targetKnown isSource isTarget
  obtain ⟨ids, sourceFound, rfl⟩ := exists_intersection canonical sourceKnown isSource
  obtain ⟨targetShape, targetFound⟩ := exists_lookup targetKnown
  obtain ⟨id, among, rfl⟩ := List.mem_map.mp present
  have idKnown : store.Contains id := canonical.contains_part sourceFound among
  obtain ⟨levels, below⟩ := relates id target idKnown targetKnown rfl isTarget
  have undividedShape := members?_of_undivided canonical targetFound (isTarget ▸ undivided)
  exact exists_below_of_definite canonical sourceFound targetFound (by simp [isSource])
    (isTarget ▸ proper) (.intersectionSource undividedShape among below)

theorem object {name other : String} {sources targets : List TypeTree}
    (derived : hierarchy.isSameOrDerived name other = true)
    (comparable : sameClass name other = true ∨ targets = [] ∨ sources.length = targets.length)
    (covariant : ∀ pair ∈ TypeTree.argumentPairs sources targets,
      EventuallyBelow hierarchy store pair.1 pair.2) :
    EventuallyBelow hierarchy store (.object name sources) (.object other targets) := by
  intro source target sourceKnown targetKnown isSource isTarget
  obtain ⟨ids, sourceFound, rfl⟩ := exists_object canonical sourceKnown isSource
  obtain ⟨others, targetFound, rfl⟩ := exists_object canonical targetKnown isTarget
  have each : ∀ pair ∈ argumentPairs ids others,
      ∃ levels, Below hierarchy store levels pair.1 pair.2 := by
    intro pair present
    obtain ⟨inSources, inTargets⟩ := mem_of_mem_argumentPairs present
    have isPair : (store.tree pair.1, store.tree pair.2) ∈
        TypeTree.argumentPairs (ids.map store.tree) (others.map store.tree) := by
      rw [map_argumentPairs canonical]
      exact List.mem_map.mpr ⟨pair, present, rfl⟩
    refine covariant _ isPair _ _ ?_ (canonical.contains_part targetFound inTargets) rfl rfl
    rcases inSources with isMixed | inSources
    · exact isMixed ▸ contains_scalar canonical.standard .mixed
    · exact canonical.contains_part sourceFound inSources
  obtain ⟨levels, below⟩ := exists_levels each
  exact exists_below_of_definite canonical sourceFound targetFound (by simp [isSource])
    (by simp [isTarget]) (.atomic (.object derived (by simpa using comparable) below))

theorem objectToIterable {name : String} {arguments : List TypeTree}
    (iterates : hierarchy.isTraversable name = true)
    (keys : EventuallyBelow hierarchy store (TypeTree.iteratedTypes arguments).1 key)
    (values : EventuallyBelow hierarchy store (TypeTree.iteratedTypes arguments).2 value) :
    EventuallyBelow hierarchy store (.object name arguments) (.iterable key value) := by
  intro source target sourceKnown targetKnown isSource isTarget
  obtain ⟨ids, sourceFound, rfl⟩ := exists_object canonical sourceKnown isSource
  obtain ⟨keyId, valueId, targetFound, rfl, rfl⟩ := exists_iterable canonical targetKnown isTarget
  obtain ⟨iteratedKey, iteratedValue⟩ := canonical.contains_iteratedTypes sourceFound
  have keyKnown : store.Contains keyId :=
    canonical.contains_part targetFound (by simp [Shape.parts])
  have valueKnown : store.Contains valueId :=
    canonical.contains_part targetFound (by simp [Shape.parts])
  rw [map_iteratedTypes canonical] at keys values
  obtain ⟨levels, keys, values⟩ := exists_levels_both
    (keys _ _ iteratedKey keyKnown rfl rfl) (values _ _ iteratedValue valueKnown rfl rfl)
  exact exists_below_of_definite canonical sourceFound targetFound (by simp [isSource])
    (by simp [isTarget]) (.atomic (.objectToIterable iterates keys values))

theorem exists_below_of_entries {keyId valueId targetKey targetValue : TypeId}
    (sourceFound : store.lookup source = some sourceShape)
    (targetFound : store.lookup target = some targetShape)
    (sourceParts : sourceShape.parts = [keyId, valueId])
    (targetParts : targetShape.parts = [targetKey, targetValue])
    (keys : EventuallyBelow hierarchy store (store.tree keyId) (store.tree targetKey))
    (values : EventuallyBelow hierarchy store (store.tree valueId) (store.tree targetValue))
    (notTop : store.tree source ≠ .scalar .mixed) (notBottom : store.tree target ≠ .scalar .never)
    (reason : ∀ {below : TypeId → TypeId → Prop}, below keyId targetKey →
      below valueId targetValue → DefiniteAtomic hierarchy below sourceShape targetShape) :
    ∃ levels, Below hierarchy store levels source target := by
  have sourcePart : ∀ part ∈ [keyId, valueId], store.Contains part :=
    fun part present => canonical.contains_part sourceFound (sourceParts ▸ present)
  have targetPart : ∀ part ∈ [targetKey, targetValue], store.Contains part :=
    fun part present => canonical.contains_part targetFound (targetParts ▸ present)
  obtain ⟨levels, keys, values⟩ := exists_levels_both
    (keys _ _ (sourcePart _ (by simp)) (targetPart _ (by simp)) rfl rfl)
    (values _ _ (sourcePart _ (by simp)) (targetPart _ (by simp)) rfl rfl)
  exact exists_below_of_definite canonical sourceFound targetFound notTop notBottom
    (.atomic (reason keys values))

theorem iterableToIterable (keys : EventuallyBelow hierarchy store sourceKey key)
    (values : EventuallyBelow hierarchy store sourceValue value) :
    EventuallyBelow hierarchy store (.iterable sourceKey sourceValue) (.iterable key value) := by
  intro source target sourceKnown targetKnown isSource isTarget
  obtain ⟨_, _, sourceFound, rfl, rfl⟩ := exists_iterable canonical sourceKnown isSource
  obtain ⟨_, _, targetFound, rfl, rfl⟩ := exists_iterable canonical targetKnown isTarget
  exact exists_below_of_entries canonical sourceFound targetFound rfl rfl keys values
    (by simp [isSource]) (by simp [isTarget]) .iterableToIterable

theorem arrayToIterable (keys : EventuallyBelow hierarchy store sourceKey key)
    (values : EventuallyBelow hierarchy store sourceValue value) :
    EventuallyBelow hierarchy store (.array sourceKey sourceValue) (.iterable key value) := by
  intro source target sourceKnown targetKnown isSource isTarget
  obtain ⟨_, _, sourceFound, rfl, rfl⟩ := exists_array canonical sourceKnown isSource
  obtain ⟨_, _, targetFound, rfl, rfl⟩ := exists_iterable canonical targetKnown isTarget
  exact exists_below_of_entries canonical sourceFound targetFound rfl rfl keys values
    (by simp [isSource]) (by simp [isTarget]) .arrayToIterable

theorem arrayToArray (keys : EventuallyBelow hierarchy store sourceKey key)
    (values : EventuallyBelow hierarchy store sourceValue value) :
    EventuallyBelow hierarchy store (.array sourceKey sourceValue) (.array key value) := by
  intro source target sourceKnown targetKnown isSource isTarget
  obtain ⟨_, _, sourceFound, rfl, rfl⟩ := exists_array canonical sourceKnown isSource
  obtain ⟨_, _, targetFound, rfl, rfl⟩ := exists_array canonical targetKnown isTarget
  exact exists_below_of_entries canonical sourceFound targetFound rfl rfl keys values
    (by simp [isSource]) (by simp [isTarget]) .arrayToArray

theorem of_fits (fits : lower.Fits hierarchy upper) :
    EventuallyBelow hierarchy store lower upper := by
  induction fits with
  | refl tree => exact .refl canonical tree
  | top lower => exact .top canonical lower
  | bottom upper => exact .bottom canonical upper
  | unionSource proper _ ih => exact .unionSource canonical proper ih
  | unionTarget proper whole present _ ih => exact .unionTarget canonical proper whole present ih
  | intersectionTarget proper whole _ ih => exact .intersectionTarget canonical proper whole ih
  | intersectionSource proper undivided present _ ih =>
      exact .intersectionSource canonical proper undivided present ih
  | object derived comparable _ ih => exact .object canonical derived comparable ih
  | objectToIterable iterates _ _ keys values =>
      exact .objectToIterable canonical iterates keys values
  | iterableToIterable _ _ keys values => exact .iterableToIterable canonical keys values
  | arrayToIterable _ _ keys values => exact .arrayToIterable canonical keys values
  | arrayToArray _ _ keys values => exact .arrayToArray canonical keys values

end EventuallyBelow

/-- Trees that fit are those of types to which some number of levels says yes. -/
theorem exists_below_of_fits (canonical : store.Canonical) (sourceKnown : store.Contains source)
    (targetKnown : store.Contains target)
    (fits : (store.tree source).Fits hierarchy (store.tree target)) :
    ∃ levels, Below hierarchy store levels source target :=
  EventuallyBelow.of_fits canonical fits source target sourceKnown targetKnown rfl rfl

/-- A yes means that the trees fit, and trees that fit get a yes unless the limit is met. -/
theorem relate_yes_of_fits (canonical : store.Canonical) (sourceKnown : store.Contains source)
    (targetKnown : store.Contains target)
    (fits : (store.tree source).Fits hierarchy (store.tree target))
    (unlimited : (relate store hierarchy source target).limited = false) :
    (relate store hierarchy source target).verdict = .yes := by
  obtain ⟨levels, below⟩ := exists_below_of_fits canonical sourceKnown targetKnown fits
  exact below.relate_yes unlimited

theorem fits_of_isSubtype (canonical : store.Canonical) (sourceKnown : store.Contains source)
    (targetKnown : store.Contains target)
    (fits : isSubtype store hierarchy source target = true) :
    (store.tree source).Fits hierarchy (store.tree target) :=
  ((isSubtype_iff_below ..).mp fits).fits canonical sourceKnown targetKnown

end Subtype

end AssociationCheck
