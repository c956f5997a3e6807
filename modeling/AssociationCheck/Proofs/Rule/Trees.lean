/-
The two sides of an association as trees.

The expected type of an association and the form in which a declared type is compared are functions
of trees. A canonical store computes them, whatever else it holds.
-/

import AssociationCheck.Proofs.Rule.Findings
import AssociationCheck.Proofs.Types.Denotation
import AssociationCheck.Proofs.Types.Equations

namespace AssociationCheck

open Building TypeStore

variable {hierarchy : Hierarchy} {options : CheckOptions} {store : TypeStore}

/-! ### Trees -/

namespace TypeTree

def collectionOf (name : String) (value : TypeTree) : TypeTree :=
  meet [.object (withoutLeadingSeparators name) [], .iterable (.scalar .mixed) value]

mutual

def normalize (hierarchy : Hierarchy) (options : CheckOptions) : TypeTree → TypeTree
  | .object name arguments =>
      match arguments.getLast? with
      | some value =>
          if hierarchy.isSameOrDerived name options.collectionInterface then
            collectionOf name value
          else .object name arguments
      | none => .object name arguments
  | .iterable _ value => .iterable (.scalar .mixed) value
  | .array _ value => .array (.scalar .mixed) value
  | .union members => unite (normalizeAll hierarchy options members)
  | .intersection members => meet (normalizeAll hierarchy options members)
  | .scalar kind => .scalar kind
  | .unknown => .unknown
  | .elided => .elided

def normalizeAll (hierarchy : Hierarchy) (options : CheckOptions) : List TypeTree → List TypeTree
  | [] => []
  | tree :: others => normalize hierarchy options tree :: normalizeAll hierarchy options others

end

theorem normalizeAll_eq_map (trees : List TypeTree) :
    normalizeAll hierarchy options trees = trees.map (normalize hierarchy options) := by
  induction trees with
  | nil => rfl
  | cons tree others ih => rw [normalizeAll, ih, List.map_cons]

end TypeTree

def Association.expectedTree (options : CheckOptions) (association : Association) : TypeTree :=
  let target := TypeTree.object (withoutLeadingSeparators association.targetEntity) []
  if association.isToMany then .collectionOf options.collectionInterface target
  else if association.expectsNull then target.withNull
  else target

def Association.comparedTree (hierarchy : Hierarchy) (options : CheckOptions)
    (association : Association) (declared : TypeTree) : TypeTree :=
  if association.isToMany then declared.normalize hierarchy options else declared

/-- The declared tree as far as it has to fit the database. -/
def TypeTree.forProperty (options : CheckOptions) (expected declared : TypeTree) : TypeTree :=
  if options.allowNullable && !expected.isNullable then declared.withoutNull else declared

/-! ### Stores -/

theorem collectionOf_makes (canonical : store.Canonical) (name : String) {value : TypeId}
    (known : store.Contains value) :
    Makes (collectionOf name value) store (.collectionOf name (store.tree value)) := by
  apply ensures_bind (object_makes canonical name (List.forall_mem_nil _))
  rintro instances middle ⟨first, instancesKnown, instancesTree⟩
  have mixedKnown : middle.Contains .mixed := contains_scalar first.canonical.standard .mixed
  apply ensures_bind (iterable_makes first.canonical mixedKnown (first.grows.contains known))
  rintro items later ⟨second, itemsKnown, itemsTree⟩
  have bothKnown : ∀ member ∈ [instances, items], later.Contains member := by
    simpa using And.intro (second.grows.contains instancesKnown) itemsKnown
  have made := intersection_makes second.canonical bothKnown
  have mixedTree : middle.tree .mixed = .scalar .mixed := first.canonical.tree_scalar .mixed
  rw [List.map_cons, List.map_singleton, itemsTree, mixedTree,
    first.canonical.tree_later second.grows instancesKnown, instancesTree,
    canonical.tree_later first.grows known] at made
  exact made.since (first.trans second)

theorem expectedType_makes (options : CheckOptions) (canonical : store.Canonical)
    (association : Association) :
    Makes (expectedType options association) store (association.expectedTree options) := by
  apply ensures_bind (object_makes canonical association.targetEntity (List.forall_mem_nil _))
  rintro target later ⟨continues, known, tree⟩
  rw [Association.expectedTree]
  split
  · have made := collectionOf_makes continues.canonical options.collectionInterface known
    rw [tree] at made
    exact made.since continues
  · split
    · have made := addNull_makes continues.canonical known
      rw [tree] at made
      exact made.since continues
    · exact ensures_pure ⟨continues, known, tree⟩

theorem normalizeEach_makes {levels : Nat}
    (each : ∀ {store : TypeStore}, store.Canonical → ∀ {declared}, store.Contains declared →
      declared.index < levels → Makes (normalizeWithin hierarchy options levels declared) store
        ((store.tree declared).normalize hierarchy options))
    (members : List TypeId) {store : TypeStore} (canonical : store.Canonical)
    (known : ∀ member ∈ members, store.Contains member)
    (within : ∀ member ∈ members, member.index < levels) :
    Ensures (members.mapM (normalizeWithin hierarchy options levels)) store (fun ids later =>
      store.ContinuesTo later ∧ (∀ id ∈ ids, later.Contains id) ∧
        ids.map later.tree =
          TypeTree.normalizeAll hierarchy options (members.map store.tree)) := by
  have keeps : ∀ member ∈ members, KeepsMaking (normalizeWithin hierarchy options levels member)
      store ((store.tree member).normalize hierarchy options) := by
    intro member present later continues
    have memberKnown := known member present
    have made := each continues.canonical (continues.grows.contains memberKnown)
      (within member present)
    rwa [canonical.tree_later continues.grows memberKnown] at made
  rw [TypeTree.normalizeAll_eq_map, List.map_map]
  exact mapM_makes canonical keeps

theorem normalizeWithin_object_makes (canonical : store.Canonical) (levels : Nat) {name : String}
    {arguments : List TypeId} {declared : TypeId}
    (found : store.lookup declared = some (.object name arguments)) :
    Makes (normalizeWithin hierarchy options (levels + 1) declared) store
      ((store.tree declared).normalize hierarchy options) := by
  have kept := makes_known canonical (contains_of_lookup found)
  rw [normalizeWithin]
  apply ensures_get_bind
  rw [canonical.tree_of_lookup found] at kept ⊢
  simp only [found, Shape.unfold, TypeTree.normalize, List.getLast?_map]
  cases last : arguments.getLast? with
  | none => exact kept
  | some item =>
      have itemKnown := canonical.contains_part found (List.mem_of_getLast? last)
      simp only [Option.map_some]
      split
      · exact collectionOf_makes canonical name itemKnown
      · exact kept

theorem normalizeWithin_iterable_makes (canonical : store.Canonical) (levels : Nat)
    {key item declared : TypeId} (found : store.lookup declared = some (.iterable key item)) :
    Makes (normalizeWithin hierarchy options (levels + 1) declared) store
      ((store.tree declared).normalize hierarchy options) := by
  have mixedTree : store.tree .mixed = .scalar .mixed := canonical.tree_scalar .mixed
  have mixedKnown : store.Contains .mixed := contains_scalar canonical.standard .mixed
  have kept := makes_known canonical (contains_of_lookup found)
  rw [normalizeWithin]
  apply ensures_get_bind
  rw [canonical.tree_of_lookup found] at kept ⊢
  simp only [found, Shape.unfold, TypeTree.normalize]
  split
  · rename_i anyKey
    rw [Shape.unfold, anyKey, mixedTree] at kept
    exact kept
  · have itemKnown := canonical.contains_part found (show item ∈ _ by simp [Shape.parts])
    have made := iterable_makes canonical mixedKnown itemKnown
    rw [mixedTree] at made
    exact made

theorem normalizeWithin_array_makes (canonical : store.Canonical) (levels : Nat)
    {key item declared : TypeId} (found : store.lookup declared = some (.array key item)) :
    Makes (normalizeWithin hierarchy options (levels + 1) declared) store
      ((store.tree declared).normalize hierarchy options) := by
  have mixedTree : store.tree .mixed = .scalar .mixed := canonical.tree_scalar .mixed
  have mixedKnown : store.Contains .mixed := contains_scalar canonical.standard .mixed
  have kept := makes_known canonical (contains_of_lookup found)
  rw [normalizeWithin]
  apply ensures_get_bind
  rw [canonical.tree_of_lookup found] at kept ⊢
  simp only [found, Shape.unfold, TypeTree.normalize]
  split
  · rename_i anyKey
    rw [Shape.unfold, anyKey, mixedTree] at kept
    exact kept
  · have itemKnown := canonical.contains_part found (show item ∈ _ by simp [Shape.parts])
    have made := array_makes canonical mixedKnown itemKnown
    rw [mixedTree] at made
    exact made

theorem normalizeWithin_makes (hierarchy : Hierarchy) (options : CheckOptions) (levels : Nat)
    {store : TypeStore} (canonical : store.Canonical) {declared : TypeId}
    (known : store.Contains declared) (within : declared.index < levels) :
    Makes (normalizeWithin hierarchy options levels declared) store
      ((store.tree declared).normalize hierarchy options) := by
  induction levels generalizing store declared with
  | zero => omega
  | succ levels ih =>
      obtain ⟨shape, found⟩ := exists_lookup known
      have tree := canonical.tree_of_lookup found
      have partKnown (part : TypeId) (present : part ∈ shape.parts) : store.Contains part :=
        canonical.contains_part found present
      have partWithin (part : TypeId) (present : part ∈ shape.parts) : part.index < levels := by
        have earlier := canonical.earlier found part present
        omega
      cases shape with
      | object name arguments => exact normalizeWithin_object_makes canonical levels found
      | iterable key item => exact normalizeWithin_iterable_makes canonical levels found
      | array key item => exact normalizeWithin_array_makes canonical levels found
      | scalar kind =>
          have kept := makes_known canonical known
          rw [normalizeWithin]
          apply ensures_get_bind
          rw [found]
          rw [tree] at kept ⊢
          exact kept
      | union members =>
          rw [normalizeWithin, tree]
          apply ensures_get_bind
          rw [found]
          apply ensures_bind (normalizeEach_makes ih members canonical partKnown partWithin)
          rintro ids later ⟨continues, idsKnown, idsTrees⟩
          rw [Shape.unfold, TypeTree.normalize, ← idsTrees]
          exact (union_makes continues.canonical idsKnown).since continues
      | intersection members =>
          rw [normalizeWithin, tree]
          apply ensures_get_bind
          rw [found]
          apply ensures_bind (normalizeEach_makes ih members canonical partKnown partWithin)
          rintro ids later ⟨continues, idsKnown, idsTrees⟩
          rw [Shape.unfold, TypeTree.normalize, ← idsTrees]
          exact (intersection_makes continues.canonical idsKnown).since continues

theorem normalizeCollection_makes (hierarchy : Hierarchy) (options : CheckOptions)
    (canonical : store.Canonical) {declared : TypeId} (known : store.Contains declared) :
    Makes (normalizeCollection hierarchy options declared) store
      ((store.tree declared).normalize hierarchy options) :=
  ensures_get_bind (normalizeWithin_makes hierarchy options store.size canonical known known)

theorem comparedType_makes (hierarchy : Hierarchy) (options : CheckOptions)
    (association : Association) (canonical : store.Canonical) {declared : TypeId}
    (known : store.Contains declared) :
    Makes (comparedType hierarchy options association declared) store
      (association.comparedTree hierarchy options (store.tree declared)) := by
  unfold comparedType Association.comparedTree
  split
  · exact normalizeCollection_makes hierarchy options canonical known
  · exact makes_known canonical known

theorem declaredForProperty_makes (options : CheckOptions) (canonical : store.Canonical)
    {expected declared : TypeId} (expectedKnown : store.Contains expected)
    (known : store.Contains declared) :
    Makes (declaredForProperty options expected declared) store
      (.forProperty options (store.tree expected) (store.tree declared)) := by
  apply ensures_get_bind
  rw [canonical.isNullable_tree expectedKnown, TypeTree.forProperty]
  split
  · exact removeNull_makes canonical known
  · exact makes_known canonical known

end AssociationCheck
