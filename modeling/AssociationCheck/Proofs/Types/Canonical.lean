/-
Canonical stores.

The constructors keep every type once and every union and intersection in normal form. In such a
store two types are the same exactly when their trees are, and what a constructor makes is decided
by the trees of what it is given.
-/

import AssociationCheck.Proofs.Types.NormalForms
import AssociationCheck.Proofs.Types.Nullable

namespace AssociationCheck

def Shape.IsNormal (store : TypeStore) : Shape → Prop
  | union members =>
      UnitedMembers .mixed .never .null members ∧
        ∀ member ∈ members, (store.lookup member).bind Shape.unionMembers? = none
  | intersection members =>
      MetMembers .mixed .never members ∧
        ∀ member ∈ members, (store.lookup member).bind Shape.intersectionMembers? = none
  | _ => True

theorem Shape.IsNormal.grow {store later : TypeStore} {shape : Shape}
    (normal : shape.IsNormal store) (grows : store.GrowsTo later)
    (known : ∀ part ∈ shape.parts, store.Contains part) : shape.IsNormal later := by
  cases shape with
  | union members =>
      refine ⟨normal.1, fun member present => ?_⟩
      rw [grows.lookup_eq (known member present)]
      exact normal.2 member present
  | intersection members =>
      refine ⟨normal.1, fun member present => ?_⟩
      rw [grows.lookup_eq (known member present)]
      exact normal.2 member present
  | _ => trivial

namespace TypeStore

open Building

variable {store later last : TypeStore} {id other : TypeId} {shape : Shape} {tree : TypeTree}

/-- Every type is kept once and in normal form. -/
structure Canonical (store : TypeStore) : Prop extends WellFormed store where
  unique : ∀ ⦃id other shape⦄, store.lookup id = some shape → store.lookup other = some shape →
    id = other
  normal : ∀ ⦃id shape⦄, store.lookup id = some shape → shape.IsNormal store

theorem Canonical.nodup_shapes (canonical : store.Canonical) : store.shapes.toList.Nodup := by
  rw [List.Nodup, List.pairwise_iff_getElem]
  intro index other inside otherInside before same
  have found (place : Nat) (within : place < store.shapes.toList.length) :
      store.lookup ⟨place⟩ = some store.shapes.toList[place] := by
    rw [lookup, ← Array.getElem?_toList, List.getElem?_eq_getElem within]
  have twice := canonical.unique (found index inside) (same ▸ found other otherInside)
  exact Nat.ne_of_lt before (congrArg TypeId.index twice)

/-! ### Types and their trees -/

/-- Types with one tree are one type. -/
theorem Canonical.eq_of_tree_eq (canonical : store.Canonical) (known : store.Contains id)
    (otherKnown : store.Contains other) (same : store.tree id = store.tree other) :
    id = other := by
  induction size : id.index using Nat.strongRecOn generalizing id other with
  | _ size ih =>
      obtain ⟨shape, found⟩ := exists_lookup known
      obtain ⟨otherShape, otherFound⟩ := exists_lookup otherKnown
      rw [canonical.tree_of_lookup found, canonical.tree_of_lookup otherFound] at same
      have oneShape : shape = otherShape := (Shape.alike_of_unfold_eq same).eq (by
        rintro part item ⟨present, among, agree⟩
        have earlier := canonical.earlier found part present
        exact ih part.index (size ▸ earlier) (canonical.contains_part found present)
          (canonical.contains_part otherFound among) agree rfl)
      exact canonical.unique found (oneShape ▸ otherFound)

theorem Canonical.tree_eq_iff (canonical : store.Canonical) (known : store.Contains id)
    (otherKnown : store.Contains other) : store.tree id = store.tree other ↔ id = other :=
  ⟨canonical.eq_of_tree_eq known otherKnown, congrArg store.tree⟩

theorem Canonical.tree_apart (canonical : store.Canonical) (first second : TypeId)
    (firstKnown : store.Contains first) (secondKnown : store.Contains second)
    (same : store.tree first = store.tree second) : first = second :=
  canonical.eq_of_tree_eq firstKnown secondKnown same

theorem Canonical.mem_of_tree_mem (canonical : store.Canonical) {ids : List TypeId}
    (known : ∀ id ∈ ids, store.Contains id) (idKnown : store.Contains id)
    (present : store.tree id ∈ ids.map store.tree) : id ∈ ids := by
  obtain ⟨other, among, same⟩ := List.mem_map.mp present
  rwa [← canonical.eq_of_tree_eq (known other among) idKnown same]

/-! ### Interning -/

theorem lookup_ne_of_find?_eq_none (unknown : store.find? shape = none) (id : TypeId) :
    store.lookup id ≠ some shape := by
  intro found
  rw [find?, Option.map_eq_none_iff, Array.idxOf?, Option.map_eq_none_iff] at unknown
  exact Array.finIdxOf?_eq_none_iff.mp unknown (Array.mem_of_getElem? found)

theorem Canonical.push (canonical : store.Canonical)
    (known : ∀ part ∈ shape.parts, store.Contains part) (normal : shape.IsNormal store)
    (unknown : ∀ id, store.lookup id ≠ some shape) :
    Canonical ⟨store.shapes.push shape⟩ := by
  have grows := growsTo_push store shape
  refine ⟨canonical.toWellFormed.push known, ?_, ?_⟩
  · intro id other one found otherFound
    rw [lookup_push] at found otherFound
    split at found <;> split at otherFound
    · rename_i idLast otherLast
      have same : id.index = other.index := idLast.trans otherLast.symm
      cases id
      cases other
      exact congrArg TypeId.mk same
    · cases found
      exact absurd otherFound (unknown other)
    · cases otherFound
      exact absurd found (unknown id)
    · exact canonical.unique found otherFound
  · intro id one found
    rw [lookup_push] at found
    split at found
    · cases found
      exact normal.grow grows known
    · exact (canonical.normal found).grow grows
        (fun part present => canonical.contains_part found present)

theorem canonical_initial : initial.Canonical := by
  have apart : ∀ first second : Fin initial.shapes.size,
      initial.shapes[first] = initial.shapes[second] → first = second := by decide
  have simple : ∀ shape ∈ initial.shapes, ∃ kind, shape = .scalar kind := by
    simp [initial]
  refine ⟨wellFormed_initial, ?_, ?_⟩
  · intro id other shape found otherFound
    obtain ⟨inside, at_id⟩ := Array.getElem?_eq_some_iff.mp found
    obtain ⟨otherInside, at_other⟩ := Array.getElem?_eq_some_iff.mp otherFound
    have same := apart ⟨id.index, inside⟩ ⟨other.index, otherInside⟩ (at_id.trans at_other.symm)
    cases id
    cases other
    exact congrArg TypeId.mk (congrArg Fin.val same)
  · intro id shape found
    obtain ⟨kind, rfl⟩ := simple shape (Array.mem_of_getElem? found)
    trivial

structure ContinuesTo (store later : TypeStore) : Prop where
  grows : store.GrowsTo later
  canonical : later.Canonical

theorem ContinuesTo.trans (first : store.ContinuesTo later) (second : later.ContinuesTo last) :
    store.ContinuesTo last :=
  ⟨first.grows.trans second.grows, second.canonical⟩

theorem Canonical.continuesTo_refl (canonical : store.Canonical) : store.ContinuesTo store :=
  ⟨GrowsTo.refl store, canonical⟩

/-- The computation gives a type with a certain tree and leaves a canonical store. -/
def Makes (build : Building TypeId) (store : TypeStore) (tree : TypeTree) : Prop :=
  Ensures build store (fun id later =>
    store.ContinuesTo later ∧ later.Contains id ∧ later.tree id = tree)

/-- What is made after other types have been made continues the store before those. -/
theorem Makes.since {build : Building TypeId} (made : Makes build later tree)
    (continues : store.ContinuesTo later) :
    Ensures build later (fun id last =>
      store.ContinuesTo last ∧ last.Contains id ∧ last.tree id = tree) :=
  Ensures.weaken made (fun _ _ both => ⟨continues.trans both.1, both.2⟩)

theorem makes_known (canonical : store.Canonical) (known : store.Contains id) :
    Makes (pure id) store (store.tree id) :=
  ⟨canonical.continuesTo_refl, known, rfl⟩

theorem intern_makes (canonical : store.Canonical)
    (known : ∀ part ∈ shape.parts, store.Contains part) (normal : shape.IsNormal store) :
    Makes (intern shape) store (shape.unfold store.tree) := by
  have continues : store.ContinuesTo ((intern shape).run store).2 := by
    cases found : store.find? shape with
    | some id =>
        have same : (intern shape).run store = (id, store) := by
          change intern shape store = _
          rw [intern, found]
        rw [same]
        exact canonical.continuesTo_refl
    | none =>
        have added : (intern shape).run store = (⟨store.size⟩, ⟨store.shapes.push shape⟩) := by
          change intern shape store = _
          rw [intern, found]
        rw [added]
        exact ⟨growsTo_push store shape,
          canonical.push known normal (lookup_ne_of_find?_eq_none found)⟩
  obtain ⟨grows, found⟩ := intern_ensures shape store
  refine ⟨continues, contains_of_lookup found, ?_⟩
  rw [continues.canonical.tree_of_lookup found]
  exact Shape.unfold_congr (fun part present => canonical.tree_later grows (known part present))

theorem object_makes (canonical : store.Canonical) (name : String) {arguments : List TypeId}
    (known : ∀ argument ∈ arguments, store.Contains argument) :
    Makes (object name arguments) store
      (.object (withoutLeadingSeparators name) (arguments.map store.tree)) :=
  intern_makes canonical known trivial

theorem iterable_makes (canonical : store.Canonical) {key value : TypeId}
    (keyKnown : store.Contains key) (valueKnown : store.Contains value) :
    Makes (iterable key value) store (.iterable (store.tree key) (store.tree value)) := by
  have known : ∀ part ∈ (Shape.iterable key value).parts, store.Contains part := by
    simpa [Shape.parts] using And.intro keyKnown valueKnown
  exact intern_makes canonical known trivial

theorem array_makes (canonical : store.Canonical) {key value : TypeId}
    (keyKnown : store.Contains key) (valueKnown : store.Contains value) :
    Makes (array key value) store (.array (store.tree key) (store.tree value)) := by
  have known : ∀ part ∈ (Shape.array key value).parts, store.Contains part := by
    simpa [Shape.parts] using And.intro keyKnown valueKnown
  exact intern_makes canonical known trivial

/-! ### Unions and intersections -/

def intersectionMembers (store : TypeStore) (id : TypeId) : List TypeId :=
  match store.lookup id with
  | some (.intersection members) => members
  | _ => [id]

/-- Opening a type once opens it altogether, where its members are not opened any further. -/
theorem flatten_once {members? : Shape → Option (List TypeId)} (levels : Nat)
    (found : store.lookup id = some shape)
    (whole : ∀ members, members? shape = some members →
      ∀ member ∈ members, (store.lookup member).bind members? = none) :
    store.flatten members? (levels + 1) id = (members? shape).getD [id] := by
  rw [flatten, found, Option.bind_some]
  cases opened : members? shape with
  | none => rfl
  | some members =>
      have single (member : TypeId) (present : member ∈ members) :
          store.flatten members? levels member = [member] :=
        flatten_whole (whole members opened member present) levels
      calc members.flatMap (store.flatten members? levels)
        _ = members.flatMap (fun member => [member]) := List.flatMap_congr single
        _ = members := List.flatMap_singleton' members

theorem Canonical.flatten_union (canonical : store.Canonical) (known : store.Contains id) :
    store.flatten Shape.unionMembers? store.size id = store.unionMembers id := by
  obtain ⟨levels, size⟩ : ∃ levels, store.size = levels + 1 :=
    ⟨store.size - 1, by have inside : id.index < store.size := known; omega⟩
  obtain ⟨shape, found⟩ := exists_lookup known
  have normal := canonical.normal found
  rw [size, flatten_once levels found, unionMembers, found]
  · cases shape <;> rfl
  · intro members opened
    cases shape <;> cases opened
    exact normal.2

theorem Canonical.flatten_intersection (canonical : store.Canonical) (known : store.Contains id) :
    store.flatten Shape.intersectionMembers? store.size id = store.intersectionMembers id := by
  obtain ⟨levels, size⟩ : ∃ levels, store.size = levels + 1 :=
    ⟨store.size - 1, by have inside : id.index < store.size := known; omega⟩
  obtain ⟨shape, found⟩ := exists_lookup known
  have normal := canonical.normal found
  rw [size, flatten_once levels found, intersectionMembers, found]
  · cases shape <;> rfl
  · intro members opened
    cases shape <;> cases opened
    exact normal.2

theorem Canonical.unionMembers_tree (canonical : store.Canonical) (known : store.Contains id) :
    (store.tree id).unionMembers = (store.unionMembers id).map store.tree := by
  obtain ⟨shape, found⟩ := exists_lookup known
  have tree := canonical.tree_of_lookup found
  rw [unionMembers, found]
  cases shape with
  | union members => rw [tree]; rfl
  | _ => simp only [List.map_cons, List.map_nil, tree]; rfl

theorem Canonical.intersectionMembers_tree (canonical : store.Canonical)
    (known : store.Contains id) :
    (store.tree id).intersectionMembers = (store.intersectionMembers id).map store.tree := by
  obtain ⟨shape, found⟩ := exists_lookup known
  have tree := canonical.tree_of_lookup found
  rw [intersectionMembers, found]
  cases shape with
  | intersection members => rw [tree]; rfl
  | _ => simp only [List.map_cons, List.map_nil, tree]; rfl

theorem Canonical.map_tree_unionLeaves (canonical : store.Canonical) {members : List TypeId}
    (known : ∀ member ∈ members, store.Contains member) :
    (store.unionLeaves members).map store.tree =
      (members.map store.tree).flatMap TypeTree.unionMembers := by
  rw [unionLeaves, List.map_flatMap, List.flatMap_map]
  apply List.flatMap_congr
  intro member present
  rw [canonical.flatten_union (known member present),
    canonical.unionMembers_tree (known member present)]

theorem Canonical.map_tree_intersectionLeaves (canonical : store.Canonical)
    {members : List TypeId} (known : ∀ member ∈ members, store.Contains member) :
    (store.intersectionLeaves members).map store.tree =
      (members.map store.tree).flatMap TypeTree.intersectionMembers := by
  rw [intersectionLeaves, List.map_flatMap, List.flatMap_map]
  apply List.flatMap_congr
  intro member present
  rw [canonical.flatten_intersection (known member present),
    canonical.intersectionMembers_tree (known member present)]

theorem Canonical.whole_of_mem_unionMembers (canonical : store.Canonical)
    (known : store.Contains id) {member : TypeId} (present : member ∈ store.unionMembers id) :
    (store.lookup member).bind Shape.unionMembers? = none := by
  obtain ⟨shape, found⟩ := exists_lookup known
  rw [unionMembers, found] at present
  cases shape with
  | union members => exact (canonical.normal found).2 member present
  | _ =>
      rw [List.mem_singleton.mp present, found]
      rfl

theorem Canonical.whole_of_mem_intersectionMembers (canonical : store.Canonical)
    (known : store.Contains id) {member : TypeId}
    (present : member ∈ store.intersectionMembers id) :
    (store.lookup member).bind Shape.intersectionMembers? = none := by
  obtain ⟨shape, found⟩ := exists_lookup known
  rw [intersectionMembers, found] at present
  cases shape with
  | intersection members => exact (canonical.normal found).2 member present
  | _ =>
      rw [List.mem_singleton.mp present, found]
      rfl

theorem Canonical.unionLeaf_whole (canonical : store.Canonical) {members : List TypeId}
    (known : ∀ member ∈ members, store.Contains member) {leaf : TypeId}
    (leafOf : leaf ∈ store.unionLeaves members) :
    (store.lookup leaf).bind Shape.unionMembers? = none := by
  obtain ⟨member, present, below⟩ := List.mem_flatMap.mp leafOf
  rw [canonical.flatten_union (known member present)] at below
  exact canonical.whole_of_mem_unionMembers (known member present) below

theorem Canonical.intersectionLeaf_whole (canonical : store.Canonical) {members : List TypeId}
    (known : ∀ member ∈ members, store.Contains member) {leaf : TypeId}
    (leafOf : leaf ∈ store.intersectionLeaves members) :
    (store.lookup leaf).bind Shape.intersectionMembers? = none := by
  obtain ⟨member, present, below⟩ := List.mem_flatMap.mp leafOf
  rw [canonical.flatten_intersection (known member present)] at below
  exact canonical.whole_of_mem_intersectionMembers (known member present) below

/-- Settling a list of members makes the tree that the trees of the members stand for. -/
theorem settle_makes (canonical : store.Canonical) (empty : Scalar) (whole : List TypeId → Shape)
    (wholeTree : List TypeTree → TypeTree) {ids : List TypeId}
    (known : ∀ id ∈ ids, store.Contains id)
    (unfolds : (whole ids).unfold store.tree = wholeTree (ids.map store.tree))
    (partsKnown : ∀ part ∈ (whole ids).parts, store.Contains part)
    (normal : 2 ≤ ids.length → (whole ids).IsNormal store) :
    Makes (settle (.ofMembers empty.id whole ids)) store
      (.ofMembers (.scalar empty) wholeTree (ids.map store.tree)) := by
  match ids with
  | [] =>
      have nothing := makes_known canonical (contains_scalar canonical.standard empty)
      rw [canonical.tree_scalar] at nothing
      exact nothing
  | [id] => exact makes_known canonical (known id List.mem_cons_self)
  | first :: second :: others =>
      have stored := intern_makes canonical partsKnown (normal (by simp))
      rw [unfolds] at stored
      exact stored

theorem union_makes (canonical : store.Canonical) {members : List TypeId}
    (known : ∀ member ∈ members, store.Contains member) :
    Makes (union members) store (.unite (members.map store.tree)) := by
  let ids := unitedMembers TypeId.mixed .never .null (store.unionLeaves members)
  have leavesKnown (leaf : TypeId) (leafOf : leaf ∈ store.unionLeaves members) :
      store.Contains leaf :=
    contains_of_mem_unionLeaves canonical.toWellFormed known leafOf
  have inside (id : TypeId) (present : id ∈ ids) : id ∈ store.unionLeaves members :=
    mem_of_mem_unitedMembers present
  have trees : unitedMembers (.scalar .mixed) (.scalar .never) (.scalar .null)
      ((members.map store.tree).flatMap TypeTree.unionMembers) = ids.map store.tree := by
    have scalars := contains_scalar canonical.standard
    have renamed := unitedMembers_map canonical.tree_apart (scalars .mixed) (scalars .never)
      leavesKnown (scalars .null)
    rw [canonical.map_tree_unionLeaves known, canonical.tree_scalar, canonical.tree_scalar,
      canonical.tree_scalar] at renamed
    exact renamed
  apply ensures_get_bind
  rw [normalizeUnion_eq, TypeTree.unite, trees]
  have idsKnown (id : TypeId) (present : id ∈ ids) : store.Contains id :=
    leavesKnown id (inside id present)
  refine settle_makes canonical .never .union .union idsKnown rfl idsKnown ?_
  intro several
  exact ⟨unitedMembers_form (by decide) (by decide) several,
    fun id present => canonical.unionLeaf_whole known (inside id present)⟩

theorem intersection_makes (canonical : store.Canonical) {members : List TypeId}
    (known : ∀ member ∈ members, store.Contains member) :
    Makes (intersection members) store (.meet (members.map store.tree)) := by
  let ids := metMembers TypeId.mixed .never (store.intersectionLeaves members)
  have leavesKnown (leaf : TypeId) (leafOf : leaf ∈ store.intersectionLeaves members) :
      store.Contains leaf :=
    contains_of_mem_intersectionLeaves canonical.toWellFormed known leafOf
  have inside (id : TypeId) (present : id ∈ ids) : id ∈ store.intersectionLeaves members :=
    mem_of_mem_metMembers present
  have trees : metMembers (.scalar .mixed) (.scalar .never)
      ((members.map store.tree).flatMap TypeTree.intersectionMembers) = ids.map store.tree := by
    have scalars := contains_scalar canonical.standard
    have renamed := metMembers_map canonical.tree_apart (scalars .mixed) (scalars .never)
      leavesKnown
    rw [canonical.map_tree_intersectionLeaves known, canonical.tree_scalar,
      canonical.tree_scalar] at renamed
    exact renamed
  apply ensures_get_bind
  rw [normalizeIntersection_eq, TypeTree.meet, trees]
  have idsKnown (id : TypeId) (present : id ∈ ids) : store.Contains id :=
    leavesKnown id (inside id present)
  refine settle_makes canonical .mixed .intersection .intersection idsKnown rfl idsKnown ?_
  intro several
  exact ⟨metMembers_form several,
    fun id present => canonical.intersectionLeaf_whole known (inside id present)⟩

/-! ### Null -/

theorem Canonical.contains_null (canonical : store.Canonical) : store.Contains .null :=
  contains_scalar canonical.standard .null

theorem Canonical.tree_null (canonical : store.Canonical) :
    store.tree .null = .scalar .null :=
  canonical.tree_scalar .null

theorem addNull_makes (canonical : store.Canonical) (known : store.Contains id) :
    Makes (addNull id) store (store.tree id).withNull := by
  have both : ∀ member ∈ [id, TypeId.null], store.Contains member := by
    simpa using And.intro known canonical.contains_null
  have made := union_makes canonical both
  rw [List.map_cons, List.map_singleton, canonical.tree_null] at made
  exact made

theorem Canonical.mem_unionMembers (canonical : store.Canonical) (known : store.Contains id)
    {member : TypeId} (present : member ∈ store.unionMembers id) : store.Contains member := by
  obtain ⟨shape, found⟩ := exists_lookup known
  rw [unionMembers, found] at present
  cases shape with
  | union members => exact canonical.contains_part found present
  | _ => exact List.mem_singleton.mp present ▸ known

theorem Canonical.mem_intersectionMembers (canonical : store.Canonical)
    (known : store.Contains id) {member : TypeId}
    (present : member ∈ store.intersectionMembers id) : store.Contains member := by
  obtain ⟨shape, found⟩ := exists_lookup known
  rw [intersectionMembers, found] at present
  cases shape with
  | intersection members => exact canonical.contains_part found present
  | _ => exact List.mem_singleton.mp present ▸ known

theorem Canonical.isNullable_tree (canonical : store.Canonical) (known : store.Contains id) :
    store.isNullable id = (store.tree id).isNullable := by
  have isNull := beq_rename canonical.tree_apart known canonical.contains_null
  have hasNull := contains_map_rename canonical.tree_apart
    (fun _ present => canonical.mem_unionMembers known present) canonical.contains_null
  rw [canonical.tree_null] at isNull hasNull
  rw [isNullable, TypeTree.isNullable, canonical.unionMembers_tree known, isNull, hasNull]

theorem removeNull_makes (canonical : store.Canonical) (known : store.Contains id) :
    Makes (removeNull id) store (store.tree id).withoutNull := by
  unfold removeNull
  split
  · rename_i isNull
    have nothing := makes_known canonical (contains_scalar canonical.standard .never)
    rw [canonical.tree_scalar] at nothing
    rw [isNull, canonical.tree_null]
    exact nothing
  · rename_i notNull
    apply ensures_get_bind
    obtain ⟨shape, found⟩ := exists_lookup known
    have tree := canonical.tree_of_lookup found
    rw [found]
    cases shape with
    | union members =>
        have membersKnown (member : TypeId) (present : member ∈ members) : store.Contains member :=
          canonical.contains_part found present
        have keptKnown (member : TypeId)
            (present : member ∈ members.filter (fun member => member != .null)) :
            store.Contains member :=
          membersKnown member (List.mem_filter.mp present).1
        have made := union_makes canonical keptKnown
        have kept : (members.filter (fun member => member != .null)).map store.tree =
            (members.map store.tree).filter (fun member => member != .scalar .null) := by
          rw [List.filter_map, ← canonical.tree_null]
          congr 1
          apply List.filter_congr
          intro member present
          rw [Function.comp_apply, bne, bne, beq_rename canonical.tree_apart
            (membersKnown member present) canonical.contains_null]
        rw [kept] at made
        rw [tree]
        exact made
    | scalar kind =>
        have notNullTree : store.tree id ≠ .scalar .null := fun same =>
          notNull (canonical.eq_of_tree_eq known canonical.contains_null
            (same.trans canonical.tree_null.symm))
        have kept : (store.tree id).withoutNull = store.tree id := by
          rw [tree] at notNullTree ⊢
          cases kind <;> first | rfl | exact absurd rfl notNullTree
        rw [kept]
        exact makes_known canonical known
    | _ =>
        have kept : (store.tree id).withoutNull = store.tree id := by
          rw [tree]
          rfl
        rw [kept]
        exact makes_known canonical known

end TypeStore

end AssociationCheck
