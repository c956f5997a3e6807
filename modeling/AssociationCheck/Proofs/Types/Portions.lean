/-
Unions and intersections in portions.

Types may be joined all at once, or in portions that are joined to each other after that. On the way
members are opened, left out and put last, and lists collapse to one type, but what comes out in the
end is one and the same type. In another order types are joined to the same members.
-/

import AssociationCheck.Proofs.Rule.History
import AssociationCheck.Proofs.Types.Equations
import AssociationCheck.Proofs.Types.Joining

namespace AssociationCheck

/-! ### Trees -/

namespace TypeTree

variable {trees others : List TypeTree} {portions : List (List TypeTree)}

theorem unite_portions (normal : ∀ portion ∈ portions, ∀ tree ∈ portion, tree.Normal) :
    unite (portions.map unite) = unite portions.flatten :=
  Joining.lawful_uniting.join_portions
    fun portion listed tree present => (normal portion listed tree present).flat_uniting

theorem meet_portions (normal : ∀ portion ∈ portions, ∀ tree ∈ portion, tree.Normal) :
    meet (portions.map meet) = meet portions.flatten :=
  Joining.lawful_meeting.join_portions
    fun portion listed tree present => (normal portion listed tree present).flat_meeting

theorem mem_unionMembers_unite_congr (normal : ∀ tree ∈ trees, tree.Normal)
    (same : ∀ tree, tree ∈ trees ↔ tree ∈ others) (member : TypeTree) :
    member ∈ (unite trees).unionMembers ↔ member ∈ (unite others).unionMembers := by
  apply Joining.lawful_uniting.mem_opened_join_iff
  · exact fun tree present => (normal tree present).flat_uniting
  · exact fun tree present => (normal tree ((same tree).mpr present)).flat_uniting
  · apply mem_unitedMembers_congr (by decide) (by decide)
    intro item
    simp only [List.mem_flatMap, same]

theorem mem_intersectionMembers_meet_congr (normal : ∀ tree ∈ trees, tree.Normal)
    (same : ∀ tree, tree ∈ trees ↔ tree ∈ others) (member : TypeTree) :
    member ∈ (meet trees).intersectionMembers ↔ member ∈ (meet others).intersectionMembers := by
  apply Joining.lawful_meeting.mem_opened_join_iff
  · exact fun tree present => (normal tree present).flat_meeting
  · exact fun tree present => (normal tree ((same tree).mpr present)).flat_meeting
  · apply mem_metMembers_congr (by decide)
    intro item
    simp only [List.mem_flatMap, same]

end TypeTree

/-! ### Stores -/

namespace TypeStore

open Building

variable {store : TypeStore} {id : TypeId} {nextAll : List TypeId → Building TypeId}
  {changeAll : List TypeTree → TypeTree}

theorem ComputesAll.portions (computes : ComputesAll nextAll changeAll)
    (treePortions : ∀ portions : List (List TypeTree),
      (∀ portion ∈ portions, ∀ tree ∈ portion, tree.Normal) →
        changeAll (portions.map changeAll) = changeAll portions.flatten)
    (canonical : store.Canonical) {lists : List (List TypeId)}
    (known : ∀ ids ∈ lists, ∀ id ∈ ids, store.Contains id) :
    SameType (do nextAll (← lists.mapM nextAll)) (nextAll lists.flatten) store := by
  have flatKnown : ∀ id ∈ lists.flatten, store.Contains id := by
    intro id present
    obtain ⟨ids, listed, among⟩ := List.mem_flatten.mp present
    exact known ids listed id among
  have inPortions := computes.mapM_bind
    (fun ids listed => computes.keepsMaking canonical (known ids listed))
  have atOnce := computes.keepsMaking canonical flatKnown
  have trees : changeAll (lists.map (fun ids => changeAll (ids.map store.tree))) =
      changeAll (lists.flatten.map store.tree) := by
    have normal : ∀ portion ∈ lists.map (List.map store.tree), ∀ tree ∈ portion, tree.Normal := by
      intro portion listed tree present
      obtain ⟨ids, among, rfl⟩ := List.mem_map.mp listed
      obtain ⟨id, inside, rfl⟩ := List.mem_map.mp present
      exact canonical.tree_normal (known ids among id inside)
    rw [List.map_flatten, ← treePortions _ normal, List.map_map]
    rfl
  rw [trees] at inPortions
  exact inPortions.sameType atOnce canonical

/-- When a second computation is run after the first one, at once or after other types have been
made, what it gives has the same members. -/
def SameMembers (members : TypeStore → TypeId → List TypeId) (build other : Building TypeId)
    (store : TypeStore) : Prop :=
  ∀ later, (build.run store).2.ContinuesTo later → ∀ member,
    member ∈ members (build.run store).2 (build.run store).1 ↔
      member ∈ members (other.run later).2 (other.run later).1

structure ReadsMembers (members : TypeStore → TypeId → List TypeId)
    (opened : TypeTree → List TypeTree) : Prop where
  contains : ∀ ⦃store : TypeStore⦄ ⦃id member⦄, store.Canonical → store.Contains id →
    member ∈ members store id → store.Contains member
  trees : ∀ ⦃store : TypeStore⦄ ⦃id⦄, store.Canonical → store.Contains id →
    opened (store.tree id) = (members store id).map store.tree

theorem reads_unionMembers : ReadsMembers unionMembers TypeTree.unionMembers where
  contains _ _ _ canonical known present := canonical.mem_unionMembers known present
  trees _ _ canonical known := canonical.unionMembers_tree known

theorem reads_intersectionMembers :
    ReadsMembers intersectionMembers TypeTree.intersectionMembers where
  contains _ _ _ canonical known present := canonical.mem_intersectionMembers known present
  trees _ _ canonical known := canonical.intersectionMembers_tree known

theorem ReadsMembers.sameMembers {members : TypeStore → TypeId → List TypeId}
    {opened : TypeTree → List TypeTree} (reads : ReadsMembers members opened)
    {build other : Building TypeId} {tree otherTree : TypeTree}
    (made : KeepsMaking build store tree) (otherMade : KeepsMaking other store otherTree)
    (canonical : store.Canonical)
    (same : ∀ member, member ∈ opened tree ↔ member ∈ opened otherTree) :
    SameMembers members build other store := by
  intro later continues member
  obtain ⟨first, known, makes⟩ := made store canonical.continuesTo_refl
  obtain ⟨further, otherKnown, otherMakes⟩ := otherMade later (first.trans continues)
  have since := continues.trans further
  let ids := members (build.run store).2 (build.run store).1
  let others := members (other.run later).2 (other.run later).1
  have idsKnown : ∀ id ∈ ids, (build.run store).2.Contains id :=
    fun _ present => reads.contains first.canonical known present
  have idsKept : ∀ id ∈ ids, (other.run later).2.Contains id :=
    fun id present => since.grows.contains (idsKnown id present)
  have othersKnown : ∀ id ∈ others, (other.run later).2.Contains id :=
    fun _ present => reads.contains since.canonical otherKnown present
  have trees : ids.map (other.run later).2.tree = opened tree := by
    rw [first.canonical.map_tree_later since.grows idsKnown, ← makes,
      reads.trees first.canonical known]
  have otherTrees : others.map (other.run later).2.tree = opened otherTree := by
    rw [← otherMakes, reads.trees since.canonical otherKnown]
  constructor
  · intro present
    apply since.canonical.mem_of_tree_mem othersKnown (idsKept member present)
    rw [otherTrees, ← same, ← trees]
    exact List.mem_map_of_mem present
  · intro present
    apply since.canonical.mem_of_tree_mem idsKept (othersKnown member present)
    rw [trees, same, ← otherTrees]
    exact List.mem_map_of_mem present

theorem Canonical.union_unionMembers (canonical : store.Canonical) (known : store.Contains id) :
    KeepsMaking (do union ((← get).unionMembers id)) store (store.tree id) := by
  intro later continues
  have laterKnown := continues.grows.contains known
  apply ensures_get_bind
  have made := union_makes continues.canonical
    (fun _ present => continues.canonical.mem_unionMembers laterKnown present)
  rw [← continues.canonical.unionMembers_tree laterKnown,
    (continues.canonical.tree_normal laterKnown).unite_unionMembers,
    canonical.tree_later continues.grows known] at made
  exact made

end TypeStore

open TypeStore

variable {store : TypeStore} {returned : List TypeId}

/-- Types that are joined in portions give the type that they give at once, as a union and as an
intersection. The order in which they are joined decides about the order of the members alone, and
a type is the union of its members. -/
theorem Reached.joined_in_portions (reached : Reached store returned) :
    (∀ lists : List (List TypeId), (∀ ids ∈ lists, ∀ id ∈ ids, store.Contains id) →
      SameType (do union (← lists.mapM union)) (union lists.flatten) store ∧
        SameType (do intersection (← lists.mapM intersection)) (intersection lists.flatten)
          store) ∧
    (∀ ids others : List TypeId, ids.Perm others → (∀ id ∈ ids, store.Contains id) →
      SameMembers unionMembers (union ids) (union others) store ∧
        SameMembers intersectionMembers (intersection ids) (intersection others) store) ∧
    ∀ id, store.Contains id → SameType (do union ((← get).unionMembers id)) (pure id) store := by
  have canonical := reached.canonical
  refine ⟨fun lists known => ⟨?_, ?_⟩, fun ids others permuted known => ?_, fun id known => ?_⟩
  · exact computesAll_union.portions (fun _ => TypeTree.unite_portions) canonical known
  · exact computesAll_intersection.portions (fun _ => TypeTree.meet_portions) canonical known
  · have othersKnown : ∀ id ∈ others, store.Contains id :=
      fun id present => known id (permuted.mem_iff.mpr present)
    have normal : ∀ tree ∈ ids.map store.tree, tree.Normal :=
      List.forall_mem_map.mpr fun id present => canonical.tree_normal (known id present)
    have trees : ∀ tree, tree ∈ ids.map store.tree ↔ tree ∈ others.map store.tree :=
      fun tree => (permuted.map store.tree).mem_iff
    constructor
    · exact reads_unionMembers.sameMembers (computesAll_union.keepsMaking canonical known)
        (computesAll_union.keepsMaking canonical othersKnown) canonical
        (TypeTree.mem_unionMembers_unite_congr normal trees)
    · exact reads_intersectionMembers.sameMembers
        (computesAll_intersection.keepsMaking canonical known)
        (computesAll_intersection.keepsMaking canonical othersKnown) canonical
        (TypeTree.mem_intersectionMembers_meet_congr normal trees)
  · exact (canonical.union_unionMembers known).sameType
      (computes_pure.keepsMaking canonical known) canonical

/-- `Book|null` and no value, nothing, and `Shelf` and null are `Book|Shelf|null` in portions and at
once. The other way round `Shelf|Book` is another type, with the same members. -/
theorem joined_in_portions_bookStore :
    let inPortions : Building TypeId := do
      union (← [[⟨9⟩, .never], [], [⟨8⟩, .null]].mapM union)
    let united := inPortions.run bookStore
    let first := (union [⟨7⟩, ⟨8⟩]).run bookStore
    let second := (union [⟨8⟩, ⟨7⟩]).run first.2
    let again : Building TypeId := do union ((← get).unionMembers ⟨9⟩)
    united.2.lookup united.1 = some (.union [⟨7⟩, ⟨8⟩, .null]) ∧
      ((union [⟨9⟩, .never, ⟨8⟩, .null]).run united.2).1 = united.1 ∧
      first.1 ≠ second.1 ∧
      (∀ member, member ∈ first.2.unionMembers first.1 ↔
        member ∈ second.2.unionMembers second.1) ∧
      (again.run bookStore).1 = ⟨9⟩ := by
  have known (id : TypeId) (inside : id.index < 10) : bookStore.Contains id := by
    have size : bookStore.size = 10 := by decide +kernel
    rwa [Contains, size]
  have listed : ∀ ids ∈ [[⟨9⟩, .never], [], [⟨8⟩, .null]], ∀ id ∈ ids, bookStore.Contains id := by
    simp [known, TypeId.never, TypeId.null]
  obtain ⟨portions, permuted, members⟩ := reached_bookStore.joined_in_portions
  have pairKnown : ∀ id ∈ [(⟨7⟩ : TypeId), ⟨8⟩], bookStore.Contains id := by simp [known]
  have swapped := permuted [⟨7⟩, ⟨8⟩] [⟨8⟩, ⟨7⟩] (List.Perm.swap _ _ _) pairKnown
  have whole := members ⟨9⟩ (known _ (by decide))
  have canonical := reached_bookStore.canonical
  have made := union_makes canonical pairKnown
  intro inPortions united first second again
  refine ⟨by decide +kernel, (portions _ listed).1.at_once, by decide +kernel, ?_, ?_⟩
  · exact swapped.1 first.2 made.1.canonical.continuesTo_refl
  · exact whole.before bookStore canonical.continuesTo_refl

end AssociationCheck
