/-
Joining trees.

Unions and intersections of trees are built alike: the members of nested ones are listed, the list
is brought into normal form, and one member stands for itself. Trees in normal form are joined to
what their members are joined to, in whatever portions this is done, and a function that is applied
to the members of a whole may be applied before or after the joining.
-/

import AssociationCheck.Proofs.Types.Canonical
import AssociationCheck.Proofs.Types.Repetitions
import Mathlib.Data.List.Nodup

namespace AssociationCheck

namespace TypeTree

theorem ofMembers_of_several {empty : TypeTree} {whole : List TypeTree → TypeTree}
    {members : List TypeTree} (several : 2 ≤ members.length) :
    ofMembers empty whole members = whole members := by
  match members, several with
  | _ :: _ :: _, _ => rfl

/-! ### Ways of joining -/

/-- What unions and intersections of trees have in common. -/
structure Joining where
  opened : TypeTree → List TypeTree
  settled : List TypeTree → List TypeTree
  whole : List TypeTree → TypeTree
  empty : TypeTree

namespace Joining

def uniting : Joining where
  opened := unionMembers
  settled := unitedMembers (.scalar .mixed) (.scalar .never) (.scalar .null)
  whole := .union
  empty := .scalar .never

def meeting : Joining where
  opened := intersectionMembers
  settled := metMembers (.scalar .mixed) (.scalar .never)
  whole := .intersection
  empty := .scalar .mixed

def join (joining : Joining) (trees : List TypeTree) : TypeTree :=
  ofMembers joining.empty joining.whole (joining.settled (trees.flatMap joining.opened))

structure Lawful (joining : Joining) : Prop where
  opened_whole : ∀ members, joining.opened (joining.whole members) = members
  opened_scalar : ∀ kind, joining.opened (.scalar kind) = [.scalar kind]
  empty_scalar : ∃ kind, joining.empty = .scalar kind
  settled_nil : joining.settled [] = []
  settled_subset : ∀ {tree given}, tree ∈ joining.settled given → tree ∈ given
  settled_nested : ∀ before given after,
    joining.settled (before ++ joining.settled given ++ after) =
      joining.settled (before ++ given ++ after)
  settled_without_empty : ∀ before after,
    joining.settled (before ++ [joining.empty] ++ after) = joining.settled (before ++ after)
  settled_flatMap : ∀ {replace : TypeTree → List TypeTree} (given),
    (∀ kind, replace (.scalar kind) = [.scalar kind]) →
      joining.settled ((joining.settled given).flatMap replace) =
        joining.settled (given.flatMap replace)

theorem lawful_uniting : uniting.Lawful where
  opened_whole _ := rfl
  opened_scalar _ := rfl
  empty_scalar := ⟨.never, rfl⟩
  settled_nil := rfl
  settled_subset := mem_of_mem_unitedMembers
  settled_nested := unitedMembers_nested (by decide) (by decide)
  settled_without_empty := unitedMembers_without_bottom (by decide)
  settled_flatMap _ keeps :=
    unitedMembers_flatMap (by decide) (by decide) (by decide) (keeps _) (keeps _) (keeps _)

theorem lawful_meeting : meeting.Lawful where
  opened_whole _ := rfl
  opened_scalar _ := rfl
  empty_scalar := ⟨.mixed, rfl⟩
  settled_nil := rfl
  settled_subset := mem_of_mem_metMembers
  settled_nested := metMembers_nested (by decide)
  settled_without_empty := metMembers_without_top
  settled_flatMap _ keeps := metMembers_flatMap (by decide) (keeps _) (keeps _)

variable {joining : Joining} {trees : List TypeTree}

def Flat (joining : Joining) (tree : TypeTree) : Prop :=
  ∀ member ∈ joining.opened tree, joining.opened member = [member]

theorem whole_of_mem_opened (flat : ∀ tree ∈ trees, joining.Flat tree) {member : TypeTree}
    (present : member ∈ trees.flatMap joining.opened) : joining.opened member = [member] := by
  obtain ⟨tree, among, inside⟩ := List.mem_flatMap.mp present
  exact flat tree among member inside

/-- The members of a joined tree are what is left of all members, and the empty tree if nothing
is. -/
theorem Lawful.opened_join (lawful : joining.Lawful) (flat : ∀ tree ∈ trees, joining.Flat tree) :
    (joining.settled (trees.flatMap joining.opened) = [] ∧
        joining.opened (joining.join trees) = [joining.empty]) ∨
      (joining.settled (trees.flatMap joining.opened) ≠ [] ∧
        joining.opened (joining.join trees) =
          joining.settled (trees.flatMap joining.opened)) := by
  rw [join]
  cases listed : joining.settled (trees.flatMap joining.opened) with
  | nil =>
      obtain ⟨kind, empty⟩ := lawful.empty_scalar
      refine .inl ⟨rfl, ?_⟩
      rw [ofMembers, empty, lawful.opened_scalar]
  | cons first others =>
      refine .inr ⟨List.cons_ne_nil _ _, ?_⟩
      cases others with
      | nil =>
          have inside : first ∈ joining.settled (trees.flatMap joining.opened) := by simp [listed]
          rw [ofMembers, whole_of_mem_opened flat (lawful.settled_subset inside)]
      | cons second others => rw [ofMembers_of_several (by simp), lawful.opened_whole]

theorem Lawful.settled_opened_join (lawful : joining.Lawful)
    (flat : ∀ tree ∈ trees, joining.Flat tree) (before after : List TypeTree) :
    joining.settled (before ++ joining.opened (joining.join trees) ++ after) =
      joining.settled (before ++ trees.flatMap joining.opened ++ after) := by
  rw [← lawful.settled_nested before (trees.flatMap joining.opened) after]
  rcases lawful.opened_join flat with ⟨nothing, opened⟩ | ⟨_, opened⟩
  · rw [nothing, opened, lawful.settled_without_empty, List.append_nil]
  · rw [opened]

theorem Lawful.forall_opened_join (lawful : joining.Lawful)
    (flat : ∀ tree ∈ trees, joining.Flat tree) {holds : TypeTree → Prop}
    (emptyHolds : holds joining.empty) :
    (∀ member ∈ joining.opened (joining.join trees), holds member) ↔
      ∀ member ∈ joining.settled (trees.flatMap joining.opened), holds member := by
  rcases lawful.opened_join flat with ⟨nothing, opened⟩ | ⟨_, opened⟩
  · rw [nothing, opened]
    simp [emptyHolds]
  · rw [opened]

theorem Lawful.mem_opened_join_iff (lawful : joining.Lawful) {others : List TypeTree}
    (flat : ∀ tree ∈ trees, joining.Flat tree) (flatOthers : ∀ tree ∈ others, joining.Flat tree)
    (same : ∀ member, member ∈ joining.settled (trees.flatMap joining.opened) ↔
      member ∈ joining.settled (others.flatMap joining.opened)) (member : TypeTree) :
    member ∈ joining.opened (joining.join trees) ↔
      member ∈ joining.opened (joining.join others) := by
  have nothing : joining.settled (trees.flatMap joining.opened) = [] ↔
      joining.settled (others.flatMap joining.opened) = [] := by
    simp only [List.eq_nil_iff_forall_not_mem, same]
  rcases lawful.opened_join flat with ⟨none, opened⟩ | ⟨some, opened⟩ <;>
    rcases lawful.opened_join flatOthers with ⟨noneOther, openedOther⟩ | ⟨someOther, openedOther⟩
  · rw [opened, openedOther]
  · exact absurd (nothing.mp none) someOther
  · exact absurd (nothing.mpr noneOther) some
  · rw [opened, openedOther, same]

/-! ### Portions -/

/-- What is joined before may be opened among the members. -/
theorem Lawful.settled_portions (lawful : joining.Lawful) {portions : List (List TypeTree)}
    (flat : ∀ portion ∈ portions, ∀ tree ∈ portion, joining.Flat tree)
    (before : List TypeTree) :
    joining.settled (before ++ (portions.map joining.join).flatMap joining.opened) =
      joining.settled (before ++ portions.flatten.flatMap joining.opened) := by
  induction portions generalizing before with
  | nil => rfl
  | cons portion portions ih =>
      have here := lawful.settled_opened_join (flat portion List.mem_cons_self) before
        ((portions.map joining.join).flatMap joining.opened)
      have rest := ih (fun other present => flat other (List.mem_cons_of_mem _ present))
        (before ++ portion.flatMap joining.opened)
      rw [List.map_cons, List.flatMap_cons, ← List.append_assoc, here, rest, List.flatten_cons,
        List.flatMap_append, List.append_assoc]

theorem Lawful.join_portions (lawful : joining.Lawful) {portions : List (List TypeTree)}
    (flat : ∀ portion ∈ portions, ∀ tree ∈ portion, joining.Flat tree) :
    joining.join (portions.map joining.join) = joining.join portions.flatten := by
  have members := lawful.settled_portions flat []
  rw [List.nil_append, List.nil_append] at members
  rw [join, members, join]

/-! ### Functions on the members -/

section Mapping

variable {change : TypeTree → TypeTree}

/-- Where a function is applied to the members of a whole, the members of what it gives are those
of what it gives for the members. -/
theorem Lawful.settled_flatMap_opened (lawful : joining.Lawful)
    (distributes : ∀ tree ∈ trees, change tree = joining.join ((joining.opened tree).map change))
    (flat : ∀ tree ∈ trees, ∀ member ∈ joining.opened tree, joining.Flat (change member)) :
    joining.settled (trees.flatMap (fun tree => joining.opened (change tree))) =
      joining.settled
        ((trees.flatMap joining.opened).flatMap (fun tree => joining.opened (change tree))) := by
  let portions := trees.map (fun tree => (joining.opened tree).map change)
  have joined : (portions.map joining.join).flatMap joining.opened =
      trees.flatMap (fun tree => joining.opened (change tree)) := by
    rw [List.map_map, List.flatMap_map]
    apply List.flatMap_congr
    intro tree present
    rw [Function.comp_apply, ← distributes tree present]
  have listed : portions.flatten.flatMap joining.opened =
      (trees.flatMap joining.opened).flatMap (fun tree => joining.opened (change tree)) := by
    rw [← List.flatMap_def, ← List.map_flatMap, List.flatMap_map]
  have flatPortions : ∀ portion ∈ portions, ∀ part ∈ portion, joining.Flat part := by
    intro portion listed part present
    obtain ⟨tree, among, rfl⟩ := List.mem_map.mp listed
    obtain ⟨member, inside, rfl⟩ := List.mem_map.mp present
    exact flat tree among member inside
  have opened := lawful.settled_portions flatPortions []
  rwa [List.nil_append, List.nil_append, joined, listed] at opened

theorem Lawful.map_join (lawful : joining.Lawful)
    (ofWhole : ∀ members, change (joining.whole members) = joining.join (members.map change))
    (ofScalar : ∀ kind, change (.scalar kind) = .scalar kind)
    (opens : ∀ tree ∈ trees,
      joining.opened tree = [tree] ∨ tree = joining.whole (joining.opened tree))
    (flat : ∀ tree ∈ trees, ∀ member ∈ joining.opened tree, joining.Flat (change member))
    (single : ∀ tree ∈ trees, ∀ member ∈ joining.opened tree,
      joining.join [change member] = change member) :
    change (joining.join trees) = joining.join (trees.map change) := by
  have distributes : ∀ tree ∈ trees,
      change tree = joining.join ((joining.opened tree).map change) := by
    intro tree present
    rcases opens tree present with alone | whole
    · have changed := single tree present tree (by simp [alone])
      rw [alone, List.map_singleton, changed]
    · exact (congrArg change whole).trans (ofWhole _)
  have fixed : ∀ kind, joining.opened (change (.scalar kind)) = [.scalar kind] := by
    intro kind
    rw [ofScalar, lawful.opened_scalar]
  have members : joining.settled ((trees.map change).flatMap joining.opened) =
      joining.settled (((joining.settled (trees.flatMap joining.opened)).map change).flatMap
        joining.opened) := by
    rw [List.flatMap_map, List.flatMap_map, lawful.settled_flatMap _ fixed]
    exact lawful.settled_flatMap_opened distributes flat
  calc change (joining.join trees)
    _ = joining.join ((joining.settled (trees.flatMap joining.opened)).map change) := by
        rw [join]
        cases listed : joining.settled (trees.flatMap joining.opened) with
        | nil =>
            obtain ⟨kind, empty⟩ := lawful.empty_scalar
            simp only [ofMembers, join, List.map_nil, List.flatMap_nil, lawful.settled_nil, empty,
              ofScalar]
        | cons first others =>
            cases others with
            | nil =>
                have inside : first ∈ joining.settled (trees.flatMap joining.opened) := by
                  simp [listed]
                obtain ⟨tree, among, member⟩ :=
                  List.mem_flatMap.mp (lawful.settled_subset inside)
                exact (single tree among first member).symm
            | cons second others => exact ofWhole _
    _ = joining.join (trees.map change) := by rw [join, join, ← members]

end Mapping

end Joining

/-! ### Normal form -/

/-- Complete trees in which every union and every intersection is in normal form. -/
inductive Normal : TypeTree → Prop
  | scalar (kind : Scalar) : Normal (.scalar kind)
  | object (name : String) {arguments : List TypeTree}
      (each : ∀ argument ∈ arguments, Normal argument) : Normal (.object name arguments)
  | iterable {key value : TypeTree} (keys : Normal key) (values : Normal value) :
      Normal (.iterable key value)
  | array {key value : TypeTree} (keys : Normal key) (values : Normal value) :
      Normal (.array key value)
  | union {members : List TypeTree}
      (form : UnitedMembers (.scalar .mixed) (.scalar .never) (.scalar .null) members)
      (whole : ∀ member ∈ members, member.unionMembers = [member])
      (each : ∀ member ∈ members, Normal member) : Normal (.union members)
  | intersection {members : List TypeTree}
      (form : MetMembers (.scalar .mixed) (.scalar .never) members)
      (whole : ∀ member ∈ members, member.intersectionMembers = [member])
      (each : ∀ member ∈ members, Normal member) : Normal (.intersection members)

namespace Normal

variable {tree member : TypeTree} {trees : List TypeTree}

theorem of_mem_unionMembers (normal : tree.Normal) (present : member ∈ tree.unionMembers) :
    member.Normal ∧ member.unionMembers = [member] := by
  cases tree with
  | union members =>
      cases normal with
      | union form whole each => exact ⟨each member present, whole member present⟩
  | _ =>
      rw [List.mem_singleton.mp present]
      exact ⟨normal, rfl⟩

theorem of_mem_intersectionMembers (normal : tree.Normal)
    (present : member ∈ tree.intersectionMembers) :
    member.Normal ∧ member.intersectionMembers = [member] := by
  cases tree with
  | intersection members =>
      cases normal with
      | intersection form whole each => exact ⟨each member present, whole member present⟩
  | _ =>
      rw [List.mem_singleton.mp present]
      exact ⟨normal, rfl⟩

theorem flat_uniting (normal : tree.Normal) : Joining.uniting.Flat tree :=
  fun _ present => (normal.of_mem_unionMembers present).2

theorem flat_meeting (normal : tree.Normal) : Joining.meeting.Flat tree :=
  fun _ present => (normal.of_mem_intersectionMembers present).2

theorem unite (normal : ∀ tree ∈ trees, tree.Normal) : (TypeTree.unite trees).Normal := by
  let members := unitedMembers (.scalar .mixed) (.scalar .never) (.scalar .null)
    (trees.flatMap unionMembers)
  have parts : ∀ member ∈ members, member.Normal ∧ member.unionMembers = [member] := by
    intro member present
    obtain ⟨tree, among, inside⟩ := List.mem_flatMap.mp (mem_of_mem_unitedMembers present)
    exact (normal tree among).of_mem_unionMembers inside
  have form : 2 ≤ members.length →
      UnitedMembers (.scalar .mixed) (.scalar .never) (.scalar .null) members :=
    unitedMembers_form (by decide) (by decide)
  change (ofMembers _ _ members).Normal
  match members, parts, form with
  | [], _, _ => exact .scalar .never
  | [member], parts, _ => exact (parts member List.mem_cons_self).1
  | first :: second :: others, parts, form =>
      exact .union (form (by simp)) (fun member present => (parts member present).2)
        (fun member present => (parts member present).1)

theorem meet (normal : ∀ tree ∈ trees, tree.Normal) : (TypeTree.meet trees).Normal := by
  let members := metMembers (.scalar .mixed) (.scalar .never) (trees.flatMap intersectionMembers)
  have parts : ∀ member ∈ members, member.Normal ∧ member.intersectionMembers = [member] := by
    intro member present
    obtain ⟨tree, among, inside⟩ := List.mem_flatMap.mp (mem_of_mem_metMembers present)
    exact (normal tree among).of_mem_intersectionMembers inside
  have form : 2 ≤ members.length → MetMembers (.scalar .mixed) (.scalar .never) members :=
    metMembers_form
  change (ofMembers _ _ members).Normal
  match members, parts, form with
  | [], _, _ => exact .scalar .mixed
  | [member], parts, _ => exact (parts member List.mem_cons_self).1
  | first :: second :: others, parts, form =>
      exact .intersection (form (by simp)) (fun member present => (parts member present).2)
        (fun member present => (parts member present).1)

end Normal

theorem unite_of_whole {members : List TypeTree}
    (whole : ∀ member ∈ members, member.unionMembers = [member]) :
    unite members = ofMembers (.scalar .never) .union
      (unitedMembers (.scalar .mixed) (.scalar .never) (.scalar .null) members) := by
  rw [unite, List.flatMap_congr whole, List.flatMap_singleton']

theorem meet_of_whole {members : List TypeTree}
    (whole : ∀ member ∈ members, member.intersectionMembers = [member]) :
    meet members = ofMembers (.scalar .mixed) .intersection
      (metMembers (.scalar .mixed) (.scalar .never) members) := by
  rw [meet, List.flatMap_congr whole, List.flatMap_singleton']

theorem unite_members {members : List TypeTree}
    (form : UnitedMembers (.scalar .mixed) (.scalar .never) (.scalar .null) members)
    (whole : ∀ member ∈ members, member.unionMembers = [member]) :
    unite members = .union members := by
  rw [unite_of_whole whole, form.united, ofMembers_of_several form.several]

theorem meet_members {members : List TypeTree}
    (form : MetMembers (.scalar .mixed) (.scalar .never) members)
    (whole : ∀ member ∈ members, member.intersectionMembers = [member]) :
    meet members = .intersection members := by
  rw [meet_of_whole whole, form.met, ofMembers_of_several form.several]

theorem unite_alone {tree : TypeTree} (whole : tree.unionMembers = [tree]) :
    unite [tree] = tree := by
  rw [unite, List.flatMap_singleton, whole]
  by_cases isNever : tree = .scalar .never
  · rw [isNever]
    rfl
  · have united : unitedMembers (.scalar .mixed) (.scalar .never) (.scalar .null) [tree] =
        [tree] := by
      by_cases isMixed : tree = .scalar .mixed
      · rw [isMixed]
        rfl
      · rw [unitedMembers_of_not_top (by simpa using Ne.symm isMixed)]
        by_cases isNull : tree = .scalar .null
        · rw [isNull]
          rfl
        · simp [isNull, isNever, Ne.symm isNull, List.eraseDups_cons]
    rw [united, ofMembers]

theorem meet_alone {tree : TypeTree} (whole : tree.intersectionMembers = [tree]) :
    meet [tree] = tree := by
  rw [meet, List.flatMap_singleton, whole]
  by_cases isMixed : tree = .scalar .mixed
  · rw [isMixed]
    rfl
  · have met : metMembers (.scalar .mixed) (.scalar .never) [tree] = [tree] := by
      by_cases isNever : tree = .scalar .never
      · rw [isNever]
        rfl
      · rw [metMembers_of_not_bottom (by simpa using Ne.symm isNever)]
        simp [isMixed, List.eraseDups_cons]
    rw [met, ofMembers]

theorem Normal.unite_single {tree : TypeTree} (normal : tree.Normal) :
    TypeTree.unite [tree] = tree := by
  cases normal with
  | union form whole each =>
      rw [TypeTree.unite, List.flatMap_singleton]
      exact (congrArg _ form.united).trans (ofMembers_of_several form.several)
  | _ => exact unite_alone rfl

theorem Normal.meet_single {tree : TypeTree} (normal : tree.Normal) :
    TypeTree.meet [tree] = tree := by
  cases normal with
  | intersection form whole each =>
      rw [TypeTree.meet, List.flatMap_singleton]
      exact (congrArg _ form.met).trans (ofMembers_of_several form.several)
  | _ => exact meet_alone rfl

/-- A tree in normal form is the union of its members. -/
theorem Normal.unite_unionMembers {tree : TypeTree} (normal : tree.Normal) :
    TypeTree.unite tree.unionMembers = tree := by
  cases tree with
  | union members =>
      cases normal with
      | union form whole each => exact unite_members form whole
  | _ => exact normal.unite_single

end TypeTree

/-! ### Trees of a store -/

namespace TypeStore

variable {store : TypeStore} {id : TypeId}

theorem nodup_map_tree (canonical : store.Canonical) {ids : List TypeId}
    (known : ∀ id ∈ ids, store.Contains id) (once : ids.Nodup) : (ids.map store.tree).Nodup := by
  apply List.Nodup.map_on _ once
  intro first present second among same
  exact canonical.eq_of_tree_eq (known first present) (known second among) same

theorem Canonical.tree_eq_scalar_iff (canonical : store.Canonical) (known : store.Contains id)
    {kind : Scalar} : store.tree id = .scalar kind ↔ id = kind.id := by
  rw [← canonical.tree_scalar kind]
  exact canonical.tree_eq_iff known (contains_scalar canonical.standard kind)

theorem scalar_notMem_map_tree (canonical : store.Canonical) {ids : List TypeId}
    (known : ∀ id ∈ ids, store.Contains id) {kind : Scalar} (absent : kind.id ∉ ids) :
    TypeTree.scalar kind ∉ ids.map store.tree := by
  intro present
  obtain ⟨id, among, isScalar⟩ := List.mem_map.mp present
  have same := (canonical.tree_eq_scalar_iff (known id among)).mp isScalar
  exact absent (same ▸ among)

theorem Canonical.unionMembers_of_whole (canonical : store.Canonical)
    (known : store.Contains id) (whole : (store.lookup id).bind Shape.unionMembers? = none) :
    (store.tree id).unionMembers = [store.tree id] := by
  obtain ⟨shape, found⟩ := exists_lookup known
  rw [found] at whole
  rw [canonical.tree_of_lookup found]
  cases shape <;> first | rfl | cases whole

theorem Canonical.intersectionMembers_of_whole (canonical : store.Canonical)
    (known : store.Contains id)
    (whole : (store.lookup id).bind Shape.intersectionMembers? = none) :
    (store.tree id).intersectionMembers = [store.tree id] := by
  obtain ⟨shape, found⟩ := exists_lookup known
  rw [found] at whole
  rw [canonical.tree_of_lookup found]
  cases shape <;> first | rfl | cases whole

theorem Canonical.tree_normal (canonical : store.Canonical) (known : store.Contains id) :
    (store.tree id).Normal := by
  induction size : id.index using Nat.strongRecOn generalizing id with
  | _ size ih =>
      obtain ⟨shape, found⟩ := exists_lookup known
      have partKnown : ∀ part ∈ shape.parts, store.Contains part :=
        fun part present => canonical.contains_part found present
      have partNormal : ∀ part ∈ shape.parts, (store.tree part).Normal := by
        intro part present
        have earlier := canonical.earlier found part present
        exact ih part.index (size ▸ earlier) (partKnown part present) rfl
      have normal := canonical.normal found
      rw [canonical.tree_of_lookup found]
      cases shape with
      | scalar kind => exact .scalar kind
      | object name arguments => exact .object name (List.forall_mem_map.mpr partNormal)
      | iterable key value =>
          exact .iterable (partNormal key (by simp [Shape.parts]))
            (partNormal value (by simp [Shape.parts]))
      | array key value =>
          exact .array (partNormal key (by simp [Shape.parts]))
            (partNormal value (by simp [Shape.parts]))
      | union members =>
          obtain ⟨form, whole⟩ := normal
          refine .union ⟨by simpa using form.several, nodup_map_tree canonical partKnown form.once,
            scalar_notMem_map_tree canonical partKnown form.noTop,
            scalar_notMem_map_tree canonical partKnown form.noBottom, ?_⟩
            (List.forall_mem_map.mpr ?_) (List.forall_mem_map.mpr partNormal)
          · rw [← List.map_dropLast]
            exact scalar_notMem_map_tree canonical
              (fun part present => partKnown part (List.dropLast_subset _ present)) form.nullLast
          · exact fun member present =>
              canonical.unionMembers_of_whole (partKnown member present) (whole member present)
      | intersection members =>
          obtain ⟨form, whole⟩ := normal
          refine .intersection ⟨by simpa using form.several,
            nodup_map_tree canonical partKnown form.once,
            scalar_notMem_map_tree canonical partKnown form.noTop,
            scalar_notMem_map_tree canonical partKnown form.noBottom⟩
            (List.forall_mem_map.mpr ?_) (List.forall_mem_map.mpr partNormal)
          exact fun member present =>
            canonical.intersectionMembers_of_whole (partKnown member present)
              (whole member present)

end TypeStore

end AssociationCheck
