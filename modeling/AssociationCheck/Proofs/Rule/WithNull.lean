/-
Adding null and removing it.

What is left of a type without its null, and what a type becomes with null, depend on its other
members alone. So only the last of the two steps counts, and a step that has nothing to do gives the
type that it is given. A type lies between the two.
-/

import AssociationCheck.Proofs.Rule.WithoutNull
import AssociationCheck.Proofs.Types.Portions

namespace AssociationCheck

/-! ### Trees -/

namespace TypeTree

variable {tree member : TypeTree} {trees : List TypeTree}

theorem isNullable_iff : tree.isNullable = true ↔ .scalar .null ∈ tree.unionMembers := by
  rw [isNullable, Bool.or_eq_true, beq_iff_eq, List.contains_iff_mem, or_iff_right_iff_imp]
  rintro rfl
  exact List.mem_singleton_self _

theorem Normal.mixed_mem_iff (normal : tree.Normal) :
    .scalar .mixed ∈ tree.unionMembers ↔ tree = .scalar .mixed := by
  constructor
  · intro present
    cases normal with
    | union form => exact absurd present form.noTop
    | _ => exact (List.mem_singleton.mp present).symm
  · rintro rfl
    exact List.mem_singleton_self _

theorem Normal.whole_members (normal : tree.Normal) :
    ∀ member ∈ tree.unionMembers, member.unionMembers = [member] :=
  normal.flat_uniting

/-- The members of a union are what is left of all members, and `never` if nothing is. -/
theorem unionMembers_unite (normal : ∀ tree ∈ trees, tree.Normal) :
    (unitedMembers (.scalar .mixed) (.scalar .never) (.scalar .null)
          (trees.flatMap unionMembers) = [] ∧
        (unite trees).unionMembers = [.scalar .never]) ∨
      (unitedMembers (.scalar .mixed) (.scalar .never) (.scalar .null)
          (trees.flatMap unionMembers) ≠ [] ∧
        (unite trees).unionMembers =
          unitedMembers (.scalar .mixed) (.scalar .never) (.scalar .null)
            (trees.flatMap unionMembers)) :=
  Joining.lawful_uniting.opened_join fun tree present => (normal tree present).flat_uniting

def properMembers (tree : TypeTree) : List TypeTree :=
  tree.unionMembers.filter (fun member => member != .scalar .null)

theorem Normal.of_mem_properMembers (normal : tree.Normal)
    (present : member ∈ tree.properMembers) : member.Normal ∧ member.unionMembers = [member] :=
  normal.of_mem_unionMembers (List.mem_of_mem_filter present)

theorem Normal.withoutNull_eq_unite (normal : tree.Normal) :
    tree.withoutNull = TypeTree.unite tree.properMembers := by
  by_cases nullable : tree.isNullable = true
  · cases normal with
    | union => rfl
    | scalar kind => cases kind <;> rfl
    | _ => cases nullable
  · have all : tree.properMembers = tree.unionMembers := by
      rw [properMembers, List.filter_eq_self]
      intro member present
      rw [bne_iff_ne]
      exact fun isNull => nullable (isNullable_iff.mpr (isNull ▸ present))
    rw [Bool.not_eq_true] at nullable
    rw [normal.withoutNull_eq nullable, all, normal.unite_unionMembers]

theorem Normal.pair_null (normal : tree.Normal) :
    ∀ member ∈ [tree, .scalar .null], member.Normal := by
  simpa using ⟨normal, Normal.scalar .null⟩

theorem flatMap_null (tree : TypeTree) :
    [tree, .scalar .null].flatMap unionMembers = tree.unionMembers ++ [.scalar .null] := rfl

theorem whole_append_null {members : List TypeTree}
    (whole : ∀ member ∈ members, member.unionMembers = [member]) :
    ∀ member ∈ members ++ [.scalar .null], member.unionMembers = [member] := by
  intro member present
  rcases List.mem_append.mp present with among | isNull
  · exact whole member among
  · rw [List.mem_singleton.mp isNull]
    rfl

theorem Normal.withNull_eq_unite (normal : tree.Normal) :
    tree.withNull = TypeTree.unite (tree.unionMembers ++ [.scalar .null]) := by
  rw [unite_of_whole (whole_append_null normal.whole_members), withNull, TypeTree.unite,
    flatMap_null]

/-- A union without null is the union of the members without null. -/
theorem withoutNull_unite (normal : ∀ tree ∈ trees, tree.Normal) :
    (unite trees).withoutNull =
      unite ((trees.flatMap unionMembers).filter (fun member => member != .scalar .null)) := by
  have united := Normal.unite normal
  have wholeProper : ∀ member ∈ (unite trees).properMembers, member.unionMembers = [member] :=
    fun _ present => (united.of_mem_properMembers present).2
  have wholeGiven : ∀ member ∈ (trees.flatMap unionMembers).filter
      (fun member => member != .scalar .null), member.unionMembers = [member] := by
    intro member present
    obtain ⟨tree, among, inside⟩ := List.mem_flatMap.mp (List.mem_of_mem_filter present)
    exact (normal tree among).whole_members member inside
  rw [united.withoutNull_eq_unite, unite_of_whole wholeProper, unite_of_whole wholeGiven,
    ← unitedMembers_without_null (by decide) (by decide), properMembers]
  rcases unionMembers_unite normal with ⟨nothing, opened⟩ | ⟨_, opened⟩
  · rw [nothing, opened]
    rfl
  · rw [opened]

/-! ### One after the other -/

theorem Normal.not_isNullable_withoutNull (normal : tree.Normal) :
    tree.withoutNull.isNullable = false := by
  rw [← Bool.not_eq_true, isNullable_iff, normal.withoutNull_eq_unite]
  have proper : ∀ member ∈ tree.properMembers, member.Normal :=
    fun _ present => (normal.of_mem_properMembers present).1
  intro present
  rcases unionMembers_unite proper with ⟨_, opened⟩ | ⟨_, opened⟩ <;> rw [opened] at present
  · cases List.mem_singleton.mp present
  · obtain ⟨member, among, inside⟩ := List.mem_flatMap.mp (mem_of_mem_unitedMembers present)
    rw [(normal.of_mem_properMembers among).2, List.mem_singleton] at inside
    have notNull := List.of_mem_filter among
    rw [← inside] at notNull
    cases notNull

theorem Normal.isNullable_withNull_iff (normal : tree.Normal) :
    tree.withNull.isNullable = true ↔ tree ≠ .scalar .mixed := by
  constructor
  · rintro nullable rfl
    cases nullable
  · intro notMixed
    have noMixed : .scalar .mixed ∉ [tree, .scalar .null].flatMap unionMembers := by
      rw [flatMap_null, List.mem_append, normal.mixed_mem_iff]
      simpa using notMixed
    have given : .scalar .null ∈ [tree, .scalar .null].flatMap unionMembers := by
      rw [flatMap_null]
      simp
    rw [isNullable_iff, withNull]
    rcases unionMembers_unite normal.pair_null with ⟨nothing, _⟩ | ⟨_, opened⟩
    · rw [← null_mem_unitedMembers noMixed, nothing] at given
      cases given
    · rw [opened, null_mem_unitedMembers noMixed]
      exact given

theorem Normal.withNull_of_isNullable (normal : tree.Normal) (nullable : tree.isNullable = true) :
    tree.withNull = tree := by
  have hasNull := isNullable_iff.mp nullable
  have members : unitedMembers (.scalar .mixed) (.scalar .never) (.scalar .null)
      (tree.unionMembers ++ [.scalar .null]) =
        unitedMembers (.scalar .mixed) (.scalar .never) (.scalar .null) tree.unionMembers := by
    apply unitedMembers_congr
    · rw [List.filter_append]
      simp
    · simp [hasNull]
  rw [normal.withNull_eq_unite, unite_of_whole (whole_append_null normal.whole_members), members,
    ← unite_of_whole normal.whole_members, normal.unite_unionMembers]

theorem Normal.withNull_withoutNull (normal : tree.Normal) :
    tree.withoutNull.withNull = tree.withNull := by
  have portionsNormal : ∀ portion ∈ [tree.properMembers, [.scalar .null]], ∀ member ∈ portion,
      member.Normal := by
    intro portion listed member present
    rcases List.mem_pair.mp listed with rfl | rfl
    · exact (normal.of_mem_properMembers present).1
    · exact List.mem_singleton.mp present ▸ .scalar .null
  have wholeProper : ∀ member ∈ tree.properMembers, member.unionMembers = [member] :=
    fun _ present => (normal.of_mem_properMembers present).2
  have members : unitedMembers (.scalar .mixed) (.scalar .never) (.scalar .null)
      (tree.properMembers ++ [.scalar .null]) =
        unitedMembers (.scalar .mixed) (.scalar .never) (.scalar .null)
          (tree.unionMembers ++ [.scalar .null]) := by
    apply unitedMembers_congr
    · rw [List.filter_append, List.filter_append, properMembers, List.filter_filter]
      congr 2
      apply List.filter_congr
      intro member _
      cases member != .scalar .null <;> cases member != .scalar .never <;> rfl
    · simp
  calc tree.withoutNull.withNull
    _ = TypeTree.unite [TypeTree.unite tree.properMembers, TypeTree.unite [.scalar .null]] := by
        rw [normal.withoutNull_eq_unite]
        rfl
    _ = TypeTree.unite (tree.properMembers ++ [.scalar .null]) := by
        have joined := unite_portions portionsNormal
        rwa [List.flatten_cons, List.flatten_singleton] at joined
    _ = TypeTree.unite (tree.unionMembers ++ [.scalar .null]) := by
        rw [unite_of_whole (whole_append_null wholeProper), members,
          unite_of_whole (whole_append_null normal.whole_members)]
    _ = tree.withNull := normal.withNull_eq_unite.symm

theorem Normal.withoutNull_withNull (normal : tree.Normal) :
    tree.withNull.withoutNull = tree.withoutNull := by
  rw [withNull, withoutNull_unite normal.pair_null, normal.withoutNull_eq_unite, properMembers]
  congr 1
  simp [unionMembers, List.filter_append]

theorem Normal.mem_withNull (normal : tree.Normal) (present : member ∈ tree.unionMembers)
    (proper : member ≠ .scalar .never) :
    ∃ other ∈ tree.withNull.unionMembers, other = member ∨ other = .scalar .mixed := by
  have neverFails :
      ¬ (TypeTree.scalar .never = member ∨ TypeTree.scalar .never = .scalar .mixed) := by
    simpa using proper.symm
  exact (exists_unionMembers_unite normal.pair_null neverFails (.inr rfl)).mpr
    ⟨tree, List.mem_cons_self, member, present, .inl rfl⟩

end TypeTree

/-! ### The relation -/

namespace Subtype

open TypeStore

variable {hierarchy : Hierarchy} {store : TypeStore} {source target member other : TypeId}

/-- What is no union is below a type that it is a member of. -/
theorem below_of_member (canonical : store.Canonical) (memberKnown : store.Contains member)
    (whole : (store.lookup member).bind Shape.unionMembers? = none)
    (targetKnown : store.Contains target) (present : other ∈ store.unionMembers target)
    (accepts : other = member ∨ other = .mixed) : Below hierarchy store 2 member target := by
  obtain ⟨shape, found⟩ := exists_lookup targetKnown
  rw [unionMembers, found] at present
  rw [below_succ_iff]
  cases shape with
  | union members =>
      have noTop : .mixed ∉ members := (canonical.normal found).1.noTop
      have isMember : other = member := accepts.resolve_right fun top => noTop (top ▸ present)
      rw [isMember] at present
      obtain ⟨memberShape, memberFound⟩ := exists_lookup memberKnown
      rw [memberFound, Option.bind_some] at whole
      have itself : Below hierarchy store 1 member member :=
        (below_succ_iff ..).mpr (.inl (.inl rfl))
      exact .inr ⟨ne_scalar_of_union canonical found .never, fun top => noTop (top ▸ present), _, _,
        memberFound, found, .unionTarget whole present itself⟩
  | _ =>
      have itself : other = target := List.mem_singleton.mp present
      rw [itself] at accepts
      exact .inl (accepts.imp Eq.symm .inl)

theorem below_of_members (canonical : store.Canonical) (sourceKnown : store.Contains source)
    (targetKnown : store.Contains target)
    (covered : ∀ member ∈ (store.tree source).unionMembers, member = .scalar .never ∨
      ∃ other ∈ (store.tree target).unionMembers, other = member ∨ other = .scalar .mixed) :
    Below hierarchy store 3 source target := by
  have each : ∀ member ∈ store.unionMembers source, Below hierarchy store 2 member target := by
    intro member present
    have memberKnown := canonical.mem_unionMembers sourceKnown present
    have isMember : store.tree member ∈ (store.tree source).unionMembers := by
      rw [canonical.unionMembers_tree sourceKnown]
      exact List.mem_map_of_mem present
    rcases covered _ isMember with bottom | ⟨otherTree, isOther, accepts⟩
    · rw [canonical.tree_eq_scalar_iff memberKnown] at bottom
      exact (below_succ_iff ..).mpr (.inl (.inr (.inr bottom)))
    · rw [canonical.unionMembers_tree targetKnown] at isOther
      obtain ⟨other, among, rfl⟩ := List.mem_map.mp isOther
      have otherKnown := canonical.mem_unionMembers targetKnown among
      rw [canonical.tree_eq_iff otherKnown memberKnown,
        canonical.tree_eq_scalar_iff otherKnown] at accepts
      exact below_of_member canonical memberKnown
        (canonical.whole_of_mem_unionMembers sourceKnown present) targetKnown among accepts
  by_cases bottom : target = .never
  · -- Only `never` is below `never`, and it is no member of a union.
    rw [bottom] at each ⊢
    obtain ⟨shape, found⟩ := exists_lookup sourceKnown
    rw [unionMembers, found] at each
    cases shape with
    | union members =>
        have form := (canonical.normal found).1
        obtain ⟨first, present⟩ :=
          List.exists_mem_of_length_pos (Nat.lt_of_lt_of_le Nat.zero_lt_two form.several)
        exact absurd (eq_never_of_below_never (each first present) ▸ present) form.noBottom
    | _ => exact (each source (List.mem_singleton_self source)).deeper (by omega)
  · exact below_of_unionMembers canonical sourceKnown targetKnown bottom each

theorem relate_of_members (canonical : store.Canonical) (sourceKnown : store.Contains source)
    (targetKnown : store.Contains target)
    (covered : ∀ member ∈ (store.tree source).unionMembers, member = .scalar .never ∨
      ∃ other ∈ (store.tree target).unionMembers, other = member ∨ other = .scalar .mixed) :
    (relate store hierarchy source target).verdict = .yes := by
  have few : Below hierarchy store 3 source target :=
    below_of_members canonical sourceKnown targetKnown covered
  have enough : Below hierarchy store levelLimit source target := few.deeper (by decide)
  exact enough

theorem relate_withoutNull (canonical : store.Canonical) (sourceKnown : store.Contains source)
    (targetKnown : store.Contains target)
    (removed : store.tree source = (store.tree target).withoutNull) :
    (relate store hierarchy source target).verdict = .yes := by
  apply relate_of_members canonical sourceKnown targetKnown
  rw [removed]
  intro member present
  have remains := (canonical.tree_normal targetKnown).mem_of_withoutNull present
  exact remains.imp_right fun among => ⟨member, among, .inl rfl⟩

theorem relate_withNull (canonical : store.Canonical) (sourceKnown : store.Contains source)
    (targetKnown : store.Contains target)
    (added : store.tree target = (store.tree source).withNull) :
    (relate store hierarchy source target).verdict = .yes := by
  apply relate_of_members canonical sourceKnown targetKnown
  rw [added]
  intro member present
  by_cases bottom : member = .scalar .never
  · exact .inl bottom
  · exact .inr ((canonical.tree_normal sourceKnown).mem_withNull present bottom)

end Subtype

open Building TypeStore

variable {store : TypeStore} {returned : List TypeId}

/-- Without null a type is not nullable, and with null it is, unless it is all values. Of adding
null and removing it only the last one counts, whichever was done before, and neither changes a type
that has null or does not have it already. A type is below what it is with null, and above what is
left of it without. -/
theorem Reached.null_retraction (reached : Reached store returned) {id : TypeId}
    (known : store.Contains id) :
    let bare := (removeNull id).run store
    let nullable := (addNull id).run store
    bare.2.isNullable bare.1 = false ∧
      (nullable.2.isNullable nullable.1 = true ↔ id ≠ .mixed) ∧
      SameType (do addNull (← removeNull id)) (addNull id) store ∧
      SameType (do removeNull (← addNull id)) (removeNull id) store ∧
      (store.isNullable id = true → SameType (addNull id) (pure id) store) ∧
      (store.isNullable id = false → SameType (removeNull id) (pure id) store) ∧
      ∀ hierarchy, (relate bare.2 hierarchy bare.1 id).verdict = .yes ∧
        (relate nullable.2 hierarchy id nullable.1).verdict = .yes := by
  have canonical := reached.canonical
  have normal := canonical.tree_normal known
  have bareMade := computes_removeNull.keepsMaking canonical known
  have nullableMade := computes_addNull.keepsMaking canonical known
  have kept := computes_pure.keepsMaking canonical known
  obtain ⟨bareContinues, bareKnown, bareTree⟩ := removeNull_makes canonical known
  obtain ⟨nullableContinues, nullableKnown, nullableTree⟩ := addNull_makes canonical known
  intro bare nullable
  refine ⟨?_, ?_, ?_, ?_, ?_, ?_, fun hierarchy => ⟨?_, ?_⟩⟩
  · rw [bareContinues.canonical.isNullable_tree bareKnown, bareTree]
    exact normal.not_isNullable_withoutNull
  · rw [nullableContinues.canonical.isNullable_tree nullableKnown, nullableTree,
      normal.isNullable_withNull_iff, ← not_iff_not, not_not, not_not]
    exact canonical.tree_eq_scalar_iff known
  · have again := computes_addNull.bind bareMade
    rw [normal.withNull_withoutNull] at again
    exact again.sameType nullableMade canonical
  · have again := computes_removeNull.bind nullableMade
    rw [normal.withoutNull_withNull] at again
    exact again.sameType bareMade canonical
  · intro hasNull
    rw [canonical.isNullable_tree known] at hasNull
    rw [normal.withNull_of_isNullable hasNull] at nullableMade
    exact nullableMade.sameType kept canonical
  · intro proper
    rw [canonical.isNullable_tree known] at proper
    rw [normal.withoutNull_eq proper] at bareMade
    exact bareMade.sameType kept canonical
  · apply Subtype.relate_withoutNull bareContinues.canonical bareKnown
      (bareContinues.grows.contains known)
    rw [bareTree, canonical.tree_later bareContinues.grows known]
  · apply Subtype.relate_withNull nullableContinues.canonical
      (nullableContinues.grows.contains known) nullableKnown
    rw [nullableTree, canonical.tree_later nullableContinues.grows known]

/-- `Book|null` without null is `Book`, from which null makes `Book|null` again. -/
theorem null_retraction_bookStore :
    let again : Building TypeId := do addNull (← removeNull ⟨9⟩)
    bookStore.isNullable ⟨9⟩ = true ∧
      ((removeNull ⟨9⟩).run bookStore).1 = ⟨7⟩ ∧ bookStore.isNullable ⟨7⟩ = false ∧
      (again.run ((addNull ⟨9⟩).run bookStore).2).1 = ⟨9⟩ ∧
      (relate bookStore .empty ⟨7⟩ ⟨9⟩).verdict = .yes := by
  have known : bookStore.Contains ⟨9⟩ := by
    have size : bookStore.size = 10 := by decide +kernel
    rw [Contains, size]
    decide
  have nullable : bookStore.isNullable ⟨9⟩ = true := by decide +kernel
  have removed : ((removeNull ⟨9⟩).run bookStore).1 = ⟨7⟩ := by decide +kernel
  have unchanged : ((removeNull ⟨9⟩).run bookStore).2 = bookStore := by decide +kernel
  obtain ⟨proper, _, last, _, kept, _, below⟩ := reached_bookStore.null_retraction known
  have onceMore := last.before _ last.otherContinues.canonical.continuesTo_refl
  have same := (kept nullable).at_once
  rw [removed, unchanged] at proper below
  exact ⟨nullable, removed, proper, onceMore.trans same.symm, (below .empty).1⟩

end AssociationCheck
