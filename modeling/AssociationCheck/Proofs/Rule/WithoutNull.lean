/-
A type without its null.

Where null is tolerated, a declared type has to fit the database without its null. Removing null
from a union may leave one member or none, which is compared by other rules and on another level.
Still, what is left is below everything without null that the type was below, on the same level.
-/

import AssociationCheck.Proofs.Rule.ComparedForms
import AssociationCheck.Proofs.Subtype.Transitivity

namespace AssociationCheck

/-! ### Trees -/

namespace TypeTree

variable {tree member : TypeTree}

theorem Normal.withoutNull_eq (normal : tree.Normal) (proper : tree.isNullable = false) :
    tree.withoutNull = tree := by
  cases normal with
  | @union members form whole each =>
      have noNull : TypeTree.scalar .null ∉ members := by
        intro present
        rw [isNullable, unionMembers, List.contains_iff_mem.mpr present, Bool.or_true] at proper
        cases proper
      have kept : members.filter (fun member => member != .scalar .null) = members := by
        rw [List.filter_eq_self]
        intro member present
        rw [bne_iff_ne]
        exact fun isNull => noNull (isNull ▸ present)
      rw [TypeTree.withoutNull, kept, unite_members form whole]
  | scalar kind =>
      cases kind with
      | null => cases proper
      | _ => rfl
  | _ => rfl

/-- What is left of a tree without its null are members of it, if anything is left. -/
theorem Normal.mem_of_withoutNull (normal : tree.Normal)
    (present : member ∈ tree.withoutNull.unionMembers) :
    member = .scalar .never ∨ member ∈ tree.unionMembers := by
  cases normal with
  | @union members form whole each =>
      have kept : ∀ member ∈ members.filter (fun member => member != .scalar .null),
          member.Normal := fun member present => each member (List.mem_of_mem_filter present)
      let remains (tree : TypeTree) : Prop := tree = .scalar .never ∨ tree ∈ members
      have mixedDecides : remains (.scalar .mixed) → ∀ tree, remains tree := by
        rintro (impossible | absorbing)
        · cases impossible
        · exact absurd absorbing form.noTop
      have neverRemains : remains (.scalar .never) := .inl rfl
      refine (forall_unionMembers_unite kept neverRemains mixedDecides).mpr ?_ member present
      intro inner isKept part among
      have isMember := List.mem_of_mem_filter isKept
      rw [whole inner isMember, List.mem_singleton] at among
      exact .inr (among ▸ isMember)
  | scalar kind =>
      cases kind with
      | null => exact .inl (List.mem_singleton.mp present)
      | _ => exact .inr present
  | _ => exact .inr present

end TypeTree

/-! ### The relation -/

namespace TypeStore

variable {store : TypeStore} {id : TypeId}

theorem ne_scalar_of_union (canonical : store.Canonical) {members : List TypeId}
    (found : store.lookup id = some (.union members)) (kind : Scalar) : id ≠ kind.id :=
  ne_of_lookup found (lookup_scalar canonical.standard kind) (by simp)

theorem null_of_isNullable (nullable : store.isNullable id = true) :
    id = .null ∨ ∃ members, store.lookup id = some (.union members) ∧ .null ∈ members := by
  rw [isNullable, Bool.or_eq_true, beq_iff_eq, List.contains_iff_mem, unionMembers] at nullable
  rcases nullable with isNull | present
  · exact .inl isNull
  · split at present
    · rename_i members found
      exact .inr ⟨members, found, present⟩
    · exact .inl (List.mem_singleton.mp present).symm

end TypeStore

namespace Subtype

open TypeStore

variable {hierarchy : Hierarchy} {store : TypeStore} {levels : Nat}
  {source declared stored target : TypeId}

theorem below_of_unionMembers (canonical : store.Canonical) (sourceKnown : store.Contains source)
    (targetKnown : store.Contains target) (notBottom : target ≠ .never)
    (each : ∀ member ∈ store.unionMembers source, Below hierarchy store levels member target) :
    Below hierarchy store (levels + 1) source target := by
  obtain ⟨shape, found⟩ := exists_lookup sourceKnown
  obtain ⟨targetShape, targetFound⟩ := exists_lookup targetKnown
  rw [unionMembers, found] at each
  cases shape with
  | union members =>
      have notTop : source ≠ .mixed := ne_scalar_of_union canonical found .mixed
      exact (below_succ_iff ..).mpr
        (.inr ⟨notBottom, notTop, _, _, found, targetFound, .unionSource each⟩)
  | _ => exact (each source (List.mem_singleton_self source)).deeper (Nat.le_succ levels)

theorem each_below_of_union (canonical : store.Canonical) {members : List TypeId}
    (found : store.lookup source = some (.union members)) (apart : source ≠ target)
    (notTop : target ≠ .mixed) (yes : Below hierarchy store (levels + 1) source target) :
    ∀ member ∈ members, Below hierarchy store levels member target := by
  rcases (below_succ_iff ..).mp yes with (same | top | bottom) | ⟨_, _, _, _, foundHere, _, reason⟩
  · exact absurd same apart
  · exact absurd top notTop
  · exact absurd bottom (ne_scalar_of_union canonical found .never)
  · rw [found] at foundHere
    obtain rfl := Option.some.inj foundHere
    exact reason.each_of_union

section WithoutNull

variable (canonical : store.Canonical) (declaredKnown : store.Contains declared)
  (storedKnown : store.Contains stored) (targetKnown : store.Contains target)
  (removed : store.tree stored = (store.tree declared).withoutNull)
include canonical declaredKnown storedKnown targetKnown removed

theorem below_withoutNull_of_union {members : List TypeId}
    (found : store.lookup declared = some (.union members)) (hasNull : .null ∈ members)
    (notBottom : target ≠ .never)
    (each : ∀ member ∈ members, Below hierarchy store levels member target) :
    Below hierarchy store (levels + 1) stored target := by
  -- Null was asked on this level, so it is not the last one, on which even `never` is a maybe.
  have enough : levels ≠ 0 := by
    rintro rfl
    exact not_below_zero _ _ _ _ (each .null hasNull)
  apply below_of_unionMembers canonical storedKnown targetKnown notBottom
  intro member present
  have memberKnown := canonical.mem_unionMembers storedKnown present
  have isLeft : store.tree member ∈ (store.tree declared).withoutNull.unionMembers := by
    rw [← removed, canonical.unionMembers_tree storedKnown]
    exact List.mem_map_of_mem present
  rcases (canonical.tree_normal declaredKnown).mem_of_withoutNull isLeft with isNever | among
  · rw [canonical.tree_eq_scalar_iff memberKnown] at isNever
    obtain ⟨fewer, rfl⟩ := Nat.exists_eq_succ_of_ne_zero enough
    exact (below_succ_iff ..).mpr (.inl (.inr (.inr isNever)))
  · rw [canonical.unionMembers_tree declaredKnown, unionMembers, found] at among
    obtain ⟨other, isMember, same⟩ := List.mem_map.mp among
    rw [← canonical.eq_of_tree_eq (canonical.contains_part found isMember) memberKnown same]
    exact each other isMember

/-- What is left of a type without its null is below everything without null that the type is
below, within the same number of levels. -/
theorem Below.withoutNull (proper : store.isNullable target = false)
    (yes : Below hierarchy store levels declared target) :
    Below hierarchy store levels stored target := by
  cases levels with
  | zero => exact absurd yes (not_below_zero _ _ _ _)
  | succ levels =>
      by_cases nullable : store.isNullable declared = true
      · rcases null_of_isNullable nullable with isNull | ⟨members, found, hasNull⟩
        · rw [isNull, canonical.tree_null, TypeTree.withoutNull,
            canonical.tree_eq_scalar_iff storedKnown] at removed
          exact (below_succ_iff ..).mpr (.inl (.inr (.inr removed)))
        · by_cases top : target = .mixed
          · rw [top]
            exact below_mixed levels stored
          · have apart : declared ≠ target := by
              rintro rfl
              rw [nullable] at proper
              cases proper
            have notBottom : target ≠ .never := by
              rintro rfl
              exact ne_scalar_of_union canonical found .never (eq_never_of_below_never yes)
            exact below_withoutNull_of_union canonical declaredKnown storedKnown targetKnown removed
              found hasNull notBottom (each_below_of_union canonical found apart top yes)
      · rw [Bool.not_eq_true, canonical.isNullable_tree declaredKnown] at nullable
        rw [(canonical.tree_normal declaredKnown).withoutNull_eq nullable] at removed
        rw [canonical.eq_of_tree_eq storedKnown declaredKnown removed]
        exact yes

end WithoutNull

end Subtype

end AssociationCheck
