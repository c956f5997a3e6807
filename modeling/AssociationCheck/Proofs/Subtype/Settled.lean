/-
Settled answers.

An answer is settled once a law decides it for every greater number of levels. Classes without
arguments settle at the first level: a class is definitely below such a class exactly when it is
that class or derives from it.
-/

import AssociationCheck.Proofs.Hierarchy.Ancestry
import AssociationCheck.Proofs.Subtype.Definite
import AssociationCheck.Proofs.Types.Nullable

namespace AssociationCheck.Subtype

open TypeStore

/-- Within a number of levels, and within any more, the answer is a yes exactly where the law
holds. -/
def Settles (hierarchy : Hierarchy) (store : TypeStore) (depth : Nat) (source target : TypeId)
    (law : Prop) : Prop :=
  ∀ levels, depth ≤ levels → (Below hierarchy store levels source target ↔ law)

variable {hierarchy : Hierarchy} {store : TypeStore} {source target base : TypeId}
  {sourceShape targetShape : Shape} {depth : Nat} {law otherLaw : Prop}

theorem Settles.deeper {more : Nat} (settles : Settles hierarchy store depth source target law)
    (further : depth ≤ more) : Settles hierarchy store more source target law :=
  fun levels enough => settles levels (Nat.le_trans further enough)

theorem settles_succ (next : ∀ levels, depth ≤ levels →
    (Below hierarchy store (levels + 1) source target ↔ law)) :
    Settles hierarchy store (depth + 1) source target law := by
  intro levels enough
  obtain ⟨below, rfl⟩ : ∃ below, levels = below + 1 := ⟨levels - 1, by omega⟩
  exact next below (by omega)

theorem Settles.isSubtype_eq [Decidable law]
    (settles : Settles hierarchy store depth source target law) (enough : depth ≤ levelLimit) :
    isSubtype store hierarchy source target = decide law := by
  rw [Bool.eq_iff_iff, isSubtype_iff_below, decide_eq_true_iff]
  exact settles levelLimit enough

def NeverBelow (hierarchy : Hierarchy) (store : TypeStore) (source target : TypeId) : Prop :=
  ∀ levels, ¬ Below hierarchy store levels source target

theorem NeverBelow.settles (never : NeverBelow hierarchy store source target) :
    Settles hierarchy store depth source target False :=
  fun levels _ => iff_false_intro (never levels)

theorem neverBelow_succ (next : ∀ levels, ¬ Below hierarchy store (levels + 1) source target) :
    NeverBelow hierarchy store source target := by
  intro levels
  cases levels with
  | zero => exact not_below_zero _ _ _ _
  | succ levels => exact next levels

/-- Neither built in nor made of members. -/
def IsAtomic (shape : Shape) : Prop := shape.isPlain = true ∧ shape.members? = none

theorem isAtomic_object (name : String) (arguments : List TypeId) :
    IsAtomic (.object name arguments) := ⟨rfl, rfl⟩

theorem isAtomic_iterable (key value : TypeId) : IsAtomic (.iterable key value) := ⟨rfl, rfl⟩

theorem isAtomic_array (key value : TypeId) : IsAtomic (.array key value) := ⟨rfl, rfl⟩

theorem IsAtomic.composed {shape : Shape} (atomic : IsAtomic shape) (kind : Scalar) :
    shape ≠ .scalar kind := by
  rintro rfl
  cases atomic.1

theorem below_refl (levels : Nat) (id : TypeId) : Below hierarchy store (levels + 1) id id :=
  (below_succ_iff ..).mpr (Or.inl (Or.inl rfl))

/-- Between types that are not built in, either the two are one type or their shapes give the
reason. -/
theorem below_iff_of_lookup (standard : initial.GrowsTo store) (levels : Nat)
    (sourceFound : store.lookup source = some sourceShape)
    (targetFound : store.lookup target = some targetShape)
    (sourceComposed : ∀ kind, sourceShape ≠ .scalar kind)
    (targetComposed : ∀ kind, targetShape ≠ .scalar kind) :
    Below hierarchy store (levels + 1) source target ↔
      source = target ∨ Definite hierarchy (Below hierarchy store levels) source target
        sourceShape targetShape := by
  have sourceApart (kind : Scalar) : source ≠ kind.id :=
    ne_of_lookup sourceFound (lookup_scalar standard kind) (sourceComposed kind)
  have targetApart (kind : Scalar) : target ≠ kind.id :=
    ne_of_lookup targetFound (lookup_scalar standard kind) (targetComposed kind)
  rw [below_succ_iff]
  constructor
  · rintro ((same | top | bottom) | ⟨-, -, first, second, firstFound, secondFound, reason⟩)
    · exact Or.inl same
    · exact absurd top (targetApart .mixed)
    · exact absurd bottom (sourceApart .never)
    · rw [lookup_unique sourceFound firstFound, lookup_unique targetFound secondFound]
      exact Or.inr reason
  · rintro (same | reason)
    · exact Or.inl (Or.inl same)
    · exact Or.inr ⟨targetApart .never, sourceApart .mixed, _, _, sourceFound, targetFound, reason⟩

theorem below_atomic_iff (standard : initial.GrowsTo store) (levels : Nat)
    (sourceFound : store.lookup source = some sourceShape)
    (targetFound : store.lookup target = some targetShape)
    (sourceAtomic : IsAtomic sourceShape) (targetAtomic : IsAtomic targetShape) :
    Below hierarchy store (levels + 1) source target ↔
      source = target ∨
        DefiniteAtomic hierarchy (Below hierarchy store levels) sourceShape targetShape := by
  rw [below_iff_of_lookup standard levels sourceFound targetFound
    sourceAtomic.composed targetAtomic.composed]
  apply or_congr_right
  constructor
  · intro reason
    cases reason with
    | unionSource => cases sourceAtomic.2
    | unionTarget => cases targetAtomic.2
    | intersectionTarget => cases targetAtomic.2
    | intersectionSource => cases sourceAtomic.2
    | atomic reason => exact reason
  · exact .atomic

/-! ### Classes -/

/-- Arguments of the source do not matter where the target has none. -/
theorem settles_class (hierarchy : Hierarchy) (standard : initial.GrowsTo store)
    {sourceName targetName : String} {arguments : List TypeId}
    (sourceFound : store.lookup source = some (.object sourceName arguments))
    (targetFound : store.lookup target = some (.object targetName [])) :
    Settles hierarchy store 1 source target
      (hierarchy.isSameOrDerived sourceName targetName = true) := by
  refine settles_succ (fun levels _ => ?_)
  rw [below_atomic_iff standard levels sourceFound targetFound (isAtomic_object _ _)
    (isAtomic_object _ _)]
  constructor
  · rintro (same | reason)
    · rw [same] at sourceFound
      cases lookup_unique sourceFound targetFound
      exact Hierarchy.isSameOrDerived_refl _
    · cases reason with
      | object derived _ _ => exact derived
  · intro derived
    refine Or.inr (.object derived (Or.inr (Or.inl rfl)) ?_)
    simp [argumentPairs]

theorem mixed_neverBelow (standard : initial.GrowsTo store)
    (targetFound : store.lookup target = some targetShape)
    (targetComposed : ∀ kind, targetShape ≠ .scalar kind) :
    NeverBelow hierarchy store .mixed target := by
  have top : target ≠ .mixed :=
    ne_of_lookup targetFound (lookup_scalar standard .mixed) (targetComposed .mixed)
  apply neverBelow_succ
  intro levels
  rw [below_succ_iff]
  rintro ((same | same | same) | ⟨-, impossible, -⟩)
  · exact top same.symm
  · exact top same
  · cases same
  · exact impossible rfl

end AssociationCheck.Subtype
