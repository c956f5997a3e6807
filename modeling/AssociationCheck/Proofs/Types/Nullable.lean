/-
Types with null.

A type that is neither built in nor a union is taken into a union with null as it is, and comes
out of it as it was.
-/

import AssociationCheck.Proofs.Types.WellFormed

namespace AssociationCheck

def Shape.isPlain : Shape → Bool
  | scalar _ => false
  | union _ => false
  | _ => true

namespace TypeStore

open Building

variable {store later : TypeStore} {base id : TypeId} {shape : Shape}

/-- The second type is the first one, with null if that is asked for. -/
def OrNull (store : TypeStore) (nullable : Bool) (base id : TypeId) : Prop :=
  if nullable then store.lookup id = some (.union [base, .null]) else id = base

theorem OrNull.grow {nullable : Bool} (written : store.OrNull nullable base id)
    (grows : store.GrowsTo later) : later.OrNull nullable base id := by
  cases nullable with
  | false => exact written
  | true => exact grows written

theorem ne_scalar_of_lookup (standard : initial.GrowsTo store)
    (found : store.lookup id = some shape) (plain : shape.isPlain = true) (kind : Scalar) :
    id ≠ kind.id := by
  apply ne_of_lookup found (lookup_scalar standard kind)
  rintro rfl
  cases plain

theorem flatten_whole {members? : Shape → Option (List TypeId)}
    (whole : (store.lookup id).bind members? = none) (levels : Nat) :
    store.flatten members? levels id = [id] := by
  cases levels with
  | zero => rfl
  | succ levels => rw [flatten, whole]

theorem unionMembers?_of_isPlain (plain : shape.isPlain = true) : shape.unionMembers? = none := by
  cases shape <;> first | rfl | cases plain

theorem unionLeaves_pair (standard : initial.GrowsTo store) (found : store.lookup base = some shape)
    (plain : shape.isPlain = true) : store.unionLeaves [base, .null] = [base, .null] := by
  have nullFound : store.lookup .null = some (.scalar .null) := lookup_scalar standard .null
  have baseWhole : (store.lookup base).bind Shape.unionMembers? = none := by
    rw [found]
    exact unionMembers?_of_isPlain plain
  have nullWhole : (store.lookup .null).bind Shape.unionMembers? = none := by
    rw [nullFound]
    rfl
  rw [unionLeaves, List.flatMap_cons, List.flatMap_cons, flatten_whole baseWhole,
    flatten_whole nullWhole]
  rfl

theorem normalizeUnion_pair (standard : initial.GrowsTo store)
    (found : store.lookup base = some shape) (plain : shape.isPlain = true) :
    store.normalizeUnion [base, .null] = .stored (.union [base, .null]) := by
  have leaves := unionLeaves_pair standard found plain
  have apart := ne_scalar_of_lookup standard found plain
  have notNull : base ≠ .null := apart .null
  have notNever : base ≠ .never := apart .never
  have notMixed : base ≠ .mixed := apart .mixed
  have once : [base].eraseDups = [base] := rfl
  rw [unionLeaves] at leaves
  simp [normalizeUnion, leaves, notNull, notNever, once, Ne.symm notMixed]

theorem normalizeUnion_single (standard : initial.GrowsTo store)
    (found : store.lookup base = some shape) (plain : shape.isPlain = true) :
    store.normalizeUnion [base] = .known base := by
  have baseWhole : (store.lookup base).bind Shape.unionMembers? = none := by
    rw [found]
    exact unionMembers?_of_isPlain plain
  have apart := ne_scalar_of_lookup standard found plain
  have notNull : base ≠ .null := apart .null
  have notNever : base ≠ .never := apart .never
  have notMixed : base ≠ .mixed := apart .mixed
  have once : [base].eraseDups = [base] := rfl
  simp [normalizeUnion, flatten_whole baseWhole, notNull, notNever, once, Ne.symm notNull,
    Ne.symm notMixed]

theorem addNull_ensures (standard : initial.GrowsTo store) (found : store.lookup base = some shape)
    (plain : shape.isPlain = true) :
    Ensures (addNull base) store
      (fun id later => store.GrowsTo later ∧ later.OrNull true base id) := by
  apply ensures_get_bind
  rw [normalizeUnion_pair standard found plain]
  exact intern_ensures (.union [base, .null]) store

/-- Without null a plain type is what it was before null was added, and nothing is stored. -/
theorem removeNull_run (standard : initial.GrowsTo store) (found : store.lookup base = some shape)
    (plain : shape.isPlain = true) {nullable : Bool} (written : store.OrNull nullable base id) :
    (removeNull id).run store = (base, store) := by
  have apart := ne_scalar_of_lookup standard found plain
  have notNull : base ≠ .null := apart .null
  cases nullable with
  | false =>
      have same : id = base := written
      rw [same, removeNull, if_neg notNull, run_get_bind, found]
      cases shape <;> first | rfl | cases plain
  | true =>
      have idFound : store.lookup id = some (.union [base, .null]) := written
      have idNotNull : id ≠ .null :=
        ne_of_lookup idFound (lookup_scalar standard .null) (by simp)
      have kept : [base, TypeId.null].filter (fun member => member != .null) = [base] := by
        simp [notNull]
      rw [removeNull, if_neg idNotNull, run_get_bind, idFound]
      simp only [kept]
      rw [union, run_get_bind, normalizeUnion_single standard found plain]
      rfl

theorem isNullable_orNull (standard : initial.GrowsTo store)
    (found : store.lookup base = some shape) (plain : shape.isPlain = true) {nullable : Bool}
    (written : store.OrNull nullable base id) : store.isNullable id = nullable := by
  have notNull : base ≠ .null := ne_scalar_of_lookup standard found plain .null
  cases nullable with
  | false =>
      have same : id = base := written
      have alone : store.unionMembers base = [base] := by
        rw [unionMembers, found]
        cases shape <;> first | rfl | cases plain
      simp [same, isNullable, alone, notNull, Ne.symm notNull]
  | true =>
      have idFound : store.lookup id = some (.union [base, .null]) := written
      simp [isNullable, unionMembers, idFound]

end TypeStore

end AssociationCheck
