/-
Definite answers on types with null.

Null adds to a target nothing that another type could use, and asks of a target that it takes
null.
-/

import AssociationCheck.Proofs.Subtype.Settled

namespace AssociationCheck.Subtype

open TypeStore

variable {hierarchy : Hierarchy} {store : TypeStore} {source target base : TypeId}
  {sourceShape targetShape : Shape} {depth : Nat} {law otherLaw : Prop}

/-! ### Null -/

theorem neverBelow_null (standard : initial.GrowsTo store)
    (sourceFound : store.lookup source = some sourceShape) (plain : sourceShape.isPlain = true)
    (members : ∀ ids, sourceShape = .intersection ids →
      ∀ id ∈ ids, NeverBelow hierarchy store id .null) :
    NeverBelow hierarchy store source .null := by
  have nullFound : store.lookup .null = some (.scalar .null) := lookup_scalar standard .null
  have apart := ne_scalar_of_lookup standard sourceFound plain
  apply neverBelow_succ
  intro levels
  rw [below_succ_iff]
  rintro ((same | top | bottom) | ⟨-, -, first, second, firstFound, secondFound, reason⟩)
  · exact apart .null same
  · cases top
  · exact apart .never bottom
  · cases lookup_unique sourceFound firstFound
    cases lookup_unique nullFound secondFound
    cases reason with
    | unionSource => cases plain
    | intersectionSource _ present relates => exact members _ rfl _ present levels relates
    | atomic reason => cases reason

theorem null_neverBelow (standard : initial.GrowsTo store)
    (targetFound : store.lookup target = some targetShape) (plain : targetShape.isPlain = true)
    (members : ∀ ids, targetShape = .intersection ids →
      ∃ id ∈ ids, NeverBelow hierarchy store .null id) :
    NeverBelow hierarchy store .null target := by
  have nullFound : store.lookup .null = some (.scalar .null) := lookup_scalar standard .null
  have apart := ne_scalar_of_lookup standard targetFound plain
  apply neverBelow_succ
  intro levels
  rw [below_succ_iff]
  rintro ((same | top | bottom) | ⟨-, -, first, second, firstFound, secondFound, reason⟩)
  · exact apart .null same.symm
  · exact apart .mixed top
  · cases bottom
  · cases lookup_unique nullFound firstFound
    cases lookup_unique targetFound secondFound
    cases reason with
    | unionTarget => cases plain
    | intersectionTarget _ each =>
        obtain ⟨id, present, never⟩ := members _ rfl
        exact never levels (each id present)
    | atomic reason => cases reason

theorem class_neverBelow_null (standard : initial.GrowsTo store) {name : String}
    {arguments : List TypeId} (sourceFound : store.lookup source = some (.object name arguments)) :
    NeverBelow hierarchy store source .null :=
  neverBelow_null standard sourceFound rfl (by simp)

theorem null_neverBelow_class (standard : initial.GrowsTo store) {name : String}
    {arguments : List TypeId} (targetFound : store.lookup target = some (.object name arguments)) :
    NeverBelow hierarchy store .null target :=
  null_neverBelow standard targetFound rfl (by simp)

/-- A type that null is not part of has no use for null in a target. -/
theorem Settles.orNull_target (settles : Settles hierarchy store depth source base law)
    (standard : initial.GrowsTo store) (sourceFound : store.lookup source = some sourceShape)
    (plain : sourceShape.isPlain = true)
    (noNull : NeverBelow hierarchy store source .null) {nullable : Bool}
    (written : store.OrNull nullable base target) :
    Settles hierarchy store (depth + 1) source target law := by
  cases nullable with
  | false =>
      have same : target = base := written
      rw [same]
      exact settles.deeper (Nat.le_succ depth)
  | true =>
      have targetFound : store.lookup target = some (.union [base, .null]) := written
      refine settles_succ (fun levels enough => ?_)
      rw [below_iff_of_lookup standard levels sourceFound targetFound
        (by rintro kind rfl; cases plain) (by simp), ← settles levels enough]
      constructor
      · rintro (same | reason)
        · rw [same] at sourceFound
          cases lookup_unique sourceFound targetFound
          cases plain
        · cases reason with
          | unionSource => cases plain
          | unionTarget _ present accepts =>
              rcases List.mem_cons.mp present with rfl | isNull
              · exact accepts
              · rw [List.mem_singleton.mp isNull] at accepts
                exact absurd accepts (noNull levels)
          | intersectionSource whole _ _ => cases whole
          | atomic reason => cases reason
      · intro accepts
        exact Or.inr (.unionTarget (unionMembers?_of_isPlain plain) List.mem_cons_self accepts)

/-- A source with null needs a target that takes null. -/
theorem Settles.orNull_source (settles : Settles hierarchy store depth base target law)
    (nullSettles : Settles hierarchy store depth .null target otherLaw)
    (standard : initial.GrowsTo store) (targetFound : store.lookup target = some targetShape)
    (composed : ∀ kind, targetShape ≠ .scalar kind) {nullable : Bool}
    (written : store.OrNull nullable base source)
    (atSame : source = target → nullable = true → law ∧ otherLaw) :
    Settles hierarchy store (depth + 1) source target (law ∧ (nullable = true → otherLaw)) := by
  cases nullable with
  | false =>
      have same : source = base := written
      rw [same]
      simpa using settles.deeper (Nat.le_succ depth)
  | true =>
      have sourceFound : store.lookup source = some (.union [base, .null]) := written
      refine settles_succ (fun levels enough => ?_)
      rw [below_iff_of_lookup standard levels sourceFound targetFound (by simp) composed,
        ← settles levels enough, ← nullSettles levels enough]
      constructor
      · rintro (same | reason)
        · obtain ⟨holds, otherHolds⟩ := atSame same rfl
          exact ⟨(settles levels enough).mpr holds,
            fun _ => (nullSettles levels enough).mpr otherHolds⟩
        · cases reason with
          | unionSource each =>
              exact ⟨each base List.mem_cons_self, fun _ => each .null (by simp)⟩
          | unionTarget whole _ _ => cases whole
          | intersectionTarget whole _ => cases whole
          | atomic reason => cases reason
      · rintro ⟨holds, otherHolds⟩
        refine Or.inr (.unionSource ?_)
        intro member present
        rcases List.mem_cons.mp present with rfl | isNull
        · exact holds
        · rw [List.mem_singleton.mp isNull]
          exact otherHolds rfl

theorem settles_null_orNull (hierarchy : Hierarchy) (standard : initial.GrowsTo store)
    {name : String} {arguments : List TypeId}
    (baseFound : store.lookup base = some (.object name arguments)) {nullable : Bool}
    (written : store.OrNull nullable base target) :
    Settles hierarchy store 2 .null target (nullable = true) := by
  intro levels enough
  cases nullable with
  | false =>
      have same : target = base := written
      rw [same]
      simpa using null_neverBelow_class standard baseFound levels
  | true =>
      have targetFound : store.lookup target = some (.union [base, .null]) := written
      have nullFound : store.lookup .null = some (.scalar .null) := lookup_scalar standard .null
      have apart : target ≠ .never :=
        ne_of_lookup targetFound (lookup_scalar standard .never) (by simp)
      obtain ⟨below, rfl⟩ : ∃ below, levels = below + 2 := ⟨levels - 2, by omega⟩
      simp only [iff_true]
      refine (below_succ_iff ..).mpr (Or.inr ⟨apart, by decide, _, _, nullFound, targetFound, ?_⟩)
      exact .unionTarget rfl (by simp) (below_refl below .null)

/-- Classes, each with or without null: the one is the other or derives from it, and where it has
null so has the other. -/
theorem settles_classOrNull (hierarchy : Hierarchy) (standard : initial.GrowsTo store)
    {sourceName targetName : String} {sourceBase targetBase : TypeId} {sourceNull targetNull : Bool}
    (sourceFound : store.lookup sourceBase = some (.object sourceName []))
    (targetFound : store.lookup targetBase = some (.object targetName []))
    (sourceWritten : store.OrNull sourceNull sourceBase source)
    (targetWritten : store.OrNull targetNull targetBase target) :
    Settles hierarchy store 3 source target
      (hierarchy.isSameOrDerived sourceName targetName = true ∧
        (sourceNull = true → targetNull = true)) := by
  have bases := (settles_class hierarchy standard sourceFound targetFound).orNull_target
    standard sourceFound rfl
    (class_neverBelow_null standard sourceFound) targetWritten
  have nulls := settles_null_orNull hierarchy standard targetFound targetWritten
  have atSame : source = target → sourceNull = true →
      hierarchy.isSameOrDerived sourceName targetName = true ∧ targetNull = true := by
    rintro rfl rfl
    have found : store.lookup source = some (.union [sourceBase, .null]) := sourceWritten
    cases targetNull with
    | false =>
        have same : source = targetBase := targetWritten
        rw [same] at found
        cases lookup_unique found targetFound
    | true =>
        cases lookup_unique found targetWritten
        cases lookup_unique sourceFound targetFound
        exact ⟨Hierarchy.isSameOrDerived_refl _, rfl⟩
  obtain ⟨targetShape, shapeFound, composed⟩ :
      ∃ shape, store.lookup target = some shape ∧ ∀ kind, shape ≠ .scalar kind := by
    cases targetNull with
    | false =>
        have same : target = targetBase := targetWritten
        exact ⟨_, same ▸ targetFound, by simp⟩
    | true => exact ⟨_, targetWritten, by simp⟩
  exact bases.orNull_source nulls standard shapeFound composed sourceWritten atSame

end AssociationCheck.Subtype
