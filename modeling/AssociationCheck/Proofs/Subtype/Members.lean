/-
How unions and intersections fit.

A union fits where all of its members do, and an undivided tree is fitted by an intersection where
some member fits it. Joining trees in normal form changes nothing of this, since what it leaves out
or absorbs decides nothing.
-/

import AssociationCheck.Proofs.Subtype.Fits

namespace AssociationCheck.TypeTree

variable {hierarchy : Hierarchy} {source target tree : TypeTree} {members trees : List TypeTree}

/-! ### The extremes -/

theorem fits_never_iff : source.Fits hierarchy (.scalar .never) ↔ source = .scalar .never := by
  constructor
  · intro fits
    cases fits with
    | refl | bottom => rfl
    | unionSource proper | intersectionSource proper => exact absurd rfl proper
  · intro isNever
    exact isNever ▸ .refl _

theorem mixed_fits_iff : Fits hierarchy (.scalar .mixed) target ↔ target = .scalar .mixed := by
  constructor
  · intro fits
    cases fits with
    | refl | top => rfl
    | unionTarget proper | intersectionTarget proper => exact absurd rfl proper
  · intro isMixed
    exact isMixed ▸ .refl _

theorem ne_singleton_of_several (several : 2 ≤ members.length) : members ≠ [tree] := by
  intro alone
  simp [alone] at several

/-! ### Members of a normal form -/

theorem Normal.union_fits_iff (normal : (TypeTree.union members).Normal) :
    Fits hierarchy (.union members) target ↔ ∀ member ∈ members, Fits hierarchy member target := by
  cases normal with
  | union form wholeMembers _ =>
      have notWhole : (TypeTree.union members).unionMembers ≠ [.union members] :=
        ne_singleton_of_several form.several
      constructor
      · intro fits
        cases fits with
        | refl =>
            intro member present
            have proper : member ≠ .scalar .mixed := fun same => form.noTop (same ▸ present)
            exact .unionTarget proper (wholeMembers member present) present (.refl member)
        | top => exact fun member _ => .top member
        | unionSource _ each => exact each
        | unionTarget _ whole | intersectionTarget _ whole => exact absurd whole notWhole
      · intro each
        by_cases bottom : target = .scalar .never
        · obtain ⟨member, present⟩ := List.exists_mem_of_length_pos
            (Nat.lt_of_lt_of_le Nat.zero_lt_two form.several)
          have isNever := each member present
          rw [bottom, fits_never_iff] at isNever
          exact absurd (isNever ▸ present) form.noBottom
        · exact .unionSource bottom each

theorem Normal.fits_union_iff (normal : (TypeTree.union members).Normal)
    (whole : source.unionMembers = [source]) (proper : source ≠ .scalar .never) :
    Fits hierarchy source (.union members) ↔ ∃ member ∈ members, Fits hierarchy source member := by
  cases normal with
  | union form _ _ =>
      have notWhole : (TypeTree.union members).unionMembers ≠ [.union members] :=
        ne_singleton_of_several form.several
      constructor
      · intro fits
        cases fits with
        | refl => exact absurd whole notWhole
        | bottom => exact absurd rfl proper
        | unionSource => exact absurd rfl (ne_union_of_whole whole _)
        | unionTarget _ _ present accepts => exact ⟨_, present, accepts⟩
        | intersectionSource _ undivided => exact absurd undivided.1 notWhole
      · intro accepting
        obtain ⟨member, present, accepts⟩ := accepting
        refine .unionTarget ?_ whole present accepts
        intro isMixed
        rw [isMixed, mixed_fits_iff] at accepts
        exact form.noTop (accepts ▸ present)

theorem Normal.intersection_fits_iff (normal : (TypeTree.intersection members).Normal)
    (undivided : target.Undivided) (proper : target ≠ .scalar .mixed) :
    Fits hierarchy (.intersection members) target ↔
      ∃ member ∈ members, Fits hierarchy member target := by
  cases normal with
  | intersection form _ _ =>
      constructor
      · intro fits
        cases fits with
        | refl => exact absurd undivided.2 (ne_singleton_of_several form.several)
        | top => exact absurd rfl proper
        | unionTarget => exact absurd rfl (ne_union_of_whole undivided.1 _)
        | intersectionTarget => exact absurd rfl (ne_intersection_of_whole undivided.2 _)
        | intersectionSource _ _ present relates => exact ⟨_, present, relates⟩
      · intro relating
        obtain ⟨member, present, relates⟩ := relating
        refine .intersectionSource ?_ undivided present relates
        intro isNever
        rw [isNever, fits_never_iff] at relates
        exact form.noBottom (relates ▸ present)

/-- A tree that is no union fits an intersection where it fits every member; the intersection
itself has to be seen to fit its members. -/
theorem Normal.fits_intersection_iff (normal : (TypeTree.intersection members).Normal)
    (whole : source.unionMembers = [source])
    (self : source = .intersection members → ∀ member ∈ members, Fits hierarchy source member) :
    Fits hierarchy source (.intersection members) ↔
      ∀ member ∈ members, Fits hierarchy source member := by
  cases normal with
  | intersection form _ _ =>
      constructor
      · intro fits
        cases fits with
        | refl => exact self rfl
        | bottom => exact fun member _ => .bottom member
        | unionSource => exact absurd rfl (ne_union_of_whole whole _)
        | intersectionTarget _ _ each => exact each
        | intersectionSource _ undivided =>
            exact absurd undivided.2 (ne_singleton_of_several form.several)
      · intro each
        refine .intersectionTarget ?_ whole each
        intro isMixed
        obtain ⟨member, present⟩ := List.exists_mem_of_length_pos
          (Nat.lt_of_lt_of_le Nat.zero_lt_two form.several)
        have memberMixed := each member present
        rw [isMixed, mixed_fits_iff] at memberMixed
        exact form.noTop (memberMixed ▸ present)

/-! ### Members of any tree -/

theorem Normal.fits_iff_of_unionMembers (normal : tree.Normal) :
    tree.Fits hierarchy target ↔ ∀ member ∈ tree.unionMembers, member.Fits hierarchy target := by
  cases tree with
  | union members => exact normal.union_fits_iff
  | _ => simp [unionMembers]

theorem Normal.fits_unionMembers_iff (normal : tree.Normal)
    (whole : source.unionMembers = [source]) (proper : source ≠ .scalar .never) :
    source.Fits hierarchy tree ↔ ∃ member ∈ tree.unionMembers, source.Fits hierarchy member := by
  cases tree with
  | union members => exact normal.fits_union_iff whole proper
  | _ => simp [unionMembers]

theorem Normal.fits_iff_of_intersectionMembers (normal : tree.Normal)
    (undivided : target.Undivided) (proper : target ≠ .scalar .mixed) :
    tree.Fits hierarchy target ↔
      ∃ member ∈ tree.intersectionMembers, member.Fits hierarchy target := by
  cases tree with
  | intersection members => exact normal.intersection_fits_iff undivided proper
  | _ => simp [intersectionMembers]

theorem Normal.fits_intersectionMembers_iff (normal : tree.Normal)
    (whole : source.unionMembers = [source])
    (self : ∀ member ∈ source.intersectionMembers, source.Fits hierarchy member) :
    source.Fits hierarchy tree ↔
      ∀ member ∈ tree.intersectionMembers, source.Fits hierarchy member := by
  cases tree with
  | intersection members =>
      refine normal.fits_intersection_iff whole ?_
      intro same
      rw [same] at self ⊢
      exact self
  | _ => simp [intersectionMembers]

/-! ### Joined trees -/

section Joined

variable {holds : TypeTree → Prop} (normal : ∀ tree ∈ trees, tree.Normal)
include normal

theorem forall_unionMembers_unite (neverHolds : holds (.scalar .never))
    (mixedDecides : holds (.scalar .mixed) → ∀ tree, holds tree) :
    (∀ member ∈ (unite trees).unionMembers, holds member) ↔
      ∀ tree ∈ trees, ∀ member ∈ tree.unionMembers, holds member := by
  have members : (∀ member ∈ (unite trees).unionMembers, holds member) ↔
      ∀ member ∈ unitedMembers (.scalar .mixed) (.scalar .never) (.scalar .null)
        (trees.flatMap unionMembers), holds member :=
    Joining.lawful_uniting.forall_opened_join
      (fun tree present => (normal tree present).flat_uniting) neverHolds
  rw [members, forall_unitedMembers_iff (by decide) (by decide) neverHolds mixedDecides,
    List.forall_mem_flatMap]

theorem exists_unionMembers_unite (neverFails : ¬ holds (.scalar .never))
    (mixedHolds : holds (.scalar .mixed)) :
    (∃ member ∈ (unite trees).unionMembers, holds member) ↔
      ∃ tree ∈ trees, ∃ member ∈ tree.unionMembers, holds member := by
  have mixedDecides : ¬ holds (.scalar .mixed) → ∀ tree, ¬ holds tree :=
    fun fails => absurd mixedHolds fails
  have none : (∀ member ∈ (unite trees).unionMembers, ¬ holds member) ↔
      ∀ tree ∈ trees, ∀ member ∈ tree.unionMembers, ¬ holds member :=
    forall_unionMembers_unite normal neverFails mixedDecides
  rw [← not_iff_not]
  simpa only [not_exists, not_and] using none

theorem forall_intersectionMembers_meet (mixedHolds : holds (.scalar .mixed))
    (neverDecides : holds (.scalar .never) → ∀ tree, holds tree) :
    (∀ member ∈ (meet trees).intersectionMembers, holds member) ↔
      ∀ tree ∈ trees, ∀ member ∈ tree.intersectionMembers, holds member := by
  have members : (∀ member ∈ (meet trees).intersectionMembers, holds member) ↔
      ∀ member ∈ metMembers (.scalar .mixed) (.scalar .never)
        (trees.flatMap intersectionMembers), holds member :=
    Joining.lawful_meeting.forall_opened_join
      (fun tree present => (normal tree present).flat_meeting) mixedHolds
  rw [members, forall_metMembers_iff (by decide) mixedHolds neverDecides,
    List.forall_mem_flatMap]

theorem exists_intersectionMembers_meet (mixedFails : ¬ holds (.scalar .mixed))
    (neverHolds : holds (.scalar .never)) :
    (∃ member ∈ (meet trees).intersectionMembers, holds member) ↔
      ∃ tree ∈ trees, ∃ member ∈ tree.intersectionMembers, holds member := by
  have neverDecides : ¬ holds (.scalar .never) → ∀ tree, ¬ holds tree :=
    fun fails => absurd neverHolds fails
  have none : (∀ member ∈ (meet trees).intersectionMembers, ¬ holds member) ↔
      ∀ tree ∈ trees, ∀ member ∈ tree.intersectionMembers, ¬ holds member :=
    forall_intersectionMembers_meet normal mixedFails neverDecides
  rw [← not_iff_not]
  simpa only [not_exists, not_and] using none

theorem unite_fits_iff :
    (unite trees).Fits hierarchy target ↔ ∀ tree ∈ trees, tree.Fits hierarchy target := by
  have mixedDecides : Fits hierarchy (.scalar .mixed) target →
      ∀ tree : TypeTree, tree.Fits hierarchy target := by
    intro fits tree
    rw [mixed_fits_iff.mp fits]
    exact .top tree
  rw [(Normal.unite normal).fits_iff_of_unionMembers,
    forall_unionMembers_unite normal (.bottom target) mixedDecides]
  exact forall₂_congr fun tree present => (normal tree present).fits_iff_of_unionMembers.symm

theorem fits_unite_iff (whole : source.unionMembers = [source])
    (proper : source ≠ .scalar .never) :
    source.Fits hierarchy (unite trees) ↔ ∃ tree ∈ trees, source.Fits hierarchy tree := by
  have neverFails : ¬ source.Fits hierarchy (.scalar .never) :=
    fun fits => proper (fits_never_iff.mp fits)
  rw [(Normal.unite normal).fits_unionMembers_iff whole proper,
    exists_unionMembers_unite normal neverFails (.top source)]
  exact exists_congr fun tree => and_congr_right fun present =>
    ((normal tree present).fits_unionMembers_iff whole proper).symm

theorem meet_fits_iff (undivided : target.Undivided) (proper : target ≠ .scalar .mixed) :
    (meet trees).Fits hierarchy target ↔ ∃ tree ∈ trees, tree.Fits hierarchy target := by
  have mixedFails : ¬ Fits hierarchy (.scalar .mixed) target :=
    fun fits => proper (mixed_fits_iff.mp fits)
  rw [(Normal.meet normal).fits_iff_of_intersectionMembers undivided proper,
    exists_intersectionMembers_meet normal mixedFails (.bottom target)]
  exact exists_congr fun tree => and_congr_right fun present =>
    ((normal tree present).fits_iff_of_intersectionMembers undivided proper).symm

theorem fits_meet_iff (whole : source.unionMembers = [source])
    (self : ∀ member ∈ source.intersectionMembers, source.Fits hierarchy member) :
    source.Fits hierarchy (meet trees) ↔ ∀ tree ∈ trees, source.Fits hierarchy tree := by
  have neverDecides : source.Fits hierarchy (.scalar .never) →
      ∀ tree, source.Fits hierarchy tree := by
    intro fits tree
    rw [fits_never_iff.mp fits]
    exact .bottom tree
  rw [(Normal.meet normal).fits_intersectionMembers_iff whole self,
    forall_intersectionMembers_meet normal (.top source) neverDecides]
  exact forall₂_congr fun tree present =>
    ((normal tree present).fits_intersectionMembers_iff whole self).symm

end Joined

theorem Normal.fits_undivided_iff (normal : tree.Normal)
    (whole : (TypeTree.intersection members).Normal)
    (undivided : ∀ member ∈ members, member.Undivided) :
    tree.Fits hierarchy (.intersection members) ↔
      ∀ member ∈ members, tree.Fits hierarchy member := by
  have proper : ∀ member ∈ members, member ≠ .scalar .never := by
    intro member present isNever
    cases whole with
    | intersection form => exact form.noBottom (isNever ▸ present)
  have self : ∀ member ∈ members, Fits hierarchy (.intersection members) member :=
    fun member present =>
      .intersectionSource (proper member present) (undivided member present) present (.refl member)
  have single : ∀ part ∈ tree.unionMembers, part.Fits hierarchy (.intersection members) ↔
      ∀ member ∈ members, part.Fits hierarchy member := by
    intro part present
    exact whole.fits_intersection_iff (normal.of_mem_unionMembers present).2 fun same => same ▸ self
  rw [normal.fits_iff_of_unionMembers, forall₂_congr single]
  constructor
  · intro all member present
    rw [normal.fits_iff_of_unionMembers]
    exact fun part among => all part among member present
  · intro all part among member present
    exact normal.fits_iff_of_unionMembers.mp (all member present) part among

end AssociationCheck.TypeTree
