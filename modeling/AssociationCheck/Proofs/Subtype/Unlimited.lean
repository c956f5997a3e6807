/-
The relation without a limit.

In a store in which every type stands after its parts, as many levels as the identifiers of both
types add up to are enough, so the relation has an answer that no limit cuts short. It satisfies
the rules of one level with itself in the place of the level below, and its verdict is put together
from the verdicts on the members: by agreement over the members of a union, by the highest or the
lowest one elsewhere.
-/

import AssociationCheck.Proofs.Subtype.Fits
import AssociationCheck.Proofs.Subtype.Precision

namespace AssociationCheck

/-! ### Verdicts put together -/

namespace Verdict

theorem eq_of_definite_iff {first second : Verdict} (sameYes : first = yes ↔ second = yes)
    (sameNo : first = no ↔ second = no) : first = second := by
  cases first <;> cases second <;> simp_all

/-- The lowest of several verdicts, yes if there are none. -/
def lowest (verdicts : List Verdict) : Verdict := verdicts.foldr and yes

def highest (verdicts : List Verdict) : Verdict := verdicts.foldr or no

theorem lowest_eq_yes_iff (verdicts : List Verdict) :
    lowest verdicts = yes ↔ ∀ verdict ∈ verdicts, verdict = yes := by
  induction verdicts with
  | nil => simp [lowest]
  | cons first others ih =>
      rw [List.forall_mem_cons, ← ih]
      exact and_eq_yes_iff first (lowest others)

theorem lowest_eq_no_iff (verdicts : List Verdict) : lowest verdicts = no ↔ no ∈ verdicts := by
  induction verdicts with
  | nil => simp [lowest]
  | cons first others ih =>
      rw [List.mem_cons, ← ih, eq_comm (a := no)]
      exact and_eq_no_iff first (lowest others)

theorem highest_eq_yes_iff (verdicts : List Verdict) :
    highest verdicts = yes ↔ yes ∈ verdicts := by
  induction verdicts with
  | nil => simp [highest]
  | cons first others ih =>
      rw [List.mem_cons, ← ih, eq_comm (a := yes)]
      exact or_eq_yes_iff first (highest others)

theorem highest_eq_no_iff (verdicts : List Verdict) :
    highest verdicts = no ↔ ∀ verdict ∈ verdicts, verdict = no := by
  induction verdicts with
  | nil => simp [highest]
  | cons first others ih =>
      rw [List.forall_mem_cons, ← ih]
      exact or_eq_no_iff first (highest others)

/-- A way of putting verdicts together that sees only which of them occur. -/
structure Combines (combine : List Verdict → Verdict) : Prop where
  single : ∀ verdict, combine [verdict] = verdict
  congr : ∀ {verdicts others : List Verdict},
    (∀ verdict, verdict ∈ verdicts ↔ verdict ∈ others) → combine verdicts = combine others

theorem combines_lowest : Combines lowest where
  single verdict := by cases verdict <;> rfl
  congr same := by
    apply eq_of_definite_iff
    · simp only [lowest_eq_yes_iff, same]
    · simp only [lowest_eq_no_iff, same]

theorem combines_highest : Combines highest where
  single verdict := by cases verdict <;> rfl
  congr same := by
    apply eq_of_definite_iff
    · simp only [highest_eq_yes_iff, same]
    · simp only [highest_eq_no_iff, same]

theorem combines_agreement : Combines agreement where
  single _ := rfl
  congr same := by
    apply eq_of_definite_iff
    · simp only [agreement_eq_yes_iff, same]
    · simp only [agreement_eq_no_iff, ne_eq, List.eq_nil_iff_forall_not_mem, same]

theorem Combines.const {α : Type} {combine : List Verdict → Verdict} (combines : Combines combine)
    {items : List α} (several : 2 ≤ items.length) {judged : α → Verdict} {verdict : Verdict}
    (all : ∀ item ∈ items, judged item = verdict) : combine (items.map judged) = verdict := by
  have alone : ∀ other, other ∈ items.map judged ↔ other ∈ [verdict] := by
    intro other
    rw [List.mem_map, List.mem_singleton]
    constructor
    · intro ⟨item, present, same⟩
      rw [← same, all item present]
    · intro same
      obtain ⟨item, present⟩ := List.exists_mem_of_length_pos (by omega : 0 < items.length)
      exact ⟨item, present, (all item present).trans same.symm⟩
  rw [combines.congr alone, combines.single]

end Verdict

namespace Answer

variable {α : Type} (ask : α → Answer) (questions : List α)

theorem allOf_verdict :
    (allOf ask questions).verdict =
      Verdict.lowest (questions.map fun question => (ask question).verdict) := by
  apply Verdict.eq_of_definite_iff
  · simp [allOf_yes_iff, Verdict.lowest_eq_yes_iff]
  · simp [allOf_no_iff, Verdict.lowest_eq_no_iff]

theorem anyOf_verdict :
    (anyOf ask questions).verdict =
      Verdict.highest (questions.map fun question => (ask question).verdict) := by
  apply Verdict.eq_of_definite_iff
  · simp [anyOf_yes_iff, Verdict.highest_eq_yes_iff]
  · simp [anyOf_no_iff, Verdict.highest_eq_no_iff]

theorem agreement_verdict :
    (agreement ask questions).verdict =
      Verdict.agreement (questions.map fun question => (ask question).verdict) := by
  rw [agreement, List.map_map]
  rfl

variable {ask questions} (each : ∀ question ∈ questions, (ask question).limited = false)
include each

theorem allOf_unlimited : (allOf ask questions).limited = false := by
  induction questions with
  | nil => rfl
  | cons question others ih =>
      obtain ⟨first, rest⟩ := List.forall_mem_cons.mp each
      rw [allOf]
      split
      · exact first
      · rw [Bool.or_eq_false_iff]
        exact ⟨first, ih rest⟩

theorem anyOf_unlimited : (anyOf ask questions).limited = false := by
  induction questions with
  | nil => rfl
  | cons question others ih =>
      obtain ⟨first, rest⟩ := List.forall_mem_cons.mp each
      rw [anyOf]
      split
      · exact first
      · rw [Bool.or_eq_false_iff]
        exact ⟨first, ih rest⟩

theorem agreement_unlimited : (agreement ask questions).limited = false := by
  simpa [agreement] using each

end Answer

namespace Subtype

open TypeStore

variable {hierarchy : Hierarchy} {store : TypeStore} {source target : TypeId}
  {sourceShape targetShape : Shape}

/-! ### Enough levels -/

section OneLevel

variable {ask : TypePair → Answer} {sourceBound targetBound : Nat}
  (each : ∀ first second, first.index ≤ sourceBound → second.index < targetBound →
    (ask (first, second)).limited = false)
  (sourceEarlier : ∀ part ∈ sourceShape.parts, part.index ≤ sourceBound)
  (targetEarlier : ∀ part ∈ targetShape.parts, part.index < targetBound)
include each sourceEarlier targetEarlier

theorem atomicRule_unlimited :
    (atomicRule hierarchy ask sourceShape targetShape).limited = false := by
  have entries {sourceKey sourceValue key value : TypeId}
      (inSource : ∀ part ∈ [sourceKey, sourceValue], part.index ≤ sourceBound)
      (inTarget : ∀ part ∈ [key, value], part.index < targetBound) :
      (Answer.allOf ask (entryPairs sourceKey sourceValue key value)).limited = false := by
    apply Answer.allOf_unlimited
    intro pair present
    rcases List.mem_pair.mp present with rfl | rfl
    · exact each _ _ (inSource _ (by simp)) (inTarget _ (by simp))
    · exact each _ _ (inSource _ (by simp)) (inTarget _ (by simp))
  have orMixed {part : TypeId} {arguments : List TypeId}
      (inSource : ∀ part ∈ arguments, part.index ≤ sourceBound)
      (among : part = .mixed ∨ part ∈ arguments) : part.index ≤ sourceBound := by
    rcases among with rfl | among
    · exact Nat.zero_le sourceBound
    · exact inSource part among
  cases sourceShape <;> cases targetShape <;> try rfl
  case object.object name arguments other others =>
    have pairs : (Answer.allOf ask (argumentPairs arguments others)).limited = false := by
      apply Answer.allOf_unlimited
      intro pair present
      obtain ⟨inSource, inTarget⟩ := mem_of_mem_argumentPairs present
      exact each _ _ (orMixed sourceEarlier inSource) (targetEarlier _ inTarget)
    rw [atomicRule, objectRule]
    split
    · exact pairs
    · split
      · split
        · rfl
        · split
          · exact pairs
          · rfl
      · split <;> rfl
  case object.iterable name arguments key value =>
    obtain ⟨keyAmong, valueAmong⟩ := iteratedTypes_cases arguments
    rw [atomicRule, objectToIterableRule]
    split
    · apply entries _ targetEarlier
      intro part present
      rcases List.mem_pair.mp present with rfl | rfl
      · exact orMixed sourceEarlier keyAmong
      · exact orMixed sourceEarlier valueAmong
    · split <;> rfl
  case iterable.object key value name arguments =>
    rw [atomicRule, iterableToObjectRule]
    split <;> rfl
  case iterable.iterable => exact entries sourceEarlier targetEarlier
  case iterable.array => exact entries sourceEarlier targetEarlier
  case array.iterable => exact entries sourceEarlier targetEarlier
  case array.array => exact entries sourceEarlier targetEarlier

end OneLevel

theorem step_unlimited (formed : store.WellFormed) {ask : TypePair → Answer} (pair : TypePair)
    (each : ∀ first second : TypeId,
      first.index + second.index < pair.1.index + pair.2.index →
        (ask (first, second)).limited = false) :
    (step store hierarchy ask pair).limited = false := by
  obtain ⟨source, target⟩ := pair
  rw [step]
  split
  · rfl
  · split
    · rfl
    · split
      · rfl
      · cases sourceFound : store.lookup source with
        | none => rfl
        | some sourceShape =>
            cases targetFound : store.lookup target with
            | none => rfl
            | some targetShape =>
                have sourceEarlier := formed.earlier sourceFound
                have targetEarlier := formed.earlier targetFound
                have toTarget : ∀ member ∈ sourceShape.parts,
                    (ask (member, target)).limited = false :=
                  fun member present => each _ _ (Nat.add_lt_add_right
                    (sourceEarlier member present) _)
                have fromSource : ∀ member ∈ targetShape.parts,
                    (ask (source, member)).limited = false :=
                  fun member present => each _ _ (Nat.add_lt_add_left
                    (targetEarlier member present) _)
                simp only [shapeRule]
                split
                · exact Answer.agreement_unlimited toTarget
                · exact Answer.anyOf_unlimited fromSource
                · exact Answer.allOf_unlimited fromSource
                · exact Answer.anyOf_unlimited toTarget
                · refine atomicRule_unlimited (fun first second before after => ?_)
                    (fun part present => Nat.le_of_lt (sourceEarlier part present)) targetEarlier
                  exact each _ _ (Nat.add_lt_add_of_le_of_lt before after)

/-- As many levels as the identifiers add up to, and one more, are enough. -/
theorem within_unlimited (formed : store.WellFormed) {levels : Nat} (pair : TypePair)
    (enough : pair.1.index + pair.2.index < levels) :
    (within store hierarchy levels pair).limited = false := by
  induction levels generalizing pair with
  | zero => exact absurd enough (Nat.not_lt_zero _)
  | succ levels ih =>
      rw [within]
      apply step_unlimited formed
      intro first second smaller
      exact ih (first, second) (Nat.lt_of_lt_of_le smaller (Nat.le_of_lt_succ enough))

def unlimited (store : TypeStore) (hierarchy : Hierarchy) (pair : TypePair) : Answer :=
  within store hierarchy (pair.1.index + pair.2.index + 1) pair

/-- An answer that did not meet the limit is the one with enough levels. -/
theorem unlimited_eq_within (formed : store.WellFormed) {levels : Nat} {pair : TypePair}
    (final : (within store hierarchy levels pair).limited = false) :
    unlimited store hierarchy pair = within store hierarchy levels pair := by
  have enough : (unlimited store hierarchy pair).limited = false :=
    within_unlimited formed pair (Nat.lt_succ_self _)
  rw [unlimited] at enough ⊢
  rw [← within_final _ levels pair enough, Nat.add_comm, within_final _ _ pair final]

theorem unlimited_eq_relate (formed : store.WellFormed)
    (final : (relate store hierarchy source target).limited = false) :
    unlimited store hierarchy (source, target) = relate store hierarchy source target :=
  unlimited_eq_within formed final

theorem unlimited_eq_step (formed : store.WellFormed) (pair : TypePair) :
    unlimited store hierarchy pair = step store hierarchy (unlimited store hierarchy) pair := by
  let levels := pair.1.index + pair.2.index
  have enough : (unlimited store hierarchy pair).limited = false :=
    within_unlimited formed pair (Nat.lt_succ_self _)
  have final : ∀ pair, (within store hierarchy levels pair).limited = false →
      unlimited store hierarchy pair = within store hierarchy levels pair :=
    fun _ => unlimited_eq_within formed
  exact (step_final hierarchy final store pair enough).symm

/-! ### Verdicts with enough levels -/

def judge (store : TypeStore) (hierarchy : Hierarchy) (source target : TypeId) : Verdict :=
  (unlimited store hierarchy (source, target)).verdict

theorem unlimited_eq_of_judge_eq (formed : store.WellFormed) {other another : TypeId}
    (same : judge store hierarchy source target = judge store hierarchy other another) :
    unlimited store hierarchy (source, target) = unlimited store hierarchy (other, another) := by
  have final (pair : TypePair) : (unlimited store hierarchy pair).limited = false :=
    within_unlimited formed pair (Nat.lt_succ_self _)
  rw [Answer.mk.injEq]
  exact ⟨same, (final _).trans (final _).symm⟩

section Extremes

variable (formed : store.WellFormed)
include formed

theorem judge_self (id : TypeId) : judge store hierarchy id id = .yes := by
  rw [judge, unlimited_eq_step formed, step, if_pos (by simp)]
  rfl

theorem judge_mixed (source : TypeId) : judge store hierarchy source .mixed = .yes := by
  rw [judge, unlimited_eq_step formed, step, if_pos (by simp)]
  rfl

theorem never_judge (target : TypeId) : judge store hierarchy .never target = .yes := by
  rw [judge, unlimited_eq_step formed, step, if_pos (by simp)]
  rfl

theorem judge_never (proper : source ≠ .never) : judge store hierarchy source .never = .no := by
  have apart : ¬ (decide (source = .never) || decide (TypeId.never = .mixed) ||
      decide (source = .never)) = true := by
    simpa [proper] using (by decide : TypeId.never ≠ .mixed)
  rw [judge, unlimited_eq_step formed, step, if_neg apart, if_pos rfl]
  rfl

theorem mixed_judge (notTop : target ≠ .mixed) (notBottom : target ≠ .never) :
    judge store hierarchy .mixed target = .maybe := by
  have apart : ¬ (decide (TypeId.mixed = target) || decide (target = .mixed) ||
      decide (TypeId.mixed = .never)) = true := by
    simpa [notTop, eq_comm] using (by decide : TypeId.mixed ≠ .never)
  rw [judge, unlimited_eq_step formed, step, if_neg apart, if_neg notBottom, if_pos rfl]
  rfl

theorem judge_shapes (sourceFound : store.lookup source = some sourceShape)
    (targetFound : store.lookup target = some targetShape) (apart : source ≠ target)
    (notTop : target ≠ .mixed) (notBottom : source ≠ .never) (proper : target ≠ .never)
    (definite : source ≠ .mixed) :
    judge store hierarchy source target =
      (shapeRule hierarchy (unlimited store hierarchy) (source, target) sourceShape
        targetShape).verdict := by
  rw [judge, unlimited_eq_step formed, step]
  simp only [apart, notTop, notBottom, proper, definite, decide_false, Bool.or_self,
    Bool.false_eq_true, if_false, sourceFound, targetFound]

end Extremes

/-! ### Verdicts from members -/

section Members

variable (canonical : store.Canonical) {members : List TypeId}
include canonical

theorem apart_of_composite (found : store.lookup source = some sourceShape)
    (composite : sourceShape.members?.isSome) (kind : Scalar) : source ≠ kind.id := by
  apply ne_of_lookup found (lookup_scalar canonical.standard kind)
  intro same
  rw [same] at composite
  cases composite

omit canonical in
/-- All values and no value give every member of a composite target the verdict that they give the
target. -/
theorem judge_fromExtreme (formed : store.WellFormed) {combine : List Verdict → Verdict}
    (combines : Verdict.Combines combine) (several : 2 ≤ members.length) (noTop : .mixed ∉ members)
    (noBottom : .never ∉ members) (apart : ∀ kind : Scalar, target ≠ kind.id)
    (extreme : source = .never ∨ source = .mixed) :
    judge store hierarchy source target =
      combine (members.map fun member => judge store hierarchy source member) := by
  symm
  rcases extreme with rfl | rfl
  · rw [never_judge formed]
    exact combines.const several fun member _ => never_judge formed member
  · rw [mixed_judge formed (apart .mixed) (apart .never)]
    refine combines.const several fun member present => ?_
    exact mixed_judge formed (fun same => noTop (same ▸ present))
      (fun same => noBottom (same ▸ present))

omit canonical in
/-- All values and no value get from every member of a composite source the verdict that they get
from the source. -/
theorem judge_toExtreme (formed : store.WellFormed) {combine : List Verdict → Verdict}
    (combines : Verdict.Combines combine) (several : 2 ≤ members.length)
    (noBottom : .never ∉ members) (apart : ∀ kind : Scalar, source ≠ kind.id)
    (extreme : target = .mixed ∨ target = .never) :
    judge store hierarchy source target =
      combine (members.map fun member => judge store hierarchy member target) := by
  symm
  rcases extreme with rfl | rfl
  · rw [judge_mixed formed]
    exact combines.const several fun member _ => judge_mixed formed member
  · rw [judge_never formed (apart .never)]
    refine combines.const several fun member present => ?_
    exact judge_never formed (fun same => noBottom (same ▸ present))

theorem judge_unionTarget (sourceFound : store.lookup source = some sourceShape)
    (whole : sourceShape.unionMembers? = none)
    (targetFound : store.lookup target = some (.union members)) :
    judge store hierarchy source target =
      .highest (members.map fun member => judge store hierarchy source member) := by
  have form := (canonical.normal targetFound).1
  have formed := canonical.toWellFormed
  have targetApart := apart_of_composite canonical targetFound rfl
  have apart : source ≠ target := by
    intro same
    rw [same] at sourceFound
    rw [lookup_unique sourceFound targetFound] at whole
    cases whole
  by_cases extreme : source = .never ∨ source = .mixed
  · exact judge_fromExtreme formed Verdict.combines_highest form.several form.noTop form.noBottom
      targetApart extreme
  · obtain ⟨notBottom, notTop⟩ := not_or.mp extreme
    rw [judge_shapes formed sourceFound targetFound apart (targetApart .mixed) notBottom
      (targetApart .never) notTop]
    cases sourceShape with
    | union => cases whole
    | _ => exact Answer.anyOf_verdict _ members

theorem judge_unionSource (sourceFound : store.lookup source = some (.union members))
    (targetFound : store.lookup target = some targetShape) :
    judge store hierarchy source target =
      .agreement (members.map fun member => judge store hierarchy member target) := by
  obtain ⟨form, whole⟩ := canonical.normal sourceFound
  have formed := canonical.toWellFormed
  have sourceApart := apart_of_composite canonical sourceFound rfl
  by_cases same : source = target
  · subst same
    rw [judge_self formed]
    refine (Verdict.combines_agreement.const form.several fun member present => ?_).symm
    obtain ⟨shape, found⟩ := exists_lookup (canonical.contains_part sourceFound present)
    have single := whole member present
    rw [found] at single
    rw [judge_unionTarget canonical found single sourceFound, Verdict.highest_eq_yes_iff]
    exact List.mem_map.mpr ⟨member, present, judge_self formed member⟩
  · by_cases extreme : target = .mixed ∨ target = .never
    · exact judge_toExtreme formed Verdict.combines_agreement form.several form.noBottom
        sourceApart extreme
    · obtain ⟨notTop, notBottom⟩ := not_or.mp extreme
      rw [judge_shapes formed sourceFound targetFound same notTop (sourceApart .never) notBottom
        (sourceApart .mixed)]
      exact Answer.agreement_verdict _ members

theorem judge_intersectionSource
    (sourceFound : store.lookup source = some (.intersection members))
    (targetFound : store.lookup target = some targetShape)
    (undivided : targetShape.members? = none) :
    judge store hierarchy source target =
      .highest (members.map fun member => judge store hierarchy member target) := by
  have form := (canonical.normal sourceFound).1
  have formed := canonical.toWellFormed
  have sourceApart := apart_of_composite canonical sourceFound rfl
  have apart : source ≠ target := by
    intro same
    rw [same] at sourceFound
    rw [lookup_unique targetFound sourceFound] at undivided
    cases undivided
  by_cases extreme : target = .mixed ∨ target = .never
  · exact judge_toExtreme formed Verdict.combines_highest form.several form.noBottom sourceApart
      extreme
  · obtain ⟨notTop, notBottom⟩ := not_or.mp extreme
    rw [judge_shapes formed sourceFound targetFound apart notTop (sourceApart .never) notBottom
      (sourceApart .mixed)]
    cases targetShape with
    | union | intersection => cases undivided
    | _ => exact Answer.anyOf_verdict _ members

/-- An intersection that has a union for a member is not seen to be below that union, so here such
a member is left out. -/
theorem judge_intersectionTarget (sourceFound : store.lookup source = some sourceShape)
    (whole : sourceShape.unionMembers? = none)
    (targetFound : store.lookup target = some (.intersection members))
    (undivided : ∀ member ∈ members, (store.lookup member).bind Shape.members? = none) :
    judge store hierarchy source target =
      .lowest (members.map fun member => judge store hierarchy source member) := by
  have form := (canonical.normal targetFound).1
  have formed := canonical.toWellFormed
  have targetApart := apart_of_composite canonical targetFound rfl
  by_cases same : source = target
  · subst same
    rw [judge_self formed]
    refine (Verdict.combines_lowest.const form.several fun member present => ?_).symm
    obtain ⟨shape, found⟩ := exists_lookup (canonical.contains_part targetFound present)
    have single := undivided member present
    rw [found] at single
    rw [judge_intersectionSource canonical targetFound found single, Verdict.highest_eq_yes_iff]
    exact List.mem_map.mpr ⟨member, present, judge_self formed member⟩
  · by_cases extreme : source = .never ∨ source = .mixed
    · exact judge_fromExtreme formed Verdict.combines_lowest form.several form.noTop form.noBottom
        targetApart extreme
    · obtain ⟨notBottom, notTop⟩ := not_or.mp extreme
      rw [judge_shapes formed sourceFound targetFound same (targetApart .mixed) notBottom
        (targetApart .never) notTop]
      cases sourceShape with
      | union => cases whole
      | _ => exact Answer.allOf_verdict _ members

end Members

section AnyType

variable (canonical : store.Canonical) (sourceKnown : store.Contains source)
  (targetKnown : store.Contains target)
include canonical sourceKnown targetKnown

theorem judge_sourceOptions :
    judge store hierarchy source target =
      .agreement ((store.unionMembers source).map fun member =>
        judge store hierarchy member target) := by
  obtain ⟨sourceShape, sourceFound⟩ := exists_lookup sourceKnown
  obtain ⟨targetShape, targetFound⟩ := exists_lookup targetKnown
  rw [unionMembers, sourceFound]
  cases sourceShape with
  | union members => exact judge_unionSource canonical sourceFound targetFound
  | _ => rfl

theorem judge_targetOptions (whole : (store.lookup source).bind Shape.unionMembers? = none) :
    judge store hierarchy source target =
      .highest ((store.unionMembers target).map fun member =>
        judge store hierarchy source member) := by
  obtain ⟨sourceShape, sourceFound⟩ := exists_lookup sourceKnown
  obtain ⟨targetShape, targetFound⟩ := exists_lookup targetKnown
  rw [sourceFound] at whole
  rw [unionMembers, targetFound]
  cases targetShape with
  | union members => exact judge_unionTarget canonical sourceFound whole targetFound
  | _ => exact (Verdict.combines_highest.single _).symm

theorem judge_sourceDemands (undivided : (store.lookup target).bind Shape.members? = none) :
    judge store hierarchy source target =
      .highest ((store.intersectionMembers source).map fun member =>
        judge store hierarchy member target) := by
  obtain ⟨sourceShape, sourceFound⟩ := exists_lookup sourceKnown
  obtain ⟨targetShape, targetFound⟩ := exists_lookup targetKnown
  rw [targetFound] at undivided
  rw [intersectionMembers, sourceFound]
  cases sourceShape with
  | intersection members =>
      exact judge_intersectionSource canonical sourceFound targetFound undivided
  | _ => exact (Verdict.combines_highest.single _).symm

theorem judge_targetDemands (whole : (store.lookup source).bind Shape.unionMembers? = none)
    (undivided : ∀ member ∈ store.intersectionMembers target,
      (store.lookup member).bind Shape.members? = none) :
    judge store hierarchy source target =
      .lowest ((store.intersectionMembers target).map fun member =>
        judge store hierarchy source member) := by
  obtain ⟨sourceShape, sourceFound⟩ := exists_lookup sourceKnown
  obtain ⟨targetShape, targetFound⟩ := exists_lookup targetKnown
  rw [sourceFound] at whole
  rw [intersectionMembers, targetFound] at undivided ⊢
  cases targetShape with
  | intersection members =>
      exact judge_intersectionTarget canonical sourceFound whole targetFound undivided
  | _ => exact (Verdict.combines_lowest.single _).symm

end AnyType

end Subtype

end AssociationCheck
