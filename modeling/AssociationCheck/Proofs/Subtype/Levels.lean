/-
More levels.

An answer that was found without meeting the limit is final: with more levels it is the same. A
yes is final in any case, since the limit only ever gives a maybe.
-/

import AssociationCheck.Proofs.Subtype.Definite

namespace AssociationCheck

/-! ### Questions with final answers -/

namespace Answer

variable {α : Type} {ask more : α → Answer}
  (final : ∀ question, (ask question).limited = false → more question = ask question)
  {questions : List α}

include final

theorem allOf_final (unlimited : (allOf ask questions).limited = false) :
    allOf more questions = allOf ask questions := by
  induction questions with
  | nil => rfl
  | cons question others ih =>
      rw [allOf] at unlimited
      by_cases refused : (ask question).verdict = .no
      · rw [if_pos refused] at unlimited
        simp only [allOf, final question unlimited, refused, if_true]
      · rw [if_neg refused, Bool.or_eq_false_iff] at unlimited
        simp only [allOf, final question unlimited.1, refused, if_false, ih unlimited.2]

theorem anyOf_final (unlimited : (anyOf ask questions).limited = false) :
    anyOf more questions = anyOf ask questions := by
  induction questions with
  | nil => rfl
  | cons question others ih =>
      rw [anyOf] at unlimited
      by_cases accepted : (ask question).verdict = .yes
      · rw [if_pos accepted] at unlimited
        simp only [anyOf, final question unlimited, accepted, if_true]
      · rw [if_neg accepted, Bool.or_eq_false_iff] at unlimited
        simp only [anyOf, final question unlimited.1, accepted, if_false, ih unlimited.2]

theorem agreement_final (unlimited : (agreement ask questions).limited = false) :
    agreement more questions = agreement ask questions := by
  have answers : questions.map more = questions.map ask := by
    apply List.map_congr_left
    intro question present
    apply final question
    have all : ∀ answer ∈ questions.map ask, answer.limited = false := by
      simpa [agreement] using unlimited
    exact all _ (List.mem_map_of_mem present)
  rw [agreement, agreement, answers]

end Answer

namespace Subtype

/-! ### One level -/

section OneLevel

variable (hierarchy : Hierarchy) {ask more : TypePair → Answer}
  (final : ∀ pair, (ask pair).limited = false → more pair = ask pair)

include final

theorem objectRule_final (source target : String) (sourceArguments targetArguments : List TypeId)
    (unlimited :
      (objectRule hierarchy ask source sourceArguments target targetArguments).limited = false) :
    objectRule hierarchy more source sourceArguments target targetArguments =
      objectRule hierarchy ask source sourceArguments target targetArguments := by
  unfold objectRule at unlimited ⊢
  split
  · rename_i same
    rw [if_pos same] at unlimited
    exact Answer.allOf_final final unlimited
  · rename_i other
    rw [if_neg other] at unlimited
    split
    · rename_i derived
      rw [if_pos derived] at unlimited
      split
      · rfl
      · rename_i generic
        rw [if_neg generic] at unlimited
        split
        · rename_i equallyMany
          rw [if_pos equallyMany] at unlimited
          exact Answer.allOf_final final unlimited
        · rfl
    · rfl

theorem objectToIterableRule_final (source : String) (arguments : List TypeId)
    (key value : TypeId)
    (unlimited :
      (objectToIterableRule hierarchy ask source arguments key value).limited = false) :
    objectToIterableRule hierarchy more source arguments key value =
      objectToIterableRule hierarchy ask source arguments key value := by
  unfold objectToIterableRule at unlimited ⊢
  by_cases iterates : hierarchy.isTraversable source = true
  · rw [if_pos iterates] at unlimited ⊢
    rw [if_pos iterates]
    exact Answer.allOf_final final unlimited
  · rw [if_neg iterates, if_neg iterates]

theorem atomicRule_final (source target : Shape)
    (unlimited : (atomicRule hierarchy ask source target).limited = false) :
    atomicRule hierarchy more source target = atomicRule hierarchy ask source target := by
  cases source <;> cases target <;> try rfl
  case object.object => exact objectRule_final hierarchy final _ _ _ _ unlimited
  case object.iterable => exact objectToIterableRule_final hierarchy final _ _ _ _ unlimited
  case iterable.iterable => exact Answer.allOf_final final unlimited
  case array.iterable => exact Answer.allOf_final final unlimited
  case array.array => exact Answer.allOf_final final unlimited
  case iterable.array =>
      simp only [atomicRule] at unlimited ⊢
      rw [Answer.allOf_final final unlimited]

theorem shapeRule_final (pair : TypePair) (source target : Shape)
    (unlimited : (shapeRule hierarchy ask pair source target).limited = false) :
    shapeRule hierarchy more pair source target = shapeRule hierarchy ask pair source target := by
  unfold shapeRule at unlimited ⊢
  split at unlimited
  · exact Answer.agreement_final (fun _ => final _) unlimited
  · exact Answer.anyOf_final (fun _ => final _) unlimited
  · exact Answer.allOf_final (fun _ => final _) unlimited
  · exact Answer.anyOf_final (fun _ => final _) unlimited
  · exact atomicRule_final hierarchy final _ _ unlimited

variable (store : TypeStore)

theorem step_final (pair : TypePair) (unlimited : (step store hierarchy ask pair).limited = false) :
    step store hierarchy more pair = step store hierarchy ask pair := by
  obtain ⟨source, target⟩ := pair
  simp only [step] at unlimited ⊢
  split
  · rfl
  · split
    · rfl
    · split
      · rfl
      · rename_i trivially bottom top
        rw [if_neg trivially, if_neg bottom, if_neg top] at unlimited
        cases sourceFound : store.lookup source with
        | none => rfl
        | some sourceShape =>
            cases targetFound : store.lookup target with
            | none => rfl
            | some targetShape =>
                rw [sourceFound, targetFound] at unlimited
                exact shapeRule_final hierarchy final _ _ _ unlimited

end OneLevel

/-! ### All levels -/

variable {hierarchy : Hierarchy} {store : TypeStore}

/-- An answer that did not meet the limit is the answer with any more levels. -/
theorem within_final (levels more : Nat) (pair : TypePair)
    (unlimited : (within store hierarchy levels pair).limited = false) :
    within store hierarchy (levels + more) pair = within store hierarchy levels pair := by
  induction levels generalizing pair with
  | zero => cases unlimited
  | succ levels ih =>
      rw [Nat.succ_add, within]
      exact step_final hierarchy ih store pair unlimited

theorem DefiniteAtomic.imp {below further : TypeId → TypeId → Prop} {source target : Shape}
    (implies : ∀ lower upper, below lower upper → further lower upper)
    (reason : DefiniteAtomic hierarchy below source target) :
    DefiniteAtomic hierarchy further source target := by
  cases reason with
  | object derived comparable covariant =>
      exact .object derived comparable (fun pair present => implies _ _ (covariant pair present))
  | objectToIterable iterates keys values =>
      exact .objectToIterable iterates (implies _ _ keys) (implies _ _ values)
  | iterableToIterable keys values =>
      exact .iterableToIterable (implies _ _ keys) (implies _ _ values)
  | arrayToIterable keys values => exact .arrayToIterable (implies _ _ keys) (implies _ _ values)
  | arrayToArray keys values => exact .arrayToArray (implies _ _ keys) (implies _ _ values)

theorem Definite.imp {below further : TypeId → TypeId → Prop} {source target : TypeId}
    {sourceShape targetShape : Shape}
    (implies : ∀ lower upper, below lower upper → further lower upper)
    (reason : Definite hierarchy below source target sourceShape targetShape) :
    Definite hierarchy further source target sourceShape targetShape := by
  cases reason with
  | unionSource each =>
      exact .unionSource (fun member present => implies _ _ (each member present))
  | unionTarget whole present accepts => exact .unionTarget whole present (implies _ _ accepts)
  | intersectionTarget whole each =>
      exact .intersectionTarget whole (fun member present => implies _ _ (each member present))
  | intersectionSource whole present relates =>
      exact .intersectionSource whole present (implies _ _ relates)
  | atomic reason => exact .atomic (reason.imp implies)

theorem Below.deeper {levels more : Nat} {source target : TypeId}
    (yes : Below hierarchy store levels source target) (further : levels ≤ more) :
    Below hierarchy store more source target := by
  induction levels generalizing more source target with
  | zero => exact absurd yes (not_below_zero _ _ _ _)
  | succ levels ih =>
      obtain ⟨most, rfl⟩ : ∃ most, more = most + 1 := ⟨more - 1, by omega⟩
      rw [below_succ_iff] at yes ⊢
      refine yes.imp_right ?_
      rintro ⟨bottom, top, sourceShape, targetShape, sourceFound, targetFound, reason⟩
      exact ⟨bottom, top, sourceShape, targetShape, sourceFound, targetFound,
        reason.imp (fun lower upper below => ih below (by omega))⟩

/-- What is a yes with enough levels is one within the limit, unless the limit was met. -/
theorem Below.relate_yes {levels : Nat} {source target : TypeId}
    (yes : Below hierarchy store levels source target)
    (unlimited : (relate store hierarchy source target).limited = false) :
    (relate store hierarchy source target).verdict = .yes := by
  have deeper : Below hierarchy store (levelLimit + levels) source target :=
    yes.deeper (Nat.le_add_left ..)
  rwa [Below, within_final levelLimit levels _ unlimited] at deeper

theorem below_of_relate_yes {source target : TypeId}
    (yes : (relate store hierarchy source target).verdict = .yes) :
    Below hierarchy store levelLimit source target := yes

end Subtype

end AssociationCheck
