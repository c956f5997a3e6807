/-
When the subtype relation says yes.

A yes at one level of the relation is described by the shapes of the two types and by the pairs
that are a yes at the level below. Everything said of definite answers rests on this description;
the rules themselves are not opened again.
-/

import AssociationCheck.Proofs.Types.WellFormed
import AssociationCheck.Subtype

namespace AssociationCheck

/-! ### Answers to several questions -/

namespace Verdict

theorem and_eq_yes_iff (first second : Verdict) :
    first.and second = yes ↔ first = yes ∧ second = yes := by
  cases first <;> cases second <;> decide

theorem or_eq_yes_iff (first second : Verdict) :
    first.or second = yes ↔ first = yes ∨ second = yes := by
  cases first <;> cases second <;> decide

end Verdict

namespace Answer

variable {α : Type} (ask : α → Answer)

theorem allOf_yes_iff (questions : List α) :
    (allOf ask questions).verdict = .yes ↔
      ∀ question ∈ questions, (ask question).verdict = .yes := by
  induction questions with
  | nil => simp [allOf, yes, ofVerdict]
  | cons question others ih =>
      rw [allOf, List.forall_mem_cons]
      by_cases refused : (ask question).verdict = .no
      · simp [refused]
      · simp only [refused, if_false, Verdict.and_eq_yes_iff, ih]

theorem anyOf_yes_iff (questions : List α) :
    (anyOf ask questions).verdict = .yes ↔
      ∃ question ∈ questions, (ask question).verdict = .yes := by
  induction questions with
  | nil => simp [anyOf, no, ofVerdict]
  | cons question others ih =>
      rw [anyOf]
      by_cases accepted : (ask question).verdict = .yes
      · simp [accepted]
      · simp [accepted, Verdict.or_eq_yes_iff, ih]

theorem agreement_yes_iff (questions : List α) :
    (agreement ask questions).verdict = .yes ↔
      ∀ question ∈ questions, (ask question).verdict = .yes := by
  simp only [agreement, Verdict.agreement_eq_yes_iff, List.mem_map]
  constructor
  · intro all question present
    exact all _ ⟨_, ⟨question, present, rfl⟩, rfl⟩
  · rintro all verdict ⟨answer, ⟨question, present, rfl⟩, rfl⟩
    exact all question present

end Answer

namespace Subtype

/-! ### Pairs of shapes -/

/-- Why the values of a shape are values of another, neither of them a union or an intersection;
`below` says which parts are definitely below which. -/
inductive DefiniteAtomic (hierarchy : Hierarchy) (below : TypeId → TypeId → Prop) :
    Shape → Shape → Prop
  | object {source target sourceArguments targetArguments}
      (derived : hierarchy.isSameOrDerived source target = true)
      (comparable : sameClass source target = true ∨ targetArguments = [] ∨
        sourceArguments.length = targetArguments.length)
      (covariant : ∀ pair ∈ argumentPairs sourceArguments targetArguments, below pair.1 pair.2) :
      DefiniteAtomic hierarchy below (.object source sourceArguments)
        (.object target targetArguments)
  | objectToIterable {source arguments key value}
      (iterates : hierarchy.isTraversable source = true)
      (keys : below (iteratedTypes arguments).1 key)
      (values : below (iteratedTypes arguments).2 value) :
      DefiniteAtomic hierarchy below (.object source arguments) (.iterable key value)
  | iterableToIterable {sourceKey sourceValue key value} (keys : below sourceKey key)
      (values : below sourceValue value) :
      DefiniteAtomic hierarchy below (.iterable sourceKey sourceValue) (.iterable key value)
  | arrayToIterable {sourceKey sourceValue key value} (keys : below sourceKey key)
      (values : below sourceValue value) :
      DefiniteAtomic hierarchy below (.array sourceKey sourceValue) (.iterable key value)
  | arrayToArray {sourceKey sourceValue key value} (keys : below sourceKey key)
      (values : below sourceValue value) :
      DefiniteAtomic hierarchy below (.array sourceKey sourceValue) (.array key value)

/-- Why the values of a shape are values of another. The order in which unions and intersections
are taken apart decides which reason counts. -/
inductive Definite (hierarchy : Hierarchy) (below : TypeId → TypeId → Prop)
    (source target : TypeId) : Shape → Shape → Prop
  | unionSource {members targetShape} (each : ∀ member ∈ members, below member target) :
      Definite hierarchy below source target (.union members) targetShape
  | unionTarget {sourceShape members member} (whole : sourceShape.unionMembers? = none)
      (present : member ∈ members) (accepts : below source member) :
      Definite hierarchy below source target sourceShape (.union members)
  | intersectionTarget {sourceShape members} (whole : sourceShape.unionMembers? = none)
      (each : ∀ member ∈ members, below source member) :
      Definite hierarchy below source target sourceShape (.intersection members)
  | intersectionSource {members targetShape member} (whole : targetShape.members? = none)
      (present : member ∈ members) (relates : below member target) :
      Definite hierarchy below source target (.intersection members) targetShape
  | atomic {sourceShape targetShape}
      (reason : DefiniteAtomic hierarchy below sourceShape targetShape) :
      Definite hierarchy below source target sourceShape targetShape

abbrev Accepted (ask : TypePair → Answer) (source target : TypeId) : Prop :=
  (ask (source, target)).verdict = .yes

variable (hierarchy : Hierarchy) (ask : TypePair → Answer)

theorem allOf_entryPairs_yes_iff (sourceKey sourceValue key value : TypeId) :
    (Answer.allOf ask (entryPairs sourceKey sourceValue key value)).verdict = .yes ↔
      Accepted ask sourceKey key ∧ Accepted ask sourceValue value := by
  simp [Answer.allOf_yes_iff, entryPairs]

theorem objectRule_yes_iff (source target : String)
    (sourceArguments targetArguments : List TypeId) :
    (objectRule hierarchy ask source sourceArguments target targetArguments).verdict = .yes ↔
      hierarchy.isSameOrDerived source target = true ∧
        (sameClass source target = true ∨ targetArguments = [] ∨
          sourceArguments.length = targetArguments.length) ∧
        ∀ pair ∈ argumentPairs sourceArguments targetArguments, (ask pair).verdict = .yes := by
  unfold objectRule Hierarchy.isSameOrDerived
  by_cases same : sameClass source target = true
  · simp [same, Answer.allOf_yes_iff]
  · by_cases derived : hierarchy.isDerivedFrom source target = true
    · cases targetArguments with
      | nil => simp [same, derived, argumentPairs, Answer.yes, Answer.ofVerdict]
      | cons first others =>
          by_cases equallyMany : sourceArguments.length = (first :: others).length
          · rw [if_neg same, if_pos derived, if_neg (by simp), if_pos equallyMany,
              Answer.allOf_yes_iff]
            simp [derived, equallyMany]
          · rw [if_neg same, if_pos derived, if_neg (by simp), if_neg equallyMany]
            constructor
            · intro impossible
              cases impossible
            · rintro ⟨_, comparable | empty | equal, _⟩
              · exact absurd comparable same
              · cases empty
              · exact absurd equal equallyMany
    · rw [if_neg same, if_neg derived]
      split <;> simp [same, derived, Answer.maybe, Answer.no, Answer.ofVerdict]

theorem objectToIterableRule_yes_iff (source : String) (arguments : List TypeId)
    (key value : TypeId) :
    (objectToIterableRule hierarchy ask source arguments key value).verdict = .yes ↔
      hierarchy.isTraversable source = true ∧
        Accepted ask (iteratedTypes arguments).1 key ∧
        Accepted ask (iteratedTypes arguments).2 value := by
  unfold objectToIterableRule
  by_cases iterates : hierarchy.isTraversable source = true
  · simp [iterates, allOf_entryPairs_yes_iff]
  · rw [if_neg iterates]
    split <;> simp [iterates, Answer.maybe, Answer.no, Answer.ofVerdict]

theorem iterableToObjectRule_ne_yes (target : String) :
    (iterableToObjectRule hierarchy target).verdict ≠ .yes := by
  unfold iterableToObjectRule
  split <;> simp [Answer.maybe, Answer.no, Answer.ofVerdict]

theorem atomicRule_yes_iff (sourceShape targetShape : Shape) :
    (atomicRule hierarchy ask sourceShape targetShape).verdict = .yes ↔
      DefiniteAtomic hierarchy (Accepted ask) sourceShape targetShape := by
  constructor
  · intro yes
    cases sourceShape <;> cases targetShape <;> try cases yes
    case object.object =>
        obtain ⟨derived, comparable, covariant⟩ := (objectRule_yes_iff ..).mp yes
        exact .object derived comparable covariant
    case object.iterable =>
        obtain ⟨iterates, keys, values⟩ := (objectToIterableRule_yes_iff ..).mp yes
        exact .objectToIterable iterates keys values
    case iterable.object key value target arguments =>
        exact absurd yes (iterableToObjectRule_ne_yes hierarchy target)
    case iterable.iterable =>
        obtain ⟨keys, values⟩ := (allOf_entryPairs_yes_iff ..).mp yes
        exact .iterableToIterable keys values
    case array.iterable =>
        obtain ⟨keys, values⟩ := (allOf_entryPairs_yes_iff ..).mp yes
        exact .arrayToIterable keys values
    case array.array =>
        obtain ⟨keys, values⟩ := (allOf_entryPairs_yes_iff ..).mp yes
        exact .arrayToArray keys values
    case iterable.array =>
        rw [atomicRule, Verdict.and_eq_yes_iff] at yes
        exact absurd yes.1 (by decide)
  · intro reason
    cases reason with
    | object derived comparable covariant =>
        exact (objectRule_yes_iff ..).mpr ⟨derived, comparable, covariant⟩
    | objectToIterable iterates keys values =>
        exact (objectToIterableRule_yes_iff ..).mpr ⟨iterates, keys, values⟩
    | iterableToIterable keys values =>
        exact (allOf_entryPairs_yes_iff ..).mpr ⟨keys, values⟩
    | arrayToIterable keys values =>
        exact (allOf_entryPairs_yes_iff ..).mpr ⟨keys, values⟩
    | arrayToArray keys values =>
        exact (allOf_entryPairs_yes_iff ..).mpr ⟨keys, values⟩

/-! ### One level -/

theorem shapeRule_yes_iff (pair : TypePair) (sourceShape targetShape : Shape) :
    (shapeRule hierarchy ask pair sourceShape targetShape).verdict = .yes ↔
      Definite hierarchy (Accepted ask) pair.1 pair.2 sourceShape targetShape := by
  constructor
  · intro yes
    unfold shapeRule at yes
    split at yes
    · exact .unionSource ((Answer.agreement_yes_iff ..).mp yes)
    · rename_i members noUnion
      obtain ⟨member, present, accepts⟩ := (Answer.anyOf_yes_iff ..).mp yes
      refine .unionTarget ?_ present accepts
      cases sourceShape <;> first | rfl | exact absurd rfl (noUnion _)
    · rename_i members noUnion
      refine .intersectionTarget ?_ ((Answer.allOf_yes_iff ..).mp yes)
      cases sourceShape <;> first | rfl | exact absurd rfl (noUnion _)
    · rename_i members noUnion noIntersection
      obtain ⟨member, present, relates⟩ := (Answer.anyOf_yes_iff ..).mp yes
      refine .intersectionSource ?_ present relates
      cases targetShape <;>
        first | rfl | exact absurd rfl (noUnion _) | exact absurd rfl (noIntersection _)
    · exact .atomic ((atomicRule_yes_iff ..).mp yes)
  · intro reason
    cases reason with
    | unionSource each => exact (Answer.agreement_yes_iff ..).mpr each
    | unionTarget whole present accepts =>
        cases sourceShape <;> first
          | exact (Answer.anyOf_yes_iff ..).mpr ⟨_, present, accepts⟩
          | cases whole
    | intersectionTarget whole each =>
        cases sourceShape <;> first
          | exact (Answer.allOf_yes_iff ..).mpr each
          | cases whole
    | intersectionSource whole present relates =>
        cases targetShape <;> first
          | exact (Answer.anyOf_yes_iff ..).mpr ⟨_, present, relates⟩
          | cases whole
    | atomic reason =>
        rw [← atomicRule_yes_iff] at reason
        cases sourceShape <;> cases targetShape <;> first | exact reason | cases reason

/-! ### Levels -/

variable (store : TypeStore)

/-- The relation says yes within a number of levels. -/
def Below (levels : Nat) (source target : TypeId) : Prop :=
  (within store hierarchy levels (source, target)).verdict = .yes

theorem not_below_zero (source target : TypeId) : ¬ Below hierarchy store 0 source target := by
  intro yes
  cases yes

theorem below_succ_iff (levels : Nat) (source target : TypeId) :
    Below hierarchy store (levels + 1) source target ↔
      (source = target ∨ target = .mixed ∨ source = .never) ∨
        (target ≠ .never ∧ source ≠ .mixed ∧ ∃ sourceShape targetShape,
          store.lookup source = some sourceShape ∧ store.lookup target = some targetShape ∧
            Definite hierarchy (Below hierarchy store levels) source target
              sourceShape targetShape) := by
  unfold Below
  rw [within, step]
  by_cases trivially : source = target ∨ target = .mixed ∨ source = .never
  · simp [trivially, Answer.yes, Answer.ofVerdict, or_assoc]
  · have apart : ¬ (decide (source = target) || decide (target = .mixed) ||
        decide (source = .never)) = true := by simpa [or_assoc] using trivially
    rw [if_neg apart, or_iff_right trivially]
    by_cases bottom : target = .never
    · rw [if_pos bottom]
      simp [bottom, Answer.no, Answer.ofVerdict]
    · by_cases top : source = .mixed
      · rw [if_neg bottom, if_pos top]
        simp [top, Answer.maybe, Answer.ofVerdict]
      · rw [if_neg bottom, if_neg top]
        cases sourceFound : store.lookup source with
        | none => simp [Answer.no, Answer.ofVerdict]
        | some sourceShape =>
            cases targetFound : store.lookup target with
            | none => simp [Answer.no, Answer.ofVerdict]
            | some targetShape => simp [bottom, top, shapeRule_yes_iff]

theorem isSubtype_iff_below (source target : TypeId) :
    isSubtype store hierarchy source target = true ↔
      Below hierarchy store levelLimit source target := by
  unfold isSubtype Verdict.isYes
  exact beq_iff_eq

end Subtype

end AssociationCheck
