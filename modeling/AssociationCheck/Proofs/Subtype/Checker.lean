/-
Questions to a checker.

While it answers a question a checker counts the levels that it has gone down. It comes back to the
level from which it was asked, whichever way the answer was found, so its answer is that of the
relation from that level, and what it remembers is whether the limit was met.
-/

import AssociationCheck.Proofs.Subtype.Precision

namespace AssociationCheck

namespace Verdict

theorem and_assoc (first second third : Verdict) :
    (first.and second).and third = first.and (second.and third) := by
  apply rank_injective
  simp only [rank_and, Nat.min_assoc]

theorem or_assoc (first second third : Verdict) :
    (first.or second).or third = first.or (second.or third) := by
  apply rank_injective
  simp only [rank_or, Nat.max_assoc]

end Verdict

namespace SubtypeChecker

open AssociationCheck.Subtype (argumentPairs entryPairs iteratedTypes levelLimit fromLevel within)

variable {α : Type} {store : TypeStore} {depth : Nat}

/-- Asked at some depth, the computation gives a verdict, comes back to that depth and remembers
whether the limit was met. -/
def Answers (asking : Asking Verdict) (depth : Nat) (answer : Answer) : Prop :=
  ∀ checker : SubtypeChecker, checker.depth = depth →
    asking.run checker =
      (answer.verdict, { checker with limited := checker.limited || answer.limited })

theorem answers_pure (verdict : Verdict) : Answers (pure verdict) depth (.ofVerdict verdict) := by
  intro checker _
  rw [Answer.ofVerdict, Bool.or_false]
  rfl

section Sequence

variable {asking : Asking Verdict} {next : Verdict → Asking Verdict} {first : Answer}
  {verdict : Verdict} {limited : Bool} (asked : Answers asking depth first)
include asked

theorem Answers.bind (follows : Answers (next first.verdict) depth ⟨verdict, limited⟩) :
    Answers (asking >>= next) depth ⟨verdict, first.limited || limited⟩ := by
  intro checker atDepth
  have rest := follows { checker with limited := checker.limited || first.limited } atDepth
  rw [StateT.run_bind, asked checker atDepth]
  simp only [Bool.or_assoc] at rest
  exact rest

theorem Answers.bind_pure (ends : next first.verdict = pure verdict) :
    Answers (asking >>= next) depth ⟨verdict, first.limited⟩ := by
  rw [← Bool.or_false first.limited]
  apply asked.bind
  rw [ends]
  exact answers_pure verdict

end Sequence

/-! ### Several questions -/

section Several

variable {ask : α → Asking Verdict} {answer : α → Answer}
  (each : ∀ question, Answers (ask question) depth (answer question))
include each

theorem answers_askAll_from (questions : List α) {lowest : Verdict} (possible : lowest ≠ .no) :
    Answers (askAll ask lowest questions) depth
      ⟨lowest.and (Answer.allOf answer questions).verdict,
        (Answer.allOf answer questions).limited⟩ := by
  induction questions generalizing lowest with
  | nil =>
      have kept : lowest.and .yes = lowest := by cases lowest <;> rfl
      rw [askAll, Answer.allOf, Answer.yes, Answer.ofVerdict, kept]
      exact answers_pure lowest
  | cons question others ih =>
      rw [askAll, Answer.allOf]
      by_cases refused : (answer question).verdict = .no
      · have lowered : lowest.and (answer question).verdict = .no :=
          (Verdict.and_eq_no_iff ..).mpr (.inr refused)
        rw [if_pos refused]
        exact (each question).bind_pure (if_pos lowered)
      · have stays : lowest.and (answer question).verdict ≠ .no := by
          rw [ne_eq, Verdict.and_eq_no_iff]
          exact not_or.mpr ⟨possible, refused⟩
        rw [if_neg refused, ← Verdict.and_assoc]
        apply (each question).bind
        rw [if_neg stays]
        exact ih stays

theorem answers_askAny_from (questions : List α) {highest : Verdict} (undecided : highest ≠ .yes) :
    Answers (askAny ask highest questions) depth
      ⟨highest.or (Answer.anyOf answer questions).verdict,
        (Answer.anyOf answer questions).limited⟩ := by
  induction questions generalizing highest with
  | nil =>
      have kept : highest.or .no = highest := by cases highest <;> rfl
      rw [askAny, Answer.anyOf, Answer.no, Answer.ofVerdict, kept]
      exact answers_pure highest
  | cons question others ih =>
      rw [askAny, Answer.anyOf]
      by_cases accepted : (answer question).verdict = .yes
      · have raised : highest.or (answer question).verdict = .yes :=
          (Verdict.or_eq_yes_iff ..).mpr (.inr accepted)
        rw [if_pos accepted]
        exact (each question).bind_pure (if_pos raised)
      · have stays : highest.or (answer question).verdict ≠ .yes := by
          rw [ne_eq, Verdict.or_eq_yes_iff]
          exact not_or.mpr ⟨undecided, accepted⟩
        rw [if_neg accepted, ← Verdict.or_assoc]
        apply (each question).bind
        rw [if_neg stays]
        exact ih stays

theorem answers_askAll (questions : List α) :
    Answers (askAll ask .yes questions) depth (.allOf answer questions) := by
  have possible : Verdict.yes ≠ .no := by decide
  have all := answers_askAll_from each questions possible
  have kept (verdict : Verdict) : Verdict.yes.and verdict = verdict := by cases verdict <;> rfl
  rwa [kept] at all

theorem answers_askAny (questions : List α) :
    Answers (askAny ask .no questions) depth (.anyOf answer questions) := by
  have undecided : Verdict.no ≠ .yes := by decide
  have any := answers_askAny_from each questions undecided
  have kept (verdict : Verdict) : Verdict.no.or verdict = verdict := by cases verdict <;> rfl
  rwa [kept] at any

theorem run_mapM (questions : List α) {checker : SubtypeChecker} (atDepth : checker.depth = depth) :
    (questions.mapM ask).run checker =
      (questions.map (fun question => (answer question).verdict),
        { checker with
          limited := checker.limited || (questions.map answer).any Answer.limited }) := by
  induction questions generalizing checker with
  | nil =>
      rw [List.mapM_nil, List.map_nil, List.map_nil, List.any_nil, Bool.or_false]
      rfl
  | cons question others ih =>
      let next := { checker with limited := checker.limited || (answer question).limited }
      have rest : (others.mapM ask).run next = _ := ih atDepth
      rw [List.mapM_cons, StateT.run_bind, each question checker atDepth]
      change (do
        let verdicts ← others.mapM ask
        pure ((answer question).verdict :: verdicts) : Asking (List Verdict)).run next = _
      rw [StateT.run_bind, rest]
      simp only [next, List.map_cons, List.any_cons, Bool.or_assoc]
      rfl

theorem answers_askEach (questions : List α) :
    Answers (askEach ask questions) depth (.agreement answer questions) := by
  intro checker atDepth
  rw [askEach, StateT.run_bind, run_mapM each questions atDepth, Answer.agreement]
  simp only [List.map_map]
  rfl

end Several

/-! ### One question -/

section Rules

variable (hierarchy : Hierarchy) {ask : TypePair → Asking Verdict} {answer : TypePair → Answer}
  (each : ∀ pair, Answers (ask pair) depth (answer pair))
include each

theorem answers_askObjects (source : String) (sourceArguments : List TypeId) (target : String)
    (targetArguments : List TypeId) :
    Answers (askObjects hierarchy ask source sourceArguments target targetArguments) depth
      (Subtype.objectRule hierarchy answer source sourceArguments target targetArguments) := by
  have arguments := answers_askAll each (argumentPairs sourceArguments targetArguments)
  unfold askObjects Subtype.objectRule
  split
  · exact arguments
  · split
    · split
      · exact answers_pure .yes
      · split
        · exact arguments
        · exact answers_pure .maybe
    · split
      · exact answers_pure .maybe
      · exact answers_pure .no

theorem answers_askObjectToIterable (source : String) (arguments : List TypeId)
    (key value : TypeId) :
    Answers (askObjectToIterable hierarchy ask source arguments key value) depth
      (Subtype.objectToIterableRule hierarchy answer source arguments key value) := by
  unfold askObjectToIterable Subtype.objectToIterableRule
  split
  · exact answers_askAll each _
  · split
    · exact answers_pure .no
    · exact answers_pure .maybe

omit each in
theorem answers_askIterableToObject (target : String) :
    Answers (askIterableToObject hierarchy target) depth
      (Subtype.iterableToObjectRule hierarchy target) := by
  unfold askIterableToObject Subtype.iterableToObjectRule
  split
  · exact answers_pure .no
  · exact answers_pure .maybe

theorem answers_askAtomic (source target : Shape) :
    Answers (askAtomic hierarchy ask source target) depth
      (Subtype.atomicRule hierarchy answer source target) := by
  have entries (sourceKey sourceValue key value : TypeId) :=
    answers_askAll each (entryPairs sourceKey sourceValue key value)
  cases source <;> cases target <;> try exact answers_pure .no
  case object.object => exact answers_askObjects hierarchy each _ _ _ _
  case object.iterable => exact answers_askObjectToIterable hierarchy each _ _ _ _
  case iterable.object => exact answers_askIterableToObject hierarchy _
  case iterable.iterable => exact entries _ _ _ _
  case array.iterable => exact entries _ _ _ _
  case array.array => exact entries _ _ _ _
  case iterable.array => exact (entries _ _ _ _).bind_pure rfl

theorem answers_askShapes (pair : TypePair) (source target : Shape) :
    Answers (askShapes hierarchy ask pair source target) depth
      (Subtype.shapeRule hierarchy answer pair source target) := by
  have toTarget (member : TypeId) := each (member, pair.2)
  have fromSource (member : TypeId) := each (pair.1, member)
  have atomic := answers_askAtomic hierarchy each source target
  cases source with
  | union members => exact answers_askEach toTarget members
  | intersection members =>
      cases target with
      | union targets => exact answers_askAny fromSource targets
      | intersection targets => exact answers_askAll fromSource targets
      | _ => exact answers_askAny toTarget members
  | _ =>
      cases target with
      | union targets => exact answers_askAny fromSource targets
      | intersection targets => exact answers_askAll fromSource targets
      | _ => exact atomic

theorem answers_askParts (pair : TypePair) :
    Answers (askParts hierarchy ask store pair) depth
      (Subtype.step store hierarchy answer pair) := by
  obtain ⟨source, target⟩ := pair
  unfold askParts Subtype.step
  simp only
  split
  · exact answers_pure .yes
  · split
    · exact answers_pure .no
    · split
      · exact answers_pure .maybe
      · cases store.lookup source with
        | none => exact answers_pure .no
        | some sourceShape =>
            cases store.lookup target with
            | none => exact answers_pure .no
            | some targetShape => exact answers_askShapes hierarchy each _ _ _

end Rules

/-! ### Levels -/

/-- Asked at some depth, the checker answers as the relation does from that level. -/
theorem answers_ask (hierarchy : Hierarchy) (turns : Nat) (enough : levelLimit - depth < turns)
    (pair : TypePair) :
    Answers (ask store hierarchy turns pair) depth
      (within store hierarchy (levelLimit - depth) pair) := by
  induction turns generalizing depth pair with
  | zero => omega
  | succ turns ih =>
      intro checker atDepth
      rw [ask, StateT.run_bind]
      change (if levelLimit ≤ checker.depth then _ else _ : Asking Verdict).run checker = _
      by_cases refused : levelLimit ≤ checker.depth
      · have noneLeft : levelLimit - depth = 0 := by omega
        rw [if_pos refused, noneLeft, within, Answer.beyondLimit, Bool.or_true]
        rfl
      · have below : levelLimit - (depth + 1) < turns := by omega
        have oneMore : levelLimit - depth = levelLimit - (depth + 1) + 1 := by omega
        have parts : Answers (askParts hierarchy (ask store hierarchy turns) store pair)
            (depth + 1) (within store hierarchy (levelLimit - depth) pair) := by
          rw [oneMore, within]
          exact answers_askParts hierarchy (ih below) pair
        have asked := parts { checker with depth := checker.depth + 1 } (by rw [atDepth])
        rw [if_neg refused]
        change (do
          let verdict ← askParts hierarchy (ask store hierarchy turns) store pair
          modify fun checker => { checker with depth := checker.depth - 1 }
          pure verdict : Asking Verdict).run { checker with depth := checker.depth + 1 } = _
        rw [StateT.run_bind, asked]
        rfl

/-- A checker answers from its depth on, and changes in that it remembers whether the limit was
met. -/
theorem check_eq (checker : SubtypeChecker) (store : TypeStore) (hierarchy : Hierarchy)
    (source target : TypeId) :
    checker.check store hierarchy source target =
      let answer := fromLevel store hierarchy checker.depth source target
      (answer.verdict, { checker with limited := checker.limited || answer.limited }) := by
  have enough : levelLimit - checker.depth < levelLimit + 1 := by omega
  exact answers_ask hierarchy (levelLimit + 1) enough (source, target) checker rfl

end SubtypeChecker

end AssociationCheck
