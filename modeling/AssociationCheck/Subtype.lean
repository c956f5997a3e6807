/-
The subtype relation.

Whether every value of a source type is a value of a target type is answered yes, no or maybe.
Unions and intersections are taken apart first, in a fixed order: a source union, a target union,
a target intersection, a source intersection. What is left are pairs of simple, object, iterable
and array types. The answer looks down a limited number of levels; what lies deeper is maybe, and
the answer says that the limit was met. A checker gives the same answers while it counts the levels
itself.
-/

import AssociationCheck.Verdict
import AssociationCheck.Types.Store
import AssociationCheck.Hierarchy

namespace AssociationCheck

/-! ### Answers -/

/-- A verdict, and whether the limit was met on the way to it. -/
structure Answer where
  verdict : Verdict
  limited : Bool
  deriving DecidableEq, Repr

namespace Answer

def ofVerdict (verdict : Verdict) : Answer := ⟨verdict, false⟩

def yes : Answer := ofVerdict .yes
def maybe : Answer := ofVerdict .maybe
def no : Answer := ofVerdict .no

def beyondLimit : Answer := ⟨.maybe, true⟩

/-- The lowest of the answers to some questions, asked in order until one is no. -/
def allOf {α : Type} (ask : α → Answer) : List α → Answer
  | [] => yes
  | question :: others =>
      let first := ask question
      if first.verdict = .no then first
      else
        let rest := allOf ask others
        ⟨first.verdict.and rest.verdict, first.limited || rest.limited⟩

/-- The highest of the answers to some questions, asked in order until one is yes. -/
def anyOf {α : Type} (ask : α → Answer) : List α → Answer
  | [] => no
  | question :: others =>
      let first := ask question
      if first.verdict = .yes then first
      else
        let rest := anyOf ask others
        ⟨first.verdict.or rest.verdict, first.limited || rest.limited⟩

def agreement {α : Type} (ask : α → Answer) (questions : List α) : Answer :=
  let answers := questions.map ask
  ⟨Verdict.agreement (answers.map Answer.verdict), answers.any Answer.limited⟩

end Answer

/-! ### The relation -/

abbrev TypePair := TypeId × TypeId

namespace Subtype

/-- The types of keys and values that iterating an object yields, by its type arguments: the last
two, or `mixed` for those that are not given. -/
def iteratedTypes (arguments : List TypeId) : TypeId × TypeId :=
  match arguments.reverse with
  | [] => (.mixed, .mixed)
  | [value] => (.mixed, value)
  | value :: key :: _ => (key, value)

/-- Type arguments are paired by position; one that the source does not give is `mixed`. -/
def argumentPairs : List TypeId → List TypeId → List TypePair
  | _, [] => []
  | [], target :: targets => (.mixed, target) :: argumentPairs [] targets
  | source :: sources, target :: targets => (source, target) :: argumentPairs sources targets

/-- Keys are compared before values. -/
def entryPairs (sourceKey sourceValue targetKey targetValue : TypeId) : List TypePair :=
  [(sourceKey, targetKey), (sourceValue, targetValue)]

/-- One class against another. How a subclass fills the type parameters of its ancestor is not
known, so arguments are compared only where there are equally many. -/
def objectRule (hierarchy : Hierarchy) (ask : TypePair → Answer)
    (source : String) (sourceArguments : List TypeId)
    (target : String) (targetArguments : List TypeId) : Answer :=
  if sameClass source target then
    .allOf ask (argumentPairs sourceArguments targetArguments)
  else if hierarchy.isDerivedFrom source target then
    if targetArguments.isEmpty then .yes
    else if sourceArguments.length = targetArguments.length then
      .allOf ask (argumentPairs sourceArguments targetArguments)
    else .maybe
  else if hierarchy.mayShareInstances source target then .maybe
  else .no

/-- A class against an iterable: what it yields where it can be iterated; otherwise a subclass
might be, unless there can be none. -/
def objectToIterableRule (hierarchy : Hierarchy) (ask : TypePair → Answer)
    (source : String) (sourceArguments : List TypeId) (key value : TypeId) : Answer :=
  if hierarchy.isTraversable source then
    let (sourceKey, sourceValue) := iteratedTypes sourceArguments
    .allOf ask (entryPairs sourceKey sourceValue key value)
  else if hierarchy.isFinal source then .no
  else .maybe

/-- An iterable against a class: it may be an array, so at best it may be an instance. -/
def iterableToObjectRule (hierarchy : Hierarchy) (target : String) : Answer :=
  if hierarchy.isFinal target && !hierarchy.isTraversable target then .no else .maybe

def atomicRule (hierarchy : Hierarchy) (ask : TypePair → Answer) : Shape → Shape → Answer
  | .object source sourceArguments, .object target targetArguments =>
      objectRule hierarchy ask source sourceArguments target targetArguments
  | .object source sourceArguments, .iterable key value =>
      objectToIterableRule hierarchy ask source sourceArguments key value
  | .iterable _ _, .object target _ => iterableToObjectRule hierarchy target
  | .array sourceKey sourceValue, .iterable key value
  | .iterable sourceKey sourceValue, .iterable key value
  | .array sourceKey sourceValue, .array key value =>
      .allOf ask (entryPairs sourceKey sourceValue key value)
  | .iterable sourceKey sourceValue, .array key value =>
      let entries := Answer.allOf ask (entryPairs sourceKey sourceValue key value)
      { entries with verdict := Verdict.maybe.and entries.verdict }
  | _, _ => .no

/-- A pair of types that differ, neither of them all values or no value. -/
def shapeRule (hierarchy : Hierarchy) (ask : TypePair → Answer) (pair : TypePair)
    (source target : Shape) : Answer :=
  match source, target with
  | .union members, _ => .agreement (fun member => ask (member, pair.2)) members
  | _, .union members => .anyOf (fun member => ask (pair.1, member)) members
  | _, .intersection members => .allOf (fun member => ask (pair.1, member)) members
  | .intersection members, _ => .anyOf (fun member => ask (member, pair.2)) members
  | source, target => atomicRule hierarchy ask source target

def step (store : TypeStore) (hierarchy : Hierarchy) (ask : TypePair → Answer)
    (pair : TypePair) : Answer :=
  let (source, target) := pair
  if source = target || target = .mixed || source = .never then .yes
  else if target = .never then .no
  else if source = .mixed then .maybe
  else
    match store.lookup source, store.lookup target with
    | some sourceShape, some targetShape =>
        shapeRule hierarchy ask pair sourceShape targetShape
    | _, _ => .no

def within (store : TypeStore) (hierarchy : Hierarchy) : Nat → TypePair → Answer
  | 0, _ => .beyondLimit
  | levels + 1, pair => step store hierarchy (within store hierarchy levels) pair

def levelLimit : Nat := 64

def fromLevel (store : TypeStore) (hierarchy : Hierarchy) (level : Nat) (source target : TypeId) :
    Answer :=
  within store hierarchy (levelLimit - level) (source, target)

end Subtype

def relate (store : TypeStore) (hierarchy : Hierarchy) (source target : TypeId) : Answer :=
  Subtype.fromLevel store hierarchy 0 source target

/-- Only a definite yes counts. -/
def isSubtype (store : TypeStore) (hierarchy : Hierarchy) (source target : TypeId) : Bool :=
  (relate store hierarchy source target).verdict.isYes

/-! ### A checker -/

/-- What a checker keeps while it is asked one question after the other. -/
structure SubtypeChecker where
  /-- The questions that it is in the middle of, each of which came up in the one before. -/
  depth : Nat := 0
  /-- A question was refused. -/
  limited : Bool := false
  deriving DecidableEq, Repr

namespace SubtypeChecker

abbrev Asking := StateM SubtypeChecker

open AssociationCheck.Subtype (argumentPairs entryPairs iteratedTypes)

def askAll {α : Type} (ask : α → Asking Verdict) (lowest : Verdict) : List α → Asking Verdict
  | [] => pure lowest
  | question :: others => do
      let lowest := lowest.and (← ask question)
      if lowest = .no then pure lowest else askAll ask lowest others

def askAny {α : Type} (ask : α → Asking Verdict) (highest : Verdict) : List α → Asking Verdict
  | [] => pure highest
  | question :: others => do
      let highest := highest.or (← ask question)
      if highest = .yes then pure highest else askAny ask highest others

/-- The verdict on which the answers to all questions agree; every one is asked. -/
def askEach {α : Type} (ask : α → Asking Verdict) (questions : List α) : Asking Verdict := do
  pure (Verdict.agreement (← questions.mapM ask))

section Rules

-- The rules are those of the relation; where one ends early, nothing more is asked.
variable (hierarchy : Hierarchy) (ask : TypePair → Asking Verdict)

def askObjects (source : String) (sourceArguments : List TypeId) (target : String)
    (targetArguments : List TypeId) : Asking Verdict :=
  if sameClass source target then
    askAll ask .yes (argumentPairs sourceArguments targetArguments)
  else if hierarchy.isDerivedFrom source target then
    if targetArguments.isEmpty then pure .yes
    else if sourceArguments.length = targetArguments.length then
      askAll ask .yes (argumentPairs sourceArguments targetArguments)
    else pure .maybe
  else if hierarchy.mayShareInstances source target then pure .maybe
  else pure .no

def askObjectToIterable (source : String) (sourceArguments : List TypeId) (key value : TypeId) :
    Asking Verdict :=
  if hierarchy.isTraversable source then
    let (sourceKey, sourceValue) := iteratedTypes sourceArguments
    askAll ask .yes (entryPairs sourceKey sourceValue key value)
  else if hierarchy.isFinal source then pure .no
  else pure .maybe

def askIterableToObject (target : String) : Asking Verdict :=
  if hierarchy.isFinal target && !hierarchy.isTraversable target then pure .no else pure .maybe

def askAtomic : Shape → Shape → Asking Verdict
  | .object source sourceArguments, .object target targetArguments =>
      askObjects hierarchy ask source sourceArguments target targetArguments
  | .object source sourceArguments, .iterable key value =>
      askObjectToIterable hierarchy ask source sourceArguments key value
  | .iterable _ _, .object target _ => askIterableToObject hierarchy target
  | .array sourceKey sourceValue, .iterable key value
  | .iterable sourceKey sourceValue, .iterable key value
  | .array sourceKey sourceValue, .array key value =>
      askAll ask .yes (entryPairs sourceKey sourceValue key value)
  | .iterable sourceKey sourceValue, .array key value => do
      let entries ← askAll ask .yes (entryPairs sourceKey sourceValue key value)
      pure (Verdict.maybe.and entries)
  | _, _ => pure .no

def askShapes (pair : TypePair) : Shape → Shape → Asking Verdict
  | .union members, _ => askEach (fun member => ask (member, pair.2)) members
  | _, .union members => askAny (fun member => ask (pair.1, member)) .no members
  | _, .intersection members => askAll (fun member => ask (pair.1, member)) .yes members
  | .intersection members, _ => askAny (fun member => ask (member, pair.2)) .no members
  | source, target => askAtomic hierarchy ask source target

/-- A question that is not refused. -/
def askParts (store : TypeStore) (pair : TypePair) : Asking Verdict :=
  let (source, target) := pair
  if source = target || target = .mixed || source = .never then pure .yes
  else if target = .never then pure .no
  else if source = .mixed then pure .maybe
  else
    match store.lookup source, store.lookup target with
    | some sourceShape, some targetShape => askShapes hierarchy ask pair sourceShape targetShape
    | _, _ => pure .no

end Rules

/-- A question is refused at the limit, and otherwise counted until it has its answer. One question
leads to another no more often than the given number says, which is never used up before the limit
is met. -/
def ask (store : TypeStore) (hierarchy : Hierarchy) : Nat → TypePair → Asking Verdict
  | 0, _ => pure .no
  | turns + 1, pair => do
      if Subtype.levelLimit ≤ (← get).depth then
        modify fun checker => { checker with limited := true }
        pure .maybe
      else
        modify fun checker => { checker with depth := checker.depth + 1 }
        let verdict ← askParts hierarchy (ask store hierarchy turns) store pair
        modify fun checker => { checker with depth := checker.depth - 1 }
        pure verdict

def check (checker : SubtypeChecker) (store : TypeStore) (hierarchy : Hierarchy)
    (source target : TypeId) : Verdict × SubtypeChecker :=
  (ask store hierarchy (Subtype.levelLimit + 1) (source, target)).run checker

def isSubtype (checker : SubtypeChecker) (store : TypeStore) (hierarchy : Hierarchy)
    (source target : TypeId) : Bool × SubtypeChecker :=
  let (verdict, checker) := checker.check store hierarchy source target
  (verdict.isYes, checker)

end SubtypeChecker

end AssociationCheck
