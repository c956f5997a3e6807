/-
Calls of a checker.

A checker that is used for many questions, with types added between them, is as good as a new one
for each: it is back at the top after every question, and it remembers that the limit was met
exactly where one of the questions met it.
-/

import AssociationCheck.Proofs.Subtype.Checker

namespace AssociationCheck

namespace SubtypeChecker

/-- What is done while a checker is in use: a type is added as it stands, or the checker is
asked. -/
inductive Call
  | intern (shape : Shape)
  | check (source target : TypeId)
  | isSubtype (source target : TypeId)
  deriving DecidableEq, Repr

inductive Reply
  | interned (id : TypeId)
  | verdict (verdict : Verdict)
  | isSubtype (isRelated : Bool)
  deriving DecidableEq, Repr

structure Session where
  store : TypeStore
  checker : SubtypeChecker := {}
  deriving DecidableEq, Repr

def perform (hierarchy : Hierarchy) : Call → StateM Session Reply
  | .intern shape => fun session =>
      let (id, store) := (TypeStore.intern shape).run session.store
      (.interned id, { session with store := store })
  | .check source target => fun session =>
      let (verdict, checker) := session.checker.check session.store hierarchy source target
      (.verdict verdict, { session with checker := checker })
  | .isSubtype source target => fun session =>
      let (isRelated, checker) := session.checker.isSubtype session.store hierarchy source target
      (.isSubtype isRelated, { session with checker := checker })

def performAll (hierarchy : Hierarchy) (calls : List Call) (session : Session) :
    List Reply × Session :=
  (calls.mapM (perform hierarchy)).run session

theorem performAll_cons (hierarchy : Hierarchy) (call : Call) (others : List Call)
    (session : Session) :
    performAll hierarchy (call :: others) session =
      let (reply, next) := perform hierarchy call session
      (reply :: (performAll hierarchy others next).1, (performAll hierarchy others next).2) := by
  rw [performAll, List.mapM_cons]
  rfl

namespace Call

def storeAfter (store : TypeStore) : Call → TypeStore
  | intern shape => ((TypeStore.intern shape).run store).2
  | _ => store

def replyOfNew (hierarchy : Hierarchy) (store : TypeStore) : Call → Reply
  | intern shape => .interned ((TypeStore.intern shape).run store).1
  | check source target => .verdict (SubtypeChecker.check {} store hierarchy source target).1
  | isSubtype source target =>
      .isSubtype (SubtypeChecker.isSubtype {} store hierarchy source target).1

def related (hierarchy : Hierarchy) (store : TypeStore) : Call → List Answer
  | intern _ => []
  | check source target => [relate store hierarchy source target]
  | isSubtype source target => [relate store hierarchy source target]

end Call

def repliesOfNew (hierarchy : Hierarchy) : TypeStore → List Call → List Reply
  | _, [] => []
  | store, call :: others =>
      call.replyOfNew hierarchy store :: repliesOfNew hierarchy (call.storeAfter store) others

def answersRelated (hierarchy : Hierarchy) : TypeStore → List Call → List Answer
  | _, [] => []
  | store, call :: others =>
      call.related hierarchy store ++ answersRelated hierarchy (call.storeAfter store) others

variable {hierarchy : Hierarchy} {session : Session}

theorem check_new (store : TypeStore) (hierarchy : Hierarchy) (source target : TypeId) :
    SubtypeChecker.check {} store hierarchy source target =
      let answer := relate store hierarchy source target
      (answer.verdict, { limited := answer.limited }) := by
  rw [check_eq]
  simp only [Bool.false_or]
  rfl

/-- Between two questions a checker replies as a new one, and it is at the top again after the
call. -/
theorem perform_atTop (atTop : session.checker.depth = 0) (call : Call) :
    perform hierarchy call session =
      (call.replyOfNew hierarchy session.store,
        { store := call.storeAfter session.store
          checker :=
            { limited := session.checker.limited ||
                (call.related hierarchy session.store).any Answer.limited } }) := by
  obtain ⟨store, depth, limited⟩ := session
  obtain rfl : depth = 0 := atTop
  cases call with
  | intern shape =>
      simp only [perform, Call.replyOfNew, Call.storeAfter, Call.related, List.any_nil,
        Bool.or_false]
      rfl
  | check source target =>
      simp only [perform, Call.replyOfNew, Call.storeAfter, Call.related, check_eq, List.any_cons,
        List.any_nil, Bool.or_false]
      rfl
  | isSubtype source target =>
      simp only [perform, Call.replyOfNew, Call.storeAfter, Call.related, isSubtype, check_eq,
        List.any_cons, List.any_nil, Bool.or_false]
      rfl

theorem performAll_atTop (hierarchy : Hierarchy) (atTop : session.checker.depth = 0)
    (calls : List Call) :
    (performAll hierarchy calls session).1 = repliesOfNew hierarchy session.store calls ∧
      (performAll hierarchy calls session).2.checker =
        { limited := session.checker.limited ||
            (answersRelated hierarchy session.store calls).any Answer.limited } := by
  induction calls generalizing session with
  | nil =>
      obtain ⟨store, depth, limited⟩ := session
      obtain rfl : depth = 0 := atTop
      rw [answersRelated, List.any_nil, Bool.or_false]
      exact ⟨rfl, rfl⟩
  | cons call others ih =>
      let next : Session :=
        { store := call.storeAfter session.store
          checker :=
            { limited := session.checker.limited ||
                (call.related hierarchy session.store).any Answer.limited } }
      have first : perform hierarchy call session = (_, next) := perform_atTop atTop call
      obtain ⟨replies, checker⟩ := @ih next rfl
      rw [performAll_cons, first, repliesOfNew, answersRelated, List.any_append, ← Bool.or_assoc]
      exact ⟨congrArg _ replies, checker⟩

/-- A checker that is used for any calls, in whatever store, replies to each as a new checker
would, and that is what the relation answers in the types that are there at that moment. It comes
back to the top, and remembers that the limit was met exactly where the relation meets it for one of
the questions. -/
theorem replies_as_new (hierarchy : Hierarchy) (store : TypeStore) (calls : List Call) :
    let run := performAll hierarchy calls { store := store }
    run.1 = repliesOfNew hierarchy store calls ∧
      run.2.checker.depth = 0 ∧
      (run.2.checker.limited = true ↔
        ∃ answer ∈ answersRelated hierarchy store calls, answer.limited = true) ∧
      ∀ (later : TypeStore) (source target : TypeId),
        SubtypeChecker.check {} later hierarchy source target =
            ((relate later hierarchy source target).verdict,
              { limited := (relate later hierarchy source target).limited }) ∧
          (SubtypeChecker.isSubtype {} later hierarchy source target).1 =
            AssociationCheck.isSubtype later hierarchy source target := by
  intro run
  have atTop : (Session.mk store {}).checker.depth = 0 := rfl
  obtain ⟨replies, checker⟩ := performAll_atTop hierarchy atTop calls
  refine ⟨replies, by rw [checker], ?_, ?_⟩
  · rw [checker]
    simp
  · intro later source target
    have new := check_new later hierarchy source target
    refine ⟨new, ?_⟩
    rw [isSubtype, new]
    rfl

/-- A union that contains itself leads past the limit, which is still remembered after a question
that does not. -/
example :
    performAll .empty
        [.intern (.union [⟨7⟩, .int]), .isSubtype ⟨7⟩ .string, .check .int .int]
        { store := .initial } =
      ([.interned ⟨7⟩, .isSubtype false, .verdict .yes],
        { store := ⟨TypeStore.initial.shapes.push (.union [⟨7⟩, .int])⟩
          checker := { limited := true } }) := by
  decide +kernel

end SubtypeChecker

end AssociationCheck
