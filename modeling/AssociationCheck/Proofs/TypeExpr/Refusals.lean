/-
Where a text stops being a type expression.

A reading goes along the outline of its tokens, and calls a token unexpected only where the outline
cannot go on with it. So the token that is reported is the first one with which no union can begin,
and a text that ends unexpectedly is the beginning of a union but none itself. A stray character is
found before any token is read.
-/

import AssociationCheck.Proofs.TypeExpr.Moves
import AssociationCheck.Proofs.TypeExpr.Outlines
import AssociationCheck.Proofs.TypeExpr.Tokens
import AssociationCheck.TypeExpr.Parse

namespace AssociationCheck

open Token Outline

/-! ### The outline of a reading -/

def Enclosure.bracketing : Enclosure → Bracketing
  | group => .group
  | arguments _ _ => .arguments

def Place.stance : Place → Stance
  | beforeOperand => .beforeOperand
  | afterName _ => .afterName
  | afterOperand _ => .afterOperand
  | inBrackets _ => .inBrackets

def Reading.outline (reading : Reading) : Outline where
  around := reading.outer.map (fun frame => frame.2.bracketing)
  stance := reading.place.stance

namespace Reading

variable {reading next : Reading} {token : Token}

theorem isComplete_stance {place : Place} {operand : TypeExpr}
    (complete : place.operand? = some operand) : place.stance.isComplete = true := by
  cases place with
  | beforeOperand | inBrackets => cases complete
  | afterName | afterOperand => rfl

/-- A token that may follow in a reading may follow in its outline. -/
theorem Moves.next?_outline (moves : Moves reading token next) :
    reading.outline.next? token = some next.outline := by
  cases moves with
  | name | question | openGroup | less | closeBracket => rfl
  | openBracket _ _ complete | ampersand _ _ complete | bar _ _ complete =>
      exact next?_of_isComplete (isComplete_stance complete) _ (by decide)
  | closeGroup _ _ _ complete =>
      exact next?_of_isComplete (isComplete_stance complete) _ (by decide)
  | comma _ _ _ _ _ complete =>
      exact next?_of_isComplete (isComplete_stance complete) _ (by decide)
  | greater _ _ _ complete =>
      exact next?_of_isComplete (isComplete_stance complete) _ (by decide)

theorem withinDepth_ne_unexpected (reading : Reading) :
    reading.withinDepth ≠ .error .unexpected := by
  unfold withinDepth
  split
  · exact nofun
  · exact nofun

/-- A mark behind an operand that is unexpected has no place in the outline. -/
theorem behind?_eq_none (outer : List (OpenUnion × Enclosure)) (inner : OpenUnion) (place : Place)
    (operand : TypeExpr) (mark : Mark)
    (refused : continueAfter ⟨outer, inner, place⟩ operand (.mark mark) = .error .unexpected) :
    behind? (outer.map (fun frame => frame.2.bracketing)) mark = none := by
  rcases outer with _ | ⟨⟨waiting, enclosure⟩, others⟩
  · cases mark with
    | openBracket | ampersand | bar => cases refused
    | _ => rfl
  · cases enclosure with
    | group =>
        cases mark with
        | openBracket | ampersand | bar | closeGroup => cases refused
        | _ => rfl
    | arguments called given =>
        cases mark with
        | openBracket | ampersand | bar | comma => cases refused
        | greater =>
            -- A class that does not take its arguments is another failure than an unexpected token.
            cases applies : TypeExpr.ofName? called (inner.complete operand :: given).reverse with
            | none =>
                simp only [continueAfter, applies] at refused
                cases refused
            | some applied => simp only [continueAfter, applies, reduceCtorEq] at refused
        | _ => rfl

theorem next?_eq_none (refused : reading.step token = .error .unexpected) :
    reading.outline.next? token = none := by
  obtain ⟨outer, inner, place⟩ := reading
  cases place with
  | beforeOperand =>
      cases token with
      | name text => cases refused
      | mark mark =>
          cases mark with
          | question | openGroup => exact absurd refused (withinDepth_ne_unexpected _)
          | _ => rfl
  | afterName name =>
      cases token with
      | name text => rfl
      | mark mark =>
          by_cases isLess : mark = .less
          · subst isLess
            exact absurd refused (withinDepth_ne_unexpected _)
          · have complete : (Place.afterName name).operand? = some (.ofBareName name) := rfl
            rw [step_eq_continueAfter outer inner complete (by simpa using isLess)] at refused
            exact (next?_of_isComplete rfl _ isLess).trans
              (behind?_eq_none outer inner _ _ mark refused)
  | afterOperand operand =>
      cases token with
      | name text => rfl
      | mark mark => exact behind?_eq_none outer inner _ operand mark refused
  | inBrackets operand =>
      cases token with
      | name text => rfl
      | mark mark =>
          cases mark with
          | closeBracket => cases refused
          | _ => rfl

theorem not_isComplete (unfinished : reading.result? = none) :
    ¬ (reading.outline.around = [] ∧ reading.outline.stance.isComplete = true) := by
  rintro ⟨closed, complete⟩
  obtain ⟨outer, inner, place⟩ := reading
  have alone : outer = [] := List.map_eq_nil_iff.mp closed
  subst alone
  cases place with
  | beforeOperand | inBrackets => cases complete
  | afterName | afterOperand => cases unfinished

/-! ### Where reading stops -/

/-- A reading stops at an unexpected token where its outline cannot go on, and at the end of the
tokens where its outline is not complete. -/
theorem run_unexpected {placed : List PlacedToken} {failure : Failure}
    (isError : reading.run placed = .error failure) (unexpected : failure.fault = .unexpected) :
    (∃ before stopped after outline, placed = before ++ stopped :: after ∧
      failure.token? = some stopped ∧
      reading.outline.follow (before.map PlacedToken.token) = some outline ∧
      outline.next? stopped.token = none) ∨
    (failure.token? = none ∧ ∃ outline,
      reading.outline.follow (placed.map PlacedToken.token) = some outline ∧
      ¬ (outline.around = [] ∧ outline.stance.isComplete = true)) := by
  induction placed generalizing reading with
  | nil =>
      rw [run] at isError
      cases unfinished : reading.result? with
      | some found =>
          rw [unfinished] at isError
          cases isError
      | none =>
          rw [unfinished] at isError
          cases isError
          exact Or.inr ⟨rfl, _, rfl, not_isComplete unfinished⟩
  | cons first rest ih =>
      rw [run] at isError
      rcases reading.step_cases first.token with
        ⟨next, isStep, moves, _⟩ | ⟨_, isStep, _, _⟩ | ⟨fault, isStep, _⟩ <;>
        rw [isStep] at isError
      · have goesOn := moves.next?_outline
        rcases ih isError with
          ⟨before, stopped, after, outline, rfl, isStopped, read, refused⟩ |
          ⟨atEnd, outline, read, incomplete⟩
        · exact Or.inl ⟨first :: before, stopped, after, outline, rfl, isStopped,
            follow_cons goesOn read, refused⟩
        · exact Or.inr ⟨atEnd, outline, follow_cons goesOn read, incomplete⟩
      · cases isError
        cases unexpected
      · cases isError
        subst unexpected
        exact Or.inl ⟨[], first, rest, reading.outline, rfl, rfl, rfl, next?_eq_none isStep⟩

/-- A union begins with the tokens before an unexpected one, and with that one none does. -/
theorem run_stopped {placed : List PlacedToken} {failure : Failure}
    (isError : run {} placed = .error failure) (unexpected : failure.fault = .unexpected)
    {stopped : PlacedToken} (isStopped : failure.token? = some stopped) :
    ∃ before after, placed = before ++ stopped :: after ∧
      BeginsUnion (before.map PlacedToken.token) ∧
      ¬ BeginsUnion (before.map PlacedToken.token ++ [stopped.token]) := by
  rcases run_unexpected isError unexpected with
    ⟨before, other, after, outline, rfl, isOther, read, refused⟩ | ⟨atEnd, -⟩
  · cases isStopped.symm.trans isOther
    refine ⟨before, after, rfl, (beginsUnion_iff _).mpr ⟨outline, read⟩, fun begins => ?_⟩
    obtain ⟨last, further⟩ := (beginsUnion_iff _).mp begins
    obtain ⟨middle, same, goesOn⟩ := exists_of_follow_append further
    cases read.symm.trans same
    obtain ⟨_, step, -⟩ := Option.bind_eq_some_iff.mp goesOn
    rw [refused] at step
    cases step
  · rw [atEnd] at isStopped
    cases isStopped

theorem run_ended {placed : List PlacedToken} {failure : Failure}
    (isError : run {} placed = .error failure) (unexpected : failure.fault = .unexpected)
    (atEnd : failure.token? = none) :
    BeginsUnion (placed.map PlacedToken.token) ∧ ¬ IsUnion (placed.map PlacedToken.token) := by
  rcases run_unexpected isError unexpected with
    ⟨_, stopped, _, _, _, isStopped, _⟩ | ⟨-, outline, read, incomplete⟩
  · rw [atEnd] at isStopped
    cases isStopped
  · refine ⟨(beginsUnion_iff _).mpr ⟨outline, read⟩, fun whole => incomplete ?_⟩
    obtain ⟨stance, complete, finished⟩ := (isUnion_iff _).mp whole
    cases read.symm.trans finished
    exact ⟨rfl, complete⟩

end Reading

/-! ### Texts -/

namespace TypeParseError

variable {input found shown : String} {offset : Nat} {failure : Reading.Failure}

theorem exists_stopped (same : unexpectedToken found offset shown = ofFailure input failure) :
    shown = input ∧ failure.fault = .unexpected ∧ ∃ stopped, failure.token? = some stopped ∧
      stopped.token.text = found ∧ stopped.offset = offset := by
  unfold ofFailure at same
  split at same
  · rename_i stopped unexpected isStopped
    cases same
    exact ⟨rfl, unexpected, stopped, isStopped, rfl, rfl⟩
  · cases same
  · cases same
  · cases same

theorem token?_eq_none (same : unexpectedEnd shown = ofFailure input failure) :
    shown = input ∧ failure.fault = .unexpected ∧ failure.token? = none := by
  unfold ofFailure at same
  split at same
  · cases same
  · rename_i unexpected atEnd
    cases same
    exact ⟨rfl, unexpected, atEnd⟩
  · cases same
  · cases same

end TypeParseError

namespace TypeExpr

variable {input : String} {error : TypeParseError} {parts : List TypeExpr}

theorem cases_of_refused (refused : ofText input = .error (error, parts)) :
    (∃ stray, PlacedToken.ofText input = .error stray ∧
      error = .unexpectedToken stray.char.toString stray.offset input) ∨
    ∃ placed failure, PlacedToken.ofText input = .ok placed ∧
      Reading.run {} placed = .error failure ∧ error = .ofFailure input failure := by
  unfold ofText at refused
  cases cut : PlacedToken.ofText input with
  | error stray =>
      rw [cut] at refused
      cases refused
      exact Or.inl ⟨stray, rfl, rfl⟩
  | ok placed =>
      rw [cut] at refused
      cases isRead : Reading.run {} placed with
      | ok expr => simp [isRead] at refused
      | error failure =>
          simp only [isRead, Except.error.injEq, Prod.mk.injEq] at refused
          exact Or.inr ⟨placed, failure, rfl, isRead, refused.1.symm⟩

end TypeExpr

theorem exists_parts_of_parseType {input : String} {store : TypeStore} {error : TypeParseError}
    (refused : ((parseType input).run store).1 = .error error) :
    ∃ parts, TypeExpr.ofText input = .error (error, parts) := by
  unfold parseType at refused
  cases found : TypeExpr.ofText input with
  | ok expr =>
      rw [found] at refused
      cases refused
  | error problem =>
      rw [found] at refused
      cases refused
      exact ⟨problem.2, rfl⟩

/-! ### Types -/

/-- An unexpected token is shown as it is written, at the number of bytes before it, between
characters. If the text has a stray character, then it is the first of them. Otherwise it is a token
of the text: a union of the grammar can begin with the tokens before it, and none can begin with
these and the token. Where a text ends unexpectedly, its tokens begin a union but are none. -/
theorem parseType_refuses_first_misfit (input : String) (store : TypeStore) :
    let parsed := ((parseType input).run store).1
    (∀ found offset shown, parsed = .error (.unexpectedToken found offset shown) →
      shown = input ∧ ∃ front rest : String, input = front ++ found ++ rest ∧
        front.utf8ByteSize = offset ∧
        ((∃ c ∈ input.toList, IsStray c) →
          (∃ c, found = c.toString ∧ IsStray c) ∧ ∀ c ∈ front.toList, ¬ IsStray c) ∧
        ((∀ c ∈ input.toList, ¬ IsStray c) →
          ∃ before token after, token.text = found ∧
            Splits input.toList (before ++ token :: after) ∧ Splits front.toList before ∧
            Splits (found ++ rest).toList (token :: after) ∧
            BeginsUnion before ∧ ¬ BeginsUnion (before ++ [token]))) ∧
    (∀ shown, parsed = .error (.unexpectedEnd shown) →
      shown = input ∧ ∃ tokens, Splits input.toList tokens ∧ BeginsUnion tokens ∧
        ¬ IsUnion tokens) := by
  intro parsed
  constructor
  · intro found offset shown refused
    obtain ⟨parts, refused⟩ := exists_parts_of_parseType refused
    rcases TypeExpr.cases_of_refused refused with
      ⟨stray, cut, same⟩ | ⟨placed, failure, cut, isRead, same⟩
    · cases same
      obtain ⟨front, rest, split, stands, isStray, others⟩ := PlacedToken.exists_stray cut
      have whole : input = String.ofList front ++ stray.char.toString ++ String.ofList rest := by
        rw [← String.toList_inj, split]
        simp
      refine ⟨rfl, String.ofList front, String.ofList rest, whole, ?_, ?_, ?_⟩
      · rw [String.utf8ByteSize_ofList, stands, Nat.zero_add]
      · intro _
        rw [String.toList_ofList]
        exact ⟨⟨stray.char, rfl, isStray⟩, others⟩
      · intro none
        exact absurd isStray (none stray.char (by rw [split]; simp))
    · obtain ⟨rfl, unexpected, stopped, isStopped, rfl, rfl⟩ :=
        TypeParseError.exists_stopped same
      obtain ⟨before, after, rfl, begins, beginsNo⟩ :=
        Reading.run_stopped isRead unexpected isStopped
      have splits : Splits shown.toList ((before ++ stopped :: after).map PlacedToken.token) :=
        (PlacedToken.ofText_eq_ok_iff shown _).mp ⟨_, cut, rfl⟩
      obtain ⟨front, rest, split, stands, splitsFront, starts⟩ :=
        PlacedToken.splitsAt_of_splits splits cut
      have whole : shown = String.ofList front ++ stopped.token.text ++ String.ofList rest := by
        rw [← String.toList_inj, split]
        simp
      refine ⟨rfl, String.ofList front, String.ofList rest, whole, ?_, ?_, ?_⟩
      · rw [String.utf8ByteSize_ofList, stands, Nat.zero_add]
      · rintro ⟨c, present, isStray⟩
        exact absurd isStray (splits.not_isStray present)
      · intro _
        rw [List.map_append, List.map_cons] at splits
        refine ⟨_, stopped.token, _, rfl, splits, ?_, ?_, begins, beginsNo⟩
        · rwa [String.toList_ofList]
        · rwa [String.toList_append, String.toList_ofList]
  · intro shown refused
    obtain ⟨parts, refused⟩ := exists_parts_of_parseType refused
    rcases TypeExpr.cases_of_refused refused with
      ⟨stray, cut, same⟩ | ⟨placed, failure, cut, isRead, same⟩
    · cases same
    · obtain ⟨rfl, unexpected, atEnd⟩ := TypeParseError.token?_eq_none same
      obtain ⟨begins, whole⟩ := Reading.run_ended isRead unexpected atEnd
      exact ⟨rfl, _, (PlacedToken.ofText_eq_ok_iff shown _).mp ⟨placed, cut, rfl⟩, begins, whole⟩

/-- Two letters before the second closing bracket have two bytes each. -/
example : ((parseType "?é<ä>>b").run .initial).1 =
    .error (.unexpectedToken ">" 7 "?é<ä>>b") := by
  decide +kernel

end AssociationCheck
