/-
What one token does to a reading.

A token may follow in a few ways, which are listed once. Every other fact about readings is read off
this list: a step is one of these moves unless it opens too many levels, and a step that fails for
its depth would have been one.
-/

import AssociationCheck.TypeExpr.Reading
import AssociationCheck.Proofs.TypeExpr.Levels

namespace AssociationCheck

/-- The operand that is complete at a place, if another token may follow it. -/
def Place.operand? : Place → Option TypeExpr
  | .afterName name => some (.ofBareName name)
  | .afterOperand operand => some operand
  | _ => none

namespace Reading

/-- A token may follow, whatever the depth is. -/
inductive Moves : Reading → Token → Reading → Prop
  | name (outer : List (OpenUnion × Enclosure)) (inner : OpenUnion) (name : String) :
      Moves ⟨outer, inner, .beforeOperand⟩ (.name name) ⟨outer, inner, .afterName name⟩
  | question (outer : List (OpenUnion × Enclosure)) (inner : OpenUnion) :
      Moves ⟨outer, inner, .beforeOperand⟩ (.mark .question)
        ⟨outer, { inner with questions := inner.questions + 1 }, .beforeOperand⟩
  | openGroup (outer : List (OpenUnion × Enclosure)) (inner : OpenUnion) :
      Moves ⟨outer, inner, .beforeOperand⟩ (.mark .openGroup)
        ⟨(inner, .group) :: outer, {}, .beforeOperand⟩
  | less (outer : List (OpenUnion × Enclosure)) (inner : OpenUnion) (name : String) :
      Moves ⟨outer, inner, .afterName name⟩ (.mark .less)
        ⟨(inner, .arguments name []) :: outer, {}, .beforeOperand⟩
  | openBracket (outer : List (OpenUnion × Enclosure)) (inner : OpenUnion) {place : Place}
      {operand : TypeExpr} (complete : place.operand? = some operand) :
      Moves ⟨outer, inner, place⟩ (.mark .openBracket) ⟨outer, inner, .inBrackets operand⟩
  | closeBracket (outer : List (OpenUnion × Enclosure)) (inner : OpenUnion) (operand : TypeExpr) :
      Moves ⟨outer, inner, .inBrackets operand⟩ (.mark .closeBracket)
        ⟨outer, inner, .afterOperand (.array (.scalar .mixed) operand)⟩
  | ampersand (outer : List (OpenUnion × Enclosure)) (inner : OpenUnion) {place : Place}
      {operand : TypeExpr} (complete : place.operand? = some operand) :
      Moves ⟨outer, inner, place⟩ (.mark .ampersand) ⟨outer, inner.conjoin operand, .beforeOperand⟩
  | bar (outer : List (OpenUnion × Enclosure)) (inner : OpenUnion) {place : Place}
      {operand : TypeExpr} (complete : place.operand? = some operand) :
      Moves ⟨outer, inner, place⟩ (.mark .bar) ⟨outer, inner.alternate operand, .beforeOperand⟩
  | closeGroup (outer : List (OpenUnion × Enclosure)) (around inner : OpenUnion) {place : Place}
      {operand : TypeExpr} (complete : place.operand? = some operand) :
      Moves ⟨(around, .group) :: outer, inner, place⟩ (.mark .closeGroup)
        ⟨outer, around, .afterOperand (inner.complete operand)⟩
  | comma (outer : List (OpenUnion × Enclosure)) (around inner : OpenUnion) (name : String)
      (given : List TypeExpr) {place : Place} {operand : TypeExpr}
      (complete : place.operand? = some operand) :
      Moves ⟨(around, .arguments name given) :: outer, inner, place⟩ (.mark .comma)
        ⟨(around, .arguments name (inner.complete operand :: given)) :: outer, {}, .beforeOperand⟩
  | greater (outer : List (OpenUnion × Enclosure)) (around inner : OpenUnion) {name : String}
      {given : List TypeExpr} {place : Place} {operand applied : TypeExpr}
      (complete : place.operand? = some operand)
      (applies : TypeExpr.ofName? name (inner.complete operand :: given).reverse = some applied) :
      Moves ⟨(around, .arguments name given) :: outer, inner, place⟩ (.mark .greater)
        ⟨outer, around, .afterOperand applied⟩

/-! ### Moves and steps -/

variable {reading next : Reading} {token : Token}

theorem Moves.levels_eq (moves : Moves reading token next) :
    next.levels = reading.levels.next token := by
  cases moves <;> rfl

/-- Behind a complete operand, every mark but the one that starts arguments continues it. -/
theorem step_eq_continueAfter (outer : List (OpenUnion × Enclosure)) (inner : OpenUnion)
    {place : Place} {operand : TypeExpr} (complete : place.operand? = some operand)
    (notLess : token ≠ .mark .less) :
    step ⟨outer, inner, place⟩ token = continueAfter ⟨outer, inner, place⟩ operand token := by
  cases place with
  | beforeOperand => cases complete
  | afterName name =>
      cases complete
      cases token with
      | name text => rfl
      | mark mark => cases mark <;> first | rfl | exact absurd rfl notLess
  | afterOperand other =>
      cases complete
      rfl
  | inBrackets other => cases complete

theorem Moves.step (moves : Moves reading token next) :
    reading.step token = .ok next ∨ reading.step token = .error .tooDeep := by
  have opens (reading : Reading) :
      reading.withinDepth = .ok reading ∨ reading.withinDepth = .error .tooDeep := by
    unfold withinDepth
    split
    · exact Or.inl rfl
    · exact Or.inr rfl
  cases moves with
  | name => exact Or.inl rfl
  | question => exact opens _
  | openGroup => exact opens _
  | less => exact opens _
  | closeBracket => exact Or.inl rfl
  | greater outer around inner complete applies =>
      rw [step_eq_continueAfter _ _ complete (by decide)]
      simp only [continueAfter, applies]
      exact Or.inl trivial
  | openBracket _ _ complete => exact Or.inl (step_eq_continueAfter _ _ complete (by decide))
  | ampersand _ _ complete => exact Or.inl (step_eq_continueAfter _ _ complete (by decide))
  | bar _ _ complete => exact Or.inl (step_eq_continueAfter _ _ complete (by decide))
  | closeGroup _ _ _ complete => exact Or.inl (step_eq_continueAfter _ _ complete (by decide))
  | comma _ _ _ _ _ complete => exact Or.inl (step_eq_continueAfter _ _ complete (by decide))

/-! ### Steps are moves -/

/-- Behind a complete operand nothing fails for its depth, and nothing is opened. -/
theorem continueAfter_cases (outer : List (OpenUnion × Enclosure)) (inner : OpenUnion)
    {place : Place} {operand : TypeExpr} (complete : place.operand? = some operand)
    (token : Token) :
    (∃ next, continueAfter ⟨outer, inner, place⟩ operand token = .ok next ∧
      Moves ⟨outer, inner, place⟩ token next ∧ next.depth ≤ depth ⟨outer, inner, place⟩) ∨
    ∃ fault, continueAfter ⟨outer, inner, place⟩ operand token = .error fault ∧
      fault ≠ .tooDeep := by
  let waiting : Levels := outer.map (fun frame => frame.1.questions)
  -- A move that opens nothing leaves as many levels or fewer.
  have stays {token : Token} {next : Reading} (moves : Moves ⟨outer, inner, place⟩ token next)
      (fewer : (Levels.next (inner.questions :: waiting) token).total ≤
        Levels.total (inner.questions :: waiting)) :
      Moves ⟨outer, inner, place⟩ token next ∧ next.depth ≤ depth ⟨outer, inner, place⟩ :=
    ⟨moves, by rwa [depth_eq, depth_eq, moves.levels_eq]⟩
  have restarts : Levels.total (0 :: waiting) ≤ Levels.total (inner.questions :: waiting) := by
    rw [Levels.total_cons, Levels.total_cons]
    omega
  have closes : waiting.total ≤ Levels.total (inner.questions :: waiting) := by
    rw [Levels.total_cons]
    omega
  cases token with
  | name text => exact Or.inr ⟨_, rfl, by decide⟩
  | mark mark =>
      cases mark with
      | openBracket =>
          exact Or.inl ⟨_, rfl, stays (.openBracket outer inner complete) (Nat.le_refl _)⟩
      | ampersand => exact Or.inl ⟨_, rfl, stays (.ampersand outer inner complete) restarts⟩
      | bar => exact Or.inl ⟨_, rfl, stays (.bar outer inner complete) restarts⟩
      | closeGroup =>
          match outer with
          | (around, .group) :: outer =>
              exact Or.inl ⟨_, rfl, stays (.closeGroup outer around inner complete) closes⟩
          | [] | (_, .arguments _ _) :: _ => exact Or.inr ⟨_, rfl, by decide⟩
      | comma =>
          match outer with
          | (around, .arguments name given) :: outer =>
              exact Or.inl ⟨_, rfl, stays (.comma outer around inner name given complete) restarts⟩
          | [] | (_, .group) :: _ => exact Or.inr ⟨_, rfl, by decide⟩
      | greater =>
          match outer with
          | (around, .arguments name given) :: outer =>
              cases applies : TypeExpr.ofName? name (inner.complete operand :: given).reverse with
              | some applied =>
                  refine Or.inl ⟨_, ?_, stays (.greater outer around inner complete applies) closes⟩
                  simp only [continueAfter, applies]
              | none =>
                  let arguments := (inner.complete operand :: given).reverse
                  refine Or.inr ⟨.invalidArguments name arguments.length, ?_, by simp⟩
                  simp only [continueAfter, applies, arguments]
          | [] | (_, .group) :: _ => exact Or.inr ⟨_, rfl, by decide⟩
      | _ => exact Or.inr ⟨_, rfl, by decide⟩

/-- What a token can do: a move that is within the limit or opens nothing, a move that is too deep,
or else another failure. -/
theorem step_cases (reading : Reading) (token : Token) :
    (∃ next, reading.step token = .ok next ∧ Moves reading token next ∧
      (reading.depth ≤ depthLimit → next.depth ≤ depthLimit)) ∨
    (∃ next, reading.step token = .error .tooDeep ∧ Moves reading token next ∧
      depthLimit < next.depth) ∨
    ∃ fault, reading.step token = .error fault ∧ fault ≠ .tooDeep := by
  obtain ⟨outer, inner, place⟩ := reading
  have opens {token : Token} {next : Reading}
      (isStep : step ⟨outer, inner, place⟩ token = next.withinDepth)
      (moves : Moves ⟨outer, inner, place⟩ token next) :
      (∃ next, step ⟨outer, inner, place⟩ token = .ok next ∧
        Moves ⟨outer, inner, place⟩ token next ∧
        (depth ⟨outer, inner, place⟩ ≤ depthLimit → next.depth ≤ depthLimit)) ∨
      (∃ next, step ⟨outer, inner, place⟩ token = .error .tooDeep ∧
        Moves ⟨outer, inner, place⟩ token next ∧ depthLimit < next.depth) ∨
      ∃ fault, step ⟨outer, inner, place⟩ token = .error fault ∧ fault ≠ .tooDeep := by
    unfold withinDepth at isStep
    split at isStep
    · exact Or.inl ⟨next, isStep, moves, fun _ => by assumption⟩
    · exact Or.inr (Or.inl ⟨next, isStep, moves, by omega⟩)
  cases place with
  | beforeOperand =>
      cases token with
      | name text => exact Or.inl ⟨_, rfl, .name outer inner text, fun within => within⟩
      | mark mark =>
          cases mark with
          | question => exact opens rfl (.question outer inner)
          | openGroup => exact opens rfl (.openGroup outer inner)
          | _ => exact Or.inr (Or.inr ⟨_, rfl, by decide⟩)
  | afterName name =>
      have complete : (Place.afterName name).operand? = some (.ofBareName name) := rfl
      by_cases isLess : token = .mark .less
      · subst isLess
        exact opens rfl (.less outer inner name)
      · rw [step_eq_continueAfter outer inner complete isLess]
        exact (continueAfter_cases outer inner complete token).imp
          (fun ⟨next, isOk, moves, fewer⟩ => ⟨next, isOk, moves, Nat.le_trans fewer⟩) Or.inr
  | afterOperand operand =>
      have complete : (Place.afterOperand operand).operand? = some operand := rfl
      exact (continueAfter_cases outer inner complete token).imp
        (fun ⟨next, isOk, moves, fewer⟩ => ⟨next, isOk, moves, Nat.le_trans fewer⟩) Or.inr
  | inBrackets operand =>
      cases token with
      | name text => exact Or.inr (Or.inr ⟨_, rfl, by decide⟩)
      | mark mark =>
          cases mark with
          | closeBracket =>
              exact Or.inl ⟨_, rfl, .closeBracket outer inner operand, fun within => within⟩
          | _ => exact Or.inr (Or.inr ⟨_, rfl, by decide⟩)

/-! ### Many tokens -/

def steps (reading : Reading) : List Token → Except Fault Reading
  | [] => .ok reading
  | token :: rest =>
      match reading.step token with
      | .ok next => next.steps rest
      | .error fault => .error fault

/-- Tokens lead from one reading to another, unless one of them is too deep. -/
def Reaches (reading : Reading) (tokens : List Token) (last : Reading) : Prop :=
  reading.steps tokens = .ok last ∨ reading.steps tokens = .error .tooDeep

variable {middle last : Reading}

theorem reaches_nil (reading : Reading) : Reaches reading [] reading := Or.inl rfl

theorem Moves.reaches (moves : Moves reading token next) {rest : List Token}
    (reaches : Reaches next rest last) : Reaches reading (token :: rest) last := by
  unfold Reaches
  rcases moves.step with isStep | isStep <;> rw [steps, isStep]
  · exact reaches
  · exact Or.inr rfl

theorem Reaches.append {first second : List Token} (start : Reaches reading first middle)
    (rest : Reaches middle second last) : Reaches reading (first ++ second) last := by
  induction first generalizing reading with
  | nil =>
      rcases start with same | impossible
      · cases same
        exact rest
      · cases impossible
  | cons token others ih =>
      unfold Reaches at start ⊢
      rw [List.cons_append, steps]
      rw [steps] at start
      cases isStep : reading.step token with
      | ok next =>
          rw [isStep] at start
          exact ih start
      | error fault =>
          rw [isStep] at start
          rcases start with impossible | tooDeep
          · cases impossible
          · exact Or.inr tooDeep

theorem peak_of_steps {tokens : List Token} (isOk : reading.steps tokens = .ok last)
    (within : reading.depth ≤ depthLimit) : reading.levels.peak tokens ≤ depthLimit := by
  induction tokens generalizing reading with
  | nil =>
      rw [depth_eq] at within
      exact within
  | cons token rest ih =>
      rw [steps] at isOk
      rcases reading.step_cases token with
        ⟨next, isStep, moves, stays⟩ | ⟨next, isStep, _, _⟩ | ⟨fault, isStep, _⟩ <;>
        rw [isStep] at isOk
      · have later := ih isOk (stays within)
        rw [moves.levels_eq] at later
        rw [depth_eq] at within
        exact Nat.max_le.mpr ⟨within, later⟩
      · cases isOk
      · cases isOk

/-- Reading is too deep only where more levels are open than the limit. -/
theorem exists_front_of_tooDeep {tokens : List Token}
    (tooDeep : reading.steps tokens = .error .tooDeep) :
    ∃ front, front <+: tokens ∧ depthLimit < (reading.levels.after front).total := by
  induction tokens generalizing reading with
  | nil => cases tooDeep
  | cons token rest ih =>
      rw [steps] at tooDeep
      rcases reading.step_cases token with
        ⟨next, isStep, moves, _⟩ | ⟨next, isStep, moves, exceeds⟩ | ⟨fault, isStep, other⟩ <;>
        rw [isStep] at tooDeep
      · obtain ⟨front, inside, exceeds⟩ := ih tooDeep
        rw [moves.levels_eq] at exceeds
        exact ⟨token :: front, List.cons_prefix_cons.mpr ⟨rfl, inside⟩, exceeds⟩
      · rw [depth_eq, moves.levels_eq] at exceeds
        exact ⟨[token], List.cons_prefix_cons.mpr ⟨rfl, List.nil_prefix⟩, exceeds⟩
      · exact absurd (Except.error.inj tooDeep) other

/-! ### Runs -/

theorem run_eq_ok_iff (reading : Reading) (placed : List PlacedToken) (expr : TypeExpr) :
    reading.run placed = .ok expr ↔
      ∃ last, reading.steps (placed.map PlacedToken.token) = .ok last ∧
        last.result? = some expr := by
  induction placed generalizing reading with
  | nil =>
      rw [run, List.map_nil, steps]
      cases finished : reading.result? with
      | some found => simp [finished]
      | none => simp [finished]
  | cons first rest ih =>
      rw [run, List.map_cons, steps]
      cases reading.step first.token with
      | ok next => exact ih next
      | error fault => simp

theorem steps_of_run_tooDeep {placed : List PlacedToken} {failure : Failure}
    (isError : reading.run placed = .error failure) (tooDeep : failure.fault = .tooDeep) :
    reading.steps (placed.map PlacedToken.token) = .error .tooDeep := by
  induction placed generalizing reading with
  | nil =>
      rw [run] at isError
      cases finished : reading.result? with
      | some found =>
          rw [finished] at isError
          cases isError
      | none =>
          rw [finished] at isError
          cases isError
          cases tooDeep
  | cons first rest ih =>
      rw [run] at isError
      rw [List.map_cons, steps]
      cases isStep : reading.step first.token with
      | ok next =>
          rw [isStep] at isError
          exact ih isError
      | error fault =>
          rw [isStep] at isError
          cases isError
          exact congrArg Except.error tooDeep

end Reading

end AssociationCheck
