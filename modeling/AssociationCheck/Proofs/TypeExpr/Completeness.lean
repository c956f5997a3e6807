/-
Phrases are read.

Unless it is too deep, the text of a phrase leads from where an operand has to follow to where the
phrase is complete. If the phrase is tight, what has been read by then is its expression.
-/

import AssociationCheck.Proofs.TypeExpr.Moves

namespace AssociationCheck

open Reading OpenUnion

mutual

/-- A union is read where one has just been opened. -/
theorem UnionPhrase.reaches (phrase : UnionPhrase) (applies : phrase.Applies)
    (outer : List (OpenUnion × Enclosure)) (alternatives : List TypeExpr) :
    ∃ (inner : OpenUnion) (place : Place) (operand : TypeExpr),
      place.operand? = some operand ∧
      (phrase.Tight →
        (inner.alternate operand).alternatives = phrase.exprs.reverse ++ alternatives) ∧
      Reaches ⟨outer, { alternatives := alternatives }, .beforeOperand⟩ phrase.tokens
        ⟨outer, inner, place⟩ := by
  cases phrase with
  | last alternative =>
      obtain ⟨inner, place, operand, complete, same, read, reached⟩ :=
        alternative.reaches applies outer alternatives []
      refine ⟨inner, place, operand, complete, fun tight => ?_, reached⟩
      rw [alternate, lastAlternative, read tight, same]
      simp [UnionPhrase.exprs]
  | bar alternative others =>
      obtain ⟨first, place, operand, complete, same, read, reached⟩ :=
        alternative.reaches applies.1 outer alternatives []
      obtain ⟨inner, lastPlace, last, lastComplete, readOthers, reachedOthers⟩ :=
        others.reaches applies.2 outer (first.alternate operand).alternatives
      refine ⟨inner, lastPlace, last, lastComplete, fun tight => ?_,
        reached.append ((Moves.bar outer first complete).reaches reachedOthers)⟩
      rw [readOthers tight.2, alternate, lastAlternative, read tight.1, same]
      simp [UnionPhrase.exprs]

theorem IntersectionPhrase.reaches (phrase : IntersectionPhrase) (applies : phrase.Applies)
    (outer : List (OpenUnion × Enclosure)) (alternatives conjuncts : List TypeExpr) :
    ∃ (inner : OpenUnion) (place : Place) (operand : TypeExpr),
      place.operand? = some operand ∧ inner.alternatives = alternatives ∧
      (phrase.Tight → (inner.conjoin operand).conjuncts = phrase.exprs.reverse ++ conjuncts) ∧
      Reaches ⟨outer, { alternatives := alternatives, conjuncts := conjuncts }, .beforeOperand⟩
        phrase.tokens ⟨outer, inner, place⟩ := by
  cases phrase with
  | last member =>
      obtain ⟨waiting, place, operand, complete, _, read, reached⟩ := member.reaches applies outer
        { alternatives := alternatives, conjuncts := conjuncts }
      refine ⟨_, place, operand, complete, rfl, fun tight => ?_, reached⟩
      rw [conjoin, Nat.zero_add, read tight]
      rfl
  | ampersand member others =>
      obtain ⟨waiting, place, operand, complete, _, read, reached⟩ := member.reaches applies.1 outer
        { alternatives := alternatives, conjuncts := conjuncts }
      obtain ⟨inner, lastPlace, last, lastComplete, same, readOthers, reachedOthers⟩ :=
        others.reaches applies.2 outer alternatives (questioned operand (0 + waiting) :: conjuncts)
      refine ⟨inner, lastPlace, last, lastComplete, same, fun tight => ?_,
        reached.append ((Moves.ampersand outer _ complete).reaches reachedOthers)⟩
      rw [readOthers tight.2, Nat.zero_add, read tight.1]
      simp [IntersectionPhrase.exprs]

/-- A postfix phrase is read where an operand has to follow; its question marks wait. -/
theorem PostfixPhrase.reaches (phrase : PostfixPhrase) (applies : phrase.Applies)
    (outer : List (OpenUnion × Enclosure)) (inner : OpenUnion) :
    ∃ (waiting : Nat) (place : Place) (operand : TypeExpr),
      place.operand? = some operand ∧ (phrase.isPlain = true → waiting = 0) ∧
      (phrase.Tight → questioned operand waiting = phrase.expr) ∧
      Reaches ⟨outer, inner, .beforeOperand⟩ phrase.tokens
        ⟨outer, { inner with questions := inner.questions + waiting }, place⟩ := by
  cases phrase with
  | primary phrase => exact phrase.reaches applies outer inner
  | brackets operand =>
      obtain ⟨waiting, place, inside, complete, plain, read, reached⟩ :=
        operand.reaches applies outer inner
      refine ⟨waiting, .afterOperand (.array (.scalar .mixed) inside), _, rfl, plain,
        fun tight => ?_, reached.append ((Moves.openBracket outer _ complete).reaches
          ((Moves.closeBracket outer _ inside).reaches (reaches_nil _)))⟩
      -- A tight operand leaves no question mark waiting, so the brackets are around all of it.
      have inner := read tight.2
      rw [plain tight.1] at inner ⊢
      rw [PostfixPhrase.expr, ← inner]
      rfl

theorem PrimaryPhrase.reaches (phrase : PrimaryPhrase) (applies : phrase.Applies)
    (outer : List (OpenUnion × Enclosure)) (inner : OpenUnion) :
    ∃ (waiting : Nat) (place : Place) (operand : TypeExpr),
      place.operand? = some operand ∧
      ((PostfixPhrase.primary phrase).isPlain = true → waiting = 0) ∧
      (phrase.Tight → questioned operand waiting = phrase.expr) ∧
      Reaches ⟨outer, inner, .beforeOperand⟩ phrase.tokens
        ⟨outer, { inner with questions := inner.questions + waiting }, place⟩ := by
  cases phrase with
  | question operand =>
      -- The question mark waits with those of its operand, outermost of them.
      obtain ⟨waiting, place, inside, complete, _, read, reached⟩ :=
        operand.reaches applies outer { inner with questions := inner.questions + 1 }
      refine ⟨waiting + 1, place, inside, complete, (fun impossible => by cases impossible),
        fun tight => congrArg TypeExpr.nullable (read tight), ?_⟩
      have sum : inner.questions + (waiting + 1) = inner.questions + 1 + waiting := by omega
      rw [sum]
      exact (Moves.question outer inner).reaches reached
  | group union =>
      obtain ⟨opened, place, operand, complete, read, reached⟩ :=
        union.reaches applies ((inner, .group) :: outer) []
      refine ⟨0, .afterOperand (opened.complete operand), _, rfl, fun _ => rfl, fun tight => ?_,
        (Moves.openGroup outer inner).reaches (reached.append
          ((Moves.closeGroup outer inner opened complete).reaches (reaches_nil _)))⟩
      rw [questioned, OpenUnion.complete, read tight]
      simp [PrimaryPhrase.expr]
  | name text =>
      exact ⟨0, .afterName text, _, rfl, fun _ => rfl, fun _ => rfl,
        (Moves.name outer inner text).reaches (reaches_nil _)⟩
  | applied text arguments =>
      obtain ⟨given, opened, place, operand, complete, counted, read, reached⟩ :=
        arguments.reaches applies.2 outer inner text []
      have accepts : Accepts text (opened.complete operand :: given).reverse.length := by
        rw [List.length_reverse, List.length_cons, counted]
        simpa using applies.1
      refine ⟨0, .afterOperand _, _, rfl, fun _ => rfl, fun tight => ?_,
        (Moves.name outer inner text).reaches ((Moves.less outer inner text).reaches
          (reached.append ((Moves.greater outer inner opened complete
            (ofName?_of_accepts accepts)).reaches (reaches_nil _))))⟩
      rw [questioned, read tight]
      simp [PrimaryPhrase.expr]

theorem ArgumentsPhrase.reaches (phrase : ArgumentsPhrase) (applies : phrase.Applies)
    (outer : List (OpenUnion × Enclosure)) (around : OpenUnion) (name : String)
    (given : List TypeExpr) :
    ∃ (before : List TypeExpr) (inner : OpenUnion) (place : Place) (operand : TypeExpr),
      place.operand? = some operand ∧ before.length + 1 = given.length + phrase.count ∧
      (phrase.Tight → inner.complete operand :: before = phrase.exprs.reverse ++ given) ∧
      Reaches ⟨(around, .arguments name given) :: outer, {}, .beforeOperand⟩ phrase.tokens
        ⟨(around, .arguments name before) :: outer, inner, place⟩ := by
  cases phrase with
  | last argument =>
      obtain ⟨inner, place, operand, complete, read, reached⟩ :=
        argument.reaches applies ((around, .arguments name given) :: outer) []
      refine ⟨given, inner, place, operand, complete, rfl, fun tight => ?_, reached⟩
      rw [OpenUnion.complete, read tight]
      simp [ArgumentsPhrase.exprs]
  | comma argument others =>
      obtain ⟨first, place, operand, complete, read, reached⟩ :=
        argument.reaches applies.1 ((around, .arguments name given) :: outer) []
      obtain ⟨before, inner, lastPlace, last, lastComplete, counted, readOthers, reachedOthers⟩ :=
        others.reaches applies.2 outer around name (first.complete operand :: given)
      refine ⟨before, inner, lastPlace, last, lastComplete, ?_, fun tight => ?_,
        reached.append ((Moves.comma outer around first name given complete).reaches
          reachedOthers)⟩
      · rw [counted, List.length_cons, ArgumentsPhrase.count]
        omega
      · rw [readOthers tight.2, OpenUnion.complete, read tight.1]
        simp [ArgumentsPhrase.exprs]

end

end AssociationCheck
