/-
Verdicts of the subtype relation.

A verdict is a definite no, a definite yes, or maybe when the answer depends on something the
types do not say. Verdicts are ordered no, maybe, yes: the conjunction of two is the lower one
and the disjunction the higher one.
-/

namespace AssociationCheck

/-- Whether every value of one type is a value of another. -/
inductive Verdict
  | no
  | maybe
  | yes
  deriving DecidableEq, Repr

namespace Verdict

def rank : Verdict → Nat
  | no => 0
  | maybe => 1
  | yes => 2

def and (first second : Verdict) : Verdict :=
  if first.rank ≤ second.rank then first else second

def or (first second : Verdict) : Verdict :=
  if first.rank ≤ second.rank then second else first

def ofBool : Bool → Verdict
  | true => yes
  | false => no

def isYes (verdict : Verdict) : Bool := verdict == yes

def isNo (verdict : Verdict) : Bool := verdict == no

/-- The common verdict where all agree, and maybe where two differ. No verdicts at all agree
on yes. -/
def agreement : List Verdict → Verdict
  | [] => yes
  | first :: others => if others.all (fun other => other == first) then first else maybe

@[simp] theorem rank_and (first second : Verdict) :
    (first.and second).rank = min first.rank second.rank := by
  cases first <;> cases second <;> rfl

@[simp] theorem rank_or (first second : Verdict) :
    (first.or second).rank = max first.rank second.rank := by
  cases first <;> cases second <;> rfl

theorem rank_injective {first second : Verdict} (same : first.rank = second.rank) :
    first = second := by
  cases first <;> cases second <;> simp_all [rank]

theorem agreement_eq_yes_iff (verdicts : List Verdict) :
    agreement verdicts = yes ↔ ∀ verdict ∈ verdicts, verdict = yes := by
  cases verdicts with
  | nil => simp [agreement]
  | cons first others =>
      cases first <;> by_cases same : others.all (fun other => other == yes) <;>
        simp_all [agreement] <;> split <;> simp_all

end Verdict

end AssociationCheck
