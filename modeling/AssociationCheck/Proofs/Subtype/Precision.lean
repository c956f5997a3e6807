/-
The limit only loses precision.

Where the limit cuts an answer short it puts a maybe, and no rule makes a definite verdict out of a
maybe that a definite verdict in its place would change. So a no is final, as a yes is, and the
relation as seen from further below the top says maybe or what it says from higher up. This holds
of every store, also of one whose types name identifiers that it does not hold or lead back to
themselves.
-/

import AssociationCheck.Proofs.Subtype.Levels

namespace AssociationCheck

/-! ### When several answers are a no -/

namespace Verdict

theorem and_eq_no_iff (first second : Verdict) :
    first.and second = no ↔ first = no ∨ second = no := by
  cases first <;> cases second <;> decide

theorem or_eq_no_iff (first second : Verdict) :
    first.or second = no ↔ first = no ∧ second = no := by
  cases first <;> cases second <;> decide

theorem agreement_eq_no_iff (verdicts : List Verdict) :
    agreement verdicts = no ↔ verdicts ≠ [] ∧ ∀ verdict ∈ verdicts, verdict = no := by
  cases verdicts with
  | nil => simp [agreement]
  | cons first others =>
      rw [agreement]
      split
      · rename_i same
        have equal : ∀ other ∈ others, other = first := by simpa using same
        constructor
        · intro isNo
          subst isNo
          exact ⟨List.cons_ne_nil _ _, List.forall_mem_cons.mpr ⟨rfl, equal⟩⟩
        · intro all
          exact all.2 first List.mem_cons_self
      · rename_i differ
        constructor
        · intro impossible
          cases impossible
        · intro all
          have each := List.forall_mem_cons.mp all.2
          exact absurd (by simpa [each.1] using each.2) differ

end Verdict

namespace Answer

variable {α : Type} (ask : α → Answer)

theorem allOf_no_iff (questions : List α) :
    (allOf ask questions).verdict = .no ↔
      ∃ question ∈ questions, (ask question).verdict = .no := by
  induction questions with
  | nil => simp [allOf, yes, ofVerdict]
  | cons question others ih =>
      rw [allOf]
      by_cases refused : (ask question).verdict = .no
      · simp [refused]
      · simp [refused, Verdict.and_eq_no_iff, ih]

theorem anyOf_no_iff (questions : List α) :
    (anyOf ask questions).verdict = .no ↔
      ∀ question ∈ questions, (ask question).verdict = .no := by
  induction questions with
  | nil => simp [anyOf, no, ofVerdict]
  | cons question others ih =>
      rw [anyOf, List.forall_mem_cons]
      by_cases accepted : (ask question).verdict = .yes
      · simp [accepted]
      · simp only [accepted, if_false, Verdict.or_eq_no_iff, ih]

theorem agreement_no_iff (questions : List α) :
    (agreement ask questions).verdict = .no ↔
      questions ≠ [] ∧ ∀ question ∈ questions, (ask question).verdict = .no := by
  simp [agreement, Verdict.agreement_eq_no_iff]

end Answer

namespace Subtype

/-! ### One level -/

section OneLevel

variable (hierarchy : Hierarchy) {ask more : TypePair → Answer}
  (keeps : ∀ pair, (ask pair).verdict = .no → (more pair).verdict = .no)

include keeps

theorem allOf_no {questions : List TypePair}
    (refused : (Answer.allOf ask questions).verdict = .no) :
    (Answer.allOf more questions).verdict = .no := by
  rw [Answer.allOf_no_iff] at refused ⊢
  obtain ⟨question, present, isNo⟩ := refused
  exact ⟨question, present, keeps question isNo⟩

theorem objectRule_no (source target : String) (sourceArguments targetArguments : List TypeId)
    (refused :
      (objectRule hierarchy ask source sourceArguments target targetArguments).verdict = .no) :
    (objectRule hierarchy more source sourceArguments target targetArguments).verdict = .no := by
  unfold objectRule at refused ⊢
  by_cases same : sameClass source target = true
  · rw [if_pos same] at refused ⊢
    exact allOf_no keeps refused
  · rw [if_neg same] at refused ⊢
    by_cases derived : hierarchy.isDerivedFrom source target = true
    · rw [if_pos derived] at refused ⊢
      -- A target without arguments is a yes, and unequal numbers of arguments are a maybe.
      split
      · rename_i bare
        rw [if_pos bare] at refused
        cases refused
      · rename_i generic
        rw [if_neg generic] at refused
        split
        · rename_i equallyMany
          rw [if_pos equallyMany] at refused
          exact allOf_no keeps refused
        · rename_i unequal
          rw [if_neg unequal] at refused
          cases refused
    · rw [if_neg derived] at refused ⊢
      exact refused

theorem objectToIterableRule_no (source : String) (arguments : List TypeId) (key value : TypeId)
    (refused : (objectToIterableRule hierarchy ask source arguments key value).verdict = .no) :
    (objectToIterableRule hierarchy more source arguments key value).verdict = .no := by
  unfold objectToIterableRule at refused ⊢
  by_cases iterates : hierarchy.isTraversable source = true
  · rw [if_pos iterates] at refused ⊢
    exact allOf_no keeps refused
  · rw [if_neg iterates] at refused ⊢
    exact refused

theorem atomicRule_no (source target : Shape)
    (refused : (atomicRule hierarchy ask source target).verdict = .no) :
    (atomicRule hierarchy more source target).verdict = .no := by
  cases source <;> cases target <;> try exact refused
  case object.object => exact objectRule_no hierarchy keeps _ _ _ _ refused
  case object.iterable => exact objectToIterableRule_no hierarchy keeps _ _ _ _ refused
  case iterable.iterable => exact allOf_no keeps refused
  case array.iterable => exact allOf_no keeps refused
  case array.array => exact allOf_no keeps refused
  case iterable.array =>
      rw [atomicRule, Verdict.and_eq_no_iff] at refused ⊢
      exact refused.imp_right (allOf_no keeps)

theorem shapeRule_no (pair : TypePair) (source target : Shape)
    (refused : (shapeRule hierarchy ask pair source target).verdict = .no) :
    (shapeRule hierarchy more pair source target).verdict = .no := by
  unfold shapeRule at refused ⊢
  split at refused
  · rw [Answer.agreement_no_iff] at refused ⊢
    exact refused.imp_right fun all member present => keeps _ (all member present)
  · rw [Answer.anyOf_no_iff] at refused ⊢
    exact fun member present => keeps _ (refused member present)
  · rw [Answer.allOf_no_iff] at refused ⊢
    obtain ⟨member, present, isNo⟩ := refused
    exact ⟨member, present, keeps _ isNo⟩
  · rw [Answer.anyOf_no_iff] at refused ⊢
    exact fun member present => keeps _ (refused member present)
  · exact atomicRule_no hierarchy keeps _ _ refused

theorem step_no (store : TypeStore) (pair : TypePair)
    (refused : (step store hierarchy ask pair).verdict = .no) :
    (step store hierarchy more pair).verdict = .no := by
  obtain ⟨source, target⟩ := pair
  simp only [step] at refused ⊢
  split
  · rename_i trivially
    rw [if_pos trivially] at refused
    exact refused
  · rename_i apart
    rw [if_neg apart] at refused
    split
    · rfl
    · rename_i proper
      rw [if_neg proper] at refused
      split
      · rename_i anything
        rw [if_pos anything] at refused
        exact refused
      · rename_i narrow
        rw [if_neg narrow] at refused
        cases sourceFound : store.lookup source with
        | none => rfl
        | some sourceShape =>
            cases targetFound : store.lookup target with
            | none => rfl
            | some targetShape =>
                rw [sourceFound, targetFound] at refused
                exact shapeRule_no hierarchy keeps _ _ _ refused

end OneLevel

/-! ### All levels -/

variable {hierarchy : Hierarchy} {store : TypeStore}

theorem within_no (levels more : Nat) (pair : TypePair)
    (refused : (within store hierarchy levels pair).verdict = .no) :
    (within store hierarchy (levels + more) pair).verdict = .no := by
  induction levels generalizing pair with
  | zero => cases refused
  | succ levels ih =>
      rw [Nat.succ_add, within]
      exact step_no hierarchy ih store pair refused

theorem within_definite (levels more : Nat) (pair : TypePair)
    (definite : (within store hierarchy levels pair).verdict ≠ .maybe) :
    (within store hierarchy (levels + more) pair).verdict =
      (within store hierarchy levels pair).verdict := by
  cases found : (within store hierarchy levels pair).verdict with
  | no => exact within_no levels more pair found
  | maybe => exact absurd found definite
  | yes => exact Below.deeper found (Nat.le_add_right levels more)

/-- Seen from further below the top, the relation says maybe or what it says from higher up; it says
the same if it did not meet the limit; and a definite verdict is what it would say under any greater
limit. -/
theorem fromLevel_precise (store : TypeStore) (hierarchy : Hierarchy) (source target : TypeId)
    {level deeper : Nat} (further : level ≤ deeper) :
    let above := fromLevel store hierarchy level source target
    let below := fromLevel store hierarchy deeper source target
    (below.verdict = .maybe ∨ below.verdict = above.verdict) ∧
      (below.limited = false → below = above) ∧
      (below.verdict ≠ .maybe → ∀ more,
        (within store hierarchy (levelLimit - deeper + more) (source, target)).verdict =
          below.verdict) := by
  intro above below
  obtain ⟨more, enough⟩ : ∃ more, levelLimit - level = levelLimit - deeper + more :=
    ⟨(levelLimit - level) - (levelLimit - deeper), by omega⟩
  have isAbove : above = within store hierarchy (levelLimit - deeper + more) (source, target) := by
    rw [← enough]
    rfl
  have definite : below.verdict ≠ .maybe → ∀ more,
      (within store hierarchy (levelLimit - deeper + more) (source, target)).verdict =
        below.verdict :=
    fun isDefinite more => within_definite (levelLimit - deeper) more (source, target) isDefinite
  refine ⟨?_, ?_, definite⟩
  · by_cases unsure : below.verdict = .maybe
    · exact .inl unsure
    · rw [isAbove, definite unsure more]
      exact .inr rfl
  · intro unlimited
    rw [isAbove]
    exact (within_final (levelLimit - deeper) more (source, target) unlimited).symm

/-- Arrays of arrays without end: of integer keys throughout, and of integer and of text keys in
turns. -/
def knotStore : TypeStore :=
  ⟨TypeStore.initial.shapes ++
    #[.array .int ⟨7⟩, .array .int ⟨9⟩, .array .string ⟨8⟩]⟩

/-- The third level decides, and the limit leaves two levels or three. -/
theorem fromLevel_precise_knot :
    (fromLevel knotStore .empty 62 ⟨7⟩ ⟨8⟩).verdict = .maybe ∧
      fromLevel knotStore .empty 61 ⟨7⟩ ⟨8⟩ = .no ∧
      fromLevel knotStore .empty 0 ⟨7⟩ ⟨8⟩ = .no := by
  have found : fromLevel knotStore .empty 61 ⟨7⟩ ⟨8⟩ = .no := by decide +kernel
  have shallow : 0 ≤ 61 := by decide
  obtain ⟨_, same, _⟩ := fromLevel_precise knotStore .empty ⟨7⟩ ⟨8⟩ shallow
  rw [found] at same
  exact ⟨by decide +kernel, found, (same rfl).symm⟩

end Subtype

end AssociationCheck
