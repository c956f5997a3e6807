/-
What is read is a phrase.

What has been read of a union is known by what may follow it: any union that follows makes a union
together with it. Reading keeps this for every union that is open, and for the arguments before an
open one. So tokens that are read to their end are the text of a phrase. The phrase that is found is
tight, since brackets behind an operand are read before its question marks.
-/

import AssociationCheck.Proofs.TypeExpr.Moves

namespace AssociationCheck

/-! ### What may follow -/

/-- Any union that follows makes a union together with the tokens. -/
def AwaitsUnion (front : List Token) : Prop :=
  ∀ rest : UnionPhrase, rest.Tight → rest.Applies →
    ∃ whole : UnionPhrase, whole.Tight ∧ whole.Applies ∧ whole.tokens = front ++ rest.tokens

/-- Any arguments that follow make arguments together with the tokens, and a known number more. -/
def AwaitsArguments (front : List Token) (number : Nat) : Prop :=
  ∀ rest : ArgumentsPhrase, rest.Tight → rest.Applies →
    ∃ whole : ArgumentsPhrase, whole.Tight ∧ whole.Applies ∧
      whole.tokens = front ++ rest.tokens ∧ whole.count = number + rest.count

theorem awaitsUnion_nil : AwaitsUnion [] :=
  fun rest tight applies => ⟨rest, tight, applies, rfl⟩

theorem awaitsArguments_nil : AwaitsArguments [] 0 :=
  fun rest tight applies => ⟨rest, tight, applies, rfl, (Nat.zero_add _).symm⟩

variable {front : List Token}

/-- Tokens that can be part of the alternative that follows them can be part of its union. -/
theorem AwaitsUnion.extend (awaits : AwaitsUnion front) {added : List Token}
    (extend : ∀ first : IntersectionPhrase, first.Tight → first.Applies →
      ∃ extended : IntersectionPhrase, extended.Tight ∧ extended.Applies ∧
        extended.tokens = added ++ first.tokens) : AwaitsUnion (front ++ added) := by
  intro rest tight applies
  have inRest : ∃ extended : UnionPhrase, extended.Tight ∧ extended.Applies ∧
      extended.tokens = added ++ rest.tokens := by
    cases rest with
    | last alternative =>
        obtain ⟨extended, extendedTight, extendedApplies, same⟩ := extend alternative tight applies
        exact ⟨.last extended, extendedTight, extendedApplies, same⟩
    | bar alternative others =>
        obtain ⟨extended, extendedTight, extendedApplies, same⟩ :=
          extend alternative tight.1 applies.1
        refine ⟨.bar extended others, ⟨extendedTight, tight.2⟩, ⟨extendedApplies, applies.2⟩, ?_⟩
        rw [UnionPhrase.tokens, UnionPhrase.tokens, same, List.append_assoc]
  obtain ⟨extended, extendedTight, extendedApplies, same⟩ := inRest
  obtain ⟨whole, wholeTight, wholeApplies, sameWhole⟩ :=
    awaits extended extendedTight extendedApplies
  exact ⟨whole, wholeTight, wholeApplies, by rw [sameWhole, same, List.append_assoc]⟩

/-- A union that follows a question mark starts with an operand, which the question mark is part
of. -/
theorem AwaitsUnion.question (awaits : AwaitsUnion front) :
    AwaitsUnion (front ++ [.mark .question]) := by
  apply awaits.extend
  intro first tight applies
  cases first with
  | last member => exact ⟨.last (.primary (.question member)), tight, applies, rfl⟩
  | ampersand member others =>
      exact ⟨.ampersand (.primary (.question member)) others, tight, applies, rfl⟩

/-- An ampersand makes an operand one more member of the alternative that follows it. -/
theorem AwaitsUnion.ampersand (awaits : AwaitsUnion front) {member : PostfixPhrase}
    (memberTight : member.Tight) (memberApplies : member.Applies) :
    AwaitsUnion (front ++ member.tokens ++ [.mark .ampersand]) := by
  rw [List.append_assoc]
  apply awaits.extend
  intro first tight applies
  refine ⟨.ampersand member first, ⟨memberTight, tight⟩, ⟨memberApplies, applies⟩, ?_⟩
  rw [IntersectionPhrase.tokens, List.append_assoc, List.singleton_append]

theorem AwaitsUnion.bar (awaits : AwaitsUnion front) {member : PostfixPhrase}
    (memberTight : member.Tight) (memberApplies : member.Applies) :
    AwaitsUnion (front ++ member.tokens ++ [.mark .bar]) := by
  intro rest tight applies
  obtain ⟨whole, wholeTight, wholeApplies, same⟩ :=
    awaits (.bar (.last member) rest) ⟨memberTight, tight⟩ ⟨memberApplies, applies⟩
  exact ⟨whole, wholeTight, wholeApplies, by
    simp [same, UnionPhrase.tokens, IntersectionPhrase.tokens]⟩

theorem AwaitsArguments.comma {number : Nat} (awaits : AwaitsArguments front number)
    {argument : UnionPhrase} (argumentTight : argument.Tight) (argumentApplies : argument.Applies) :
    AwaitsArguments (front ++ argument.tokens ++ [.mark .comma]) (number + 1) := by
  intro rest tight applies
  obtain ⟨whole, wholeTight, wholeApplies, same, counted⟩ :=
    awaits (.comma argument rest) ⟨argumentTight, tight⟩ ⟨argumentApplies, applies⟩
  refine ⟨whole, wholeTight, wholeApplies, by simp [same, ArgumentsPhrase.tokens], ?_⟩
  rw [counted, ArgumentsPhrase.count]
  omega

/-! ### What has been read -/

/-- The tokens since an operand had to follow. An operand that is complete is a phrase that does not
start with a question mark: its question marks are kept by the open union. -/
inductive Place.Reads : Place → List Token → Prop
  | beforeOperand : Reads .beforeOperand []
  | afterName (name : String) : Reads (.afterName name) [.name name]
  | afterOperand (operand : TypeExpr) (phrase : PostfixPhrase) (plain : phrase.isPlain = true)
      (tight : phrase.Tight) (applies : phrase.Applies) :
      Reads (.afterOperand operand) phrase.tokens
  | inBrackets (operand : TypeExpr) (phrase : PostfixPhrase) (plain : phrase.isPlain = true)
      (tight : phrase.Tight) (applies : phrase.Applies) :
      Reads (.inBrackets operand) (phrase.tokens ++ [.mark .openBracket])

/-- The tokens around the innermost union. -/
inductive Surrounds : List (OpenUnion × Enclosure) → List Token → Prop
  | nil : Surrounds [] []
  | group {outer : List (OpenUnion × Enclosure)} {outside front : List Token} (around : OpenUnion)
      (surrounds : Surrounds outer outside) (awaits : AwaitsUnion front) :
      Surrounds ((around, .group) :: outer) (outside ++ front ++ [.mark .openGroup])
  | arguments {outer : List (OpenUnion × Enclosure)} {outside front before : List Token}
      (around : OpenUnion) (name : String) (given : List TypeExpr)
      (surrounds : Surrounds outer outside) (awaits : AwaitsUnion front)
      (awaitsArguments : AwaitsArguments before given.length) :
      Surrounds ((around, .arguments name given) :: outer)
        (outside ++ front ++ [.name name, .mark .less] ++ before)

/-- The tokens around the innermost union, those that are complete in it, and the others. -/
inductive Reading.Reads (reading : Reading) : List Token → Prop
  | intro {outside front since : List Token} (surrounds : Surrounds reading.outer outside)
      (awaits : AwaitsUnion front) (place : reading.place.Reads since) :
      Reads reading (outside ++ front ++ since)

theorem Place.Reads.exists_phrase {place : Place} {since : List Token} (reads : place.Reads since)
    {operand : TypeExpr} (complete : place.operand? = some operand) :
    ∃ phrase : PostfixPhrase, phrase.isPlain = true ∧ phrase.Tight ∧ phrase.Applies ∧
      phrase.tokens = since := by
  cases reads with
  | beforeOperand => cases complete
  | afterName name => exact ⟨.primary (.name name), rfl, trivial, trivial, rfl⟩
  | afterOperand _ phrase plain tight applies => exact ⟨phrase, plain, tight, applies, rfl⟩
  | inBrackets => cases complete

/-- An operand that is complete is the last one of a union that ends behind it. -/
theorem AwaitsUnion.last (awaits : AwaitsUnion front) {place : Place} {since : List Token}
    (reads : place.Reads since) {operand : TypeExpr} (complete : place.operand? = some operand) :
    ∃ whole : UnionPhrase, whole.Tight ∧ whole.Applies ∧ whole.tokens = front ++ since := by
  obtain ⟨phrase, -, tight, applies, rfl⟩ := reads.exists_phrase complete
  exact awaits (.last (.last phrase)) tight applies

namespace Reading

variable {reading next last : Reading} {token : Token} {tokens : List Token}

section

variable {outer : List (OpenUnion × Enclosure)} {around : OpenUnion} {outside : List Token}
  {name : String} {given : List TypeExpr} {whole : UnionPhrase}

theorem Reads.closeGroup (surrounds : Surrounds ((around, .group) :: outer) outside)
    (tight : whole.Tight) (applies : whole.Applies) (operand : TypeExpr) :
    Reads ⟨outer, around, .afterOperand operand⟩
      (outside ++ whole.tokens ++ [.mark .closeGroup]) := by
  cases surrounds with
  | group _ surrounds awaits =>
      have reads : Reads ⟨outer, around, .afterOperand operand⟩ _ :=
        .intro surrounds awaits (.afterOperand _ (.primary (.group whole)) rfl tight applies)
      simpa [PostfixPhrase.tokens, PrimaryPhrase.tokens] using reads

theorem Reads.comma (surrounds : Surrounds ((around, .arguments name given) :: outer) outside)
    (tight : whole.Tight) (applies : whole.Applies) (argument : TypeExpr) :
    Reads ⟨(around, .arguments name (argument :: given)) :: outer, {}, .beforeOperand⟩
      (outside ++ whole.tokens ++ [.mark .comma]) := by
  cases surrounds with
  | arguments _ _ _ surrounds awaits awaitsArguments =>
      have reads :
          Reads ⟨(around, .arguments name (argument :: given)) :: outer, {}, .beforeOperand⟩ _ :=
        .intro (.arguments around name _ surrounds awaits (awaitsArguments.comma tight applies))
          awaitsUnion_nil .beforeOperand
      simpa using reads

theorem Reads.greater (surrounds : Surrounds ((around, .arguments name given) :: outer) outside)
    (tight : whole.Tight) (applies : whole.Applies) (accepts : Accepts name (given.length + 1))
    (operand : TypeExpr) :
    Reads ⟨outer, around, .afterOperand operand⟩ (outside ++ whole.tokens ++ [.mark .greater]) := by
  cases surrounds with
  | arguments _ _ _ surrounds awaits awaitsArguments =>
      obtain ⟨arguments, argumentsTight, argumentsApply, same, counted⟩ :=
        awaitsArguments (.last whole) tight applies
      have acceptsAll : Accepts name arguments.count := by
        rw [counted, ArgumentsPhrase.count]
        exact accepts
      have reads : Reads ⟨outer, around, .afterOperand operand⟩ _ :=
        .intro surrounds awaits (.afterOperand _ (.primary (.applied name arguments)) rfl
          argumentsTight ⟨acceptsAll, argumentsApply⟩)
      simpa [PostfixPhrase.tokens, PrimaryPhrase.tokens, ArgumentsPhrase.tokens, same] using reads

end

/-- What has been read, with one more token. -/
theorem Reads.step (reads : Reads reading tokens) (moves : Moves reading token next) :
    Reads next (tokens ++ [token]) := by
  obtain @⟨outside, front, since, surrounds, awaits, place⟩ := reads
  cases moves with
  | name outer inner name =>
      cases place
      rw [List.append_nil]
      exact .intro surrounds awaits (.afterName name)
  | question outer inner =>
      cases place
      have reads :
          Reads ⟨outer, { inner with questions := inner.questions + 1 }, .beforeOperand⟩ _ :=
        .intro surrounds awaits.question .beforeOperand
      simpa using reads
  | openGroup outer inner =>
      cases place
      have reads : Reads ⟨(inner, .group) :: outer, {}, .beforeOperand⟩ _ :=
        .intro (.group inner surrounds awaits) awaitsUnion_nil .beforeOperand
      simpa using reads
  | less outer inner name =>
      cases place
      have reads : Reads ⟨(inner, .arguments name []) :: outer, {}, .beforeOperand⟩ _ :=
        .intro (.arguments inner name [] surrounds awaits awaitsArguments_nil) awaitsUnion_nil
          .beforeOperand
      simpa using reads
  | openBracket outer inner complete =>
      obtain ⟨phrase, plain, tight, applies, rfl⟩ := place.exists_phrase complete
      rw [List.append_assoc]
      exact .intro surrounds awaits (.inBrackets _ phrase plain tight applies)
  | closeBracket outer inner operand =>
      cases place with
      | inBrackets _ phrase plain tight applies =>
          have reads : Reads ⟨outer, inner, .afterOperand (.array (.scalar .mixed) operand)⟩ _ :=
            .intro surrounds awaits
              (.afterOperand _ (.brackets phrase) plain ⟨plain, tight⟩ applies)
          simpa [PostfixPhrase.tokens] using reads
  | @ampersand outer inner _ operand complete =>
      obtain ⟨phrase, plain, tight, applies, rfl⟩ := place.exists_phrase complete
      have reads : Reads ⟨outer, inner.conjoin operand, .beforeOperand⟩ _ :=
        .intro surrounds (awaits.ampersand tight applies) .beforeOperand
      simpa using reads
  | @bar outer inner _ operand complete =>
      obtain ⟨phrase, plain, tight, applies, rfl⟩ := place.exists_phrase complete
      have reads : Reads ⟨outer, inner.alternate operand, .beforeOperand⟩ _ :=
        .intro surrounds (awaits.bar tight applies) .beforeOperand
      simpa using reads
  -- An operand before a closing mark or a comma is the last one of its union, which is complete.
  | closeGroup outer around inner complete =>
      obtain ⟨whole, tight, applies, same⟩ := awaits.last place complete
      rw [List.append_assoc outside, ← same]
      exact .closeGroup surrounds tight applies _
  | comma outer around inner name given complete =>
      obtain ⟨whole, tight, applies, same⟩ := awaits.last place complete
      rw [List.append_assoc outside, ← same]
      exact .comma surrounds tight applies _
  | @greater outer around inner name given _ operand applied complete accepted =>
      obtain ⟨whole, tight, applies, same⟩ := awaits.last place complete
      have accepts := (accepts_iff name (inner.complete operand :: given).reverse).mpr
        (by rw [accepted]; rfl)
      rw [List.append_assoc outside, ← same]
      exact .greater surrounds tight applies (by simpa using accepts) _

theorem Reads.steps (reads : Reads reading tokens) {rest : List Token}
    (isOk : reading.steps rest = .ok last) : Reads last (tokens ++ rest) := by
  induction rest generalizing reading tokens with
  | nil =>
      cases isOk
      rwa [List.append_nil]
  | cons token others ih =>
      rw [Reading.steps] at isOk
      rcases reading.step_cases token with
        ⟨next, isStep, moves, _⟩ | ⟨_, isStep, _, _⟩ | ⟨_, isStep, _⟩ <;> rw [isStep] at isOk
      · have reads := ih (reads.step moves) isOk
        rwa [List.append_assoc] at reads
      · cases isOk
      · cases isOk

theorem Reads.exists_phrase (reads : Reads reading tokens) {expr : TypeExpr}
    (finished : reading.result? = some expr) :
    ∃ phrase : UnionPhrase, phrase.Tight ∧ phrase.Applies ∧ phrase.tokens = tokens := by
  obtain ⟨outer, inner, place⟩ := reading
  obtain ⟨surrounds, awaits, since⟩ := reads
  cases outer with
  | cons => cases finished
  | nil =>
      cases surrounds
      cases place with
      | beforeOperand | inBrackets => cases finished
      | afterName name => exact awaits.last since rfl
      | afterOperand operand => exact awaits.last since rfl

end Reading

end AssociationCheck
