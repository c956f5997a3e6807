/-
Beginnings of a union.

The outline of some tokens says what they have opened and whether an operand has to follow, and
nothing else. A token has a next outline exactly where the grammar lets it follow. So tokens that
have an outline are those that a union can begin with, and they are a union themselves if nothing is
left open in it and an operand is complete.
-/

import AssociationCheck.Proofs.TypeExpr.Grammar

namespace AssociationCheck

/-! ### Sentences -/

def IsUnion (tokens : List Token) : Prop := ∃ phrase : UnionPhrase, phrase.tokens = tokens

def BeginsUnion (tokens : List Token) : Prop := ∃ phrase : UnionPhrase, tokens <+: phrase.tokens

/-! ### Outlines -/

/-- What a union can be open inside of. -/
inductive Bracketing
  | group
  /-- The arguments of a name. -/
  | arguments
  deriving DecidableEq, Repr

def Bracketing.closing : Bracketing → Mark
  | group => .closeGroup
  | arguments => .greater

/-- Where tokens end in the innermost union. -/
inductive Stance
  | beforeOperand
  | afterName
  | afterOperand
  | inBrackets
  deriving DecidableEq, Repr

def Stance.isComplete : Stance → Bool
  | afterName | afterOperand => true
  | beforeOperand | inBrackets => false

/-- What is open, from inside to outside, and where the tokens end in it. -/
structure Outline where
  around : List Bracketing := []
  stance : Stance := .beforeOperand
  deriving DecidableEq, Repr

namespace Outline

def behind? : List Bracketing → Mark → Option Outline
  | around, .openBracket => some ⟨around, .inBrackets⟩
  | around, .ampersand => some ⟨around, .beforeOperand⟩
  | around, .bar => some ⟨around, .beforeOperand⟩
  | .group :: outer, .closeGroup => some ⟨outer, .afterOperand⟩
  | .arguments :: outer, .comma => some ⟨.arguments :: outer, .beforeOperand⟩
  | .arguments :: outer, .greater => some ⟨outer, .afterOperand⟩
  | _, _ => none

/-- The outline after one more token, if the grammar lets it follow. -/
def next? (outline : Outline) (token : Token) : Option Outline :=
  match outline.stance, token with
  | .beforeOperand, .name _ => some ⟨outline.around, .afterName⟩
  | .beforeOperand, .mark .question => some outline
  | .beforeOperand, .mark .openGroup => some ⟨.group :: outline.around, .beforeOperand⟩
  | .afterName, .mark .less => some ⟨.arguments :: outline.around, .beforeOperand⟩
  | .afterName, .mark mark => behind? outline.around mark
  | .afterOperand, .mark mark => behind? outline.around mark
  | .inBrackets, .mark .closeBracket => some ⟨outline.around, .afterOperand⟩
  | _, _ => none

def follow (outline : Outline) (tokens : List Token) : Option Outline := tokens.foldlM next? outline

variable {outline middle last : Outline} {token : Token} {first second rest : List Token}

theorem follow_cons (step : outline.next? token = some middle)
    (later : middle.follow rest = some last) : outline.follow (token :: rest) = some last := by
  rw [follow, List.foldlM_cons, step]
  exact later

theorem follow_append (start : outline.follow first = some middle)
    (later : middle.follow second = some last) :
    outline.follow (first ++ second) = some last := by
  unfold follow at start
  rw [follow, List.foldlM_append, start]
  exact later

theorem exists_of_follow_append (found : outline.follow (first ++ second) = some last) :
    ∃ middle, outline.follow first = some middle ∧ middle.follow second = some last := by
  rw [follow, List.foldlM_append] at found
  exact Option.bind_eq_some_iff.mp found

theorem next?_of_isComplete {stance : Stance} (complete : stance.isComplete = true)
    (around : List Bracketing) {mark : Mark} (notLess : mark ≠ .less) :
    next? ⟨around, stance⟩ (.mark mark) = behind? around mark := by
  cases stance with
  | beforeOperand => cases complete
  | afterName =>
      cases mark with
      | less => exact absurd rfl notLess
      | _ => rfl
  | afterOperand => rfl
  | inBrackets => cases complete

end Outline

/-! ### Phrases have outlines -/

open Outline

mutual

/-- What a phrase opens it closes again, and it ends behind a complete operand. -/
theorem UnionPhrase.follows (phrase : UnionPhrase) (around : List Bracketing) :
    ∃ stance, stance.isComplete = true ∧
      follow ⟨around, .beforeOperand⟩ phrase.tokens = some ⟨around, stance⟩ := by
  cases phrase with
  | last alternative => exact alternative.follows around
  | bar alternative others =>
      obtain ⟨stance, complete, read⟩ := alternative.follows around
      obtain ⟨final, completeOthers, readOthers⟩ := others.follows around
      have step : next? ⟨around, stance⟩ (.mark .bar) = some ⟨around, .beforeOperand⟩ :=
        next?_of_isComplete complete around (by decide)
      exact ⟨final, completeOthers, follow_append read (follow_cons step readOthers)⟩

theorem IntersectionPhrase.follows (phrase : IntersectionPhrase) (around : List Bracketing) :
    ∃ stance, stance.isComplete = true ∧
      follow ⟨around, .beforeOperand⟩ phrase.tokens = some ⟨around, stance⟩ := by
  cases phrase with
  | last member => exact member.follows around
  | ampersand member others =>
      obtain ⟨stance, complete, read⟩ := member.follows around
      obtain ⟨final, completeOthers, readOthers⟩ := others.follows around
      have step : next? ⟨around, stance⟩ (.mark .ampersand) = some ⟨around, .beforeOperand⟩ :=
        next?_of_isComplete complete around (by decide)
      exact ⟨final, completeOthers, follow_append read (follow_cons step readOthers)⟩

theorem PostfixPhrase.follows (phrase : PostfixPhrase) (around : List Bracketing) :
    ∃ stance, stance.isComplete = true ∧
      follow ⟨around, .beforeOperand⟩ phrase.tokens = some ⟨around, stance⟩ := by
  cases phrase with
  | primary phrase => exact phrase.follows around
  | brackets operand =>
      obtain ⟨stance, complete, read⟩ := operand.follows around
      have step : next? ⟨around, stance⟩ (.mark .openBracket) = some ⟨around, .inBrackets⟩ :=
        next?_of_isComplete complete around (by decide)
      exact ⟨.afterOperand, rfl, follow_append read (follow_cons step rfl)⟩

theorem PrimaryPhrase.follows (phrase : PrimaryPhrase) (around : List Bracketing) :
    ∃ stance, stance.isComplete = true ∧
      follow ⟨around, .beforeOperand⟩ phrase.tokens = some ⟨around, stance⟩ := by
  cases phrase with
  | question operand =>
      obtain ⟨stance, complete, read⟩ := operand.follows around
      exact ⟨stance, complete, follow_cons rfl read⟩
  | group inner =>
      obtain ⟨stance, complete, read⟩ := inner.follows (.group :: around)
      have step : next? ⟨.group :: around, stance⟩ (.mark .closeGroup) =
          some ⟨around, .afterOperand⟩ := next?_of_isComplete complete _ (by decide)
      exact ⟨.afterOperand, rfl, follow_cons rfl (follow_append read (follow_cons step rfl))⟩
  | name text => exact ⟨.afterName, rfl, rfl⟩
  | applied text arguments =>
      obtain ⟨stance, complete, read⟩ := arguments.follows around
      have step : next? ⟨.arguments :: around, stance⟩ (.mark .greater) =
          some ⟨around, .afterOperand⟩ := next?_of_isComplete complete _ (by decide)
      exact ⟨.afterOperand, rfl,
        follow_cons rfl (follow_cons rfl (follow_append read (follow_cons step rfl)))⟩

theorem ArgumentsPhrase.follows (phrase : ArgumentsPhrase) (around : List Bracketing) :
    ∃ stance, stance.isComplete = true ∧
      follow ⟨.arguments :: around, .beforeOperand⟩ phrase.tokens =
        some ⟨.arguments :: around, stance⟩ := by
  cases phrase with
  | last argument => exact argument.follows (.arguments :: around)
  | comma argument others =>
      obtain ⟨stance, complete, read⟩ := argument.follows (.arguments :: around)
      obtain ⟨final, completeOthers, readOthers⟩ := others.follows around
      have step : next? ⟨.arguments :: around, stance⟩ (.mark .comma) =
          some ⟨.arguments :: around, .beforeOperand⟩ := next?_of_isComplete complete _ (by decide)
      exact ⟨final, completeOthers, follow_append read (follow_cons step readOthers)⟩

end

/-! ### Outlines are completed -/

/-- Something whole: arguments where those of a name are open, and otherwise a union. -/
def Whole : Option Bracketing → List Token → Prop
  | some .arguments, tokens => ∃ phrase : ArgumentsPhrase, phrase.tokens = tokens
  | _, tokens => IsUnion tokens

namespace Whole

variable {inside : Option Bracketing} {rest : List Token}

theorem of_union (phrase : UnionPhrase) : Whole inside phrase.tokens := by
  match inside with
  | none | some .group => exact ⟨phrase, rfl⟩
  | some .arguments => exact ⟨.last phrase, rfl⟩

theorem of_operand (operand : PostfixPhrase) : Whole inside operand.tokens :=
  of_union (.last (.last operand))

/-- What may stand before every union may stand before what starts with one. -/
theorem extend (whole : Whole inside rest) (added : List Token)
    (extend : ∀ phrase : UnionPhrase, IsUnion (added ++ phrase.tokens)) :
    Whole inside (added ++ rest) := by
  match inside with
  | none | some .group =>
      obtain ⟨phrase, rfl⟩ := whole
      exact extend phrase
  | some .arguments =>
      obtain ⟨phrase, rfl⟩ := whole
      cases phrase with
      | last argument =>
          obtain ⟨extended, same⟩ := extend argument
          exact ⟨.last extended, same⟩
      | comma argument others =>
          obtain ⟨extended, same⟩ := extend argument
          refine ⟨.comma extended others, ?_⟩
          rw [ArgumentsPhrase.tokens, ArgumentsPhrase.tokens, same, List.append_assoc]

theorem question (whole : Whole inside rest) : Whole inside (.mark .question :: rest) := by
  refine whole.extend [.mark .question] (fun phrase => ?_)
  cases phrase with
  | last alternative =>
      cases alternative with
      | last member => exact ⟨.last (.last (.primary (.question member))), rfl⟩
      | ampersand member others =>
          exact ⟨.last (.ampersand (.primary (.question member)) others), rfl⟩
  | bar alternative others =>
      cases alternative with
      | last member => exact ⟨.bar (.last (.primary (.question member))) others, rfl⟩
      | ampersand member members =>
          exact ⟨.bar (.ampersand (.primary (.question member)) members) others, rfl⟩

theorem bar (whole : Whole inside rest) (operand : PostfixPhrase) :
    Whole inside (operand.tokens ++ .mark .bar :: rest) := by
  have extended := whole.extend (operand.tokens ++ [.mark .bar])
    (fun phrase => ⟨.bar (.last operand) phrase, by
      simp [UnionPhrase.tokens, IntersectionPhrase.tokens]⟩)
  rwa [List.append_assoc, List.singleton_append] at extended

theorem ampersand (whole : Whole inside rest) (operand : PostfixPhrase) :
    Whole inside (operand.tokens ++ .mark .ampersand :: rest) := by
  have extended := whole.extend (operand.tokens ++ [.mark .ampersand]) (fun phrase => by
    cases phrase with
    | last alternative =>
        exact ⟨.last (.ampersand operand alternative), by
          simp [UnionPhrase.tokens, IntersectionPhrase.tokens]⟩
    | bar alternative others =>
        exact ⟨.bar (.ampersand operand alternative) others, by
          simp [UnionPhrase.tokens, IntersectionPhrase.tokens]⟩)
  rwa [List.append_assoc, List.singleton_append] at extended

theorem comma (whole : Whole (some .arguments) rest) (operand : PostfixPhrase) :
    Whole (some .arguments) (operand.tokens ++ .mark .comma :: rest) := by
  obtain ⟨phrase, rfl⟩ := whole
  exact ⟨.comma (.last (.last operand)) phrase, rfl⟩

end Whole

/-- The tokens make something whole together with any that end at the stance. -/
def Stance.Completes (inside : Option Bracketing) : Stance → List Token → Prop
  | beforeOperand, rest => Whole inside rest
  | afterName, rest => ∀ name, Whole inside (.name name :: rest)
  | afterOperand, rest => ∀ operand : PostfixPhrase, Whole inside (operand.tokens ++ rest)
  | inBrackets, rest =>
      ∀ operand : PostfixPhrase, Whole inside (operand.tokens ++ .mark .openBracket :: rest)

namespace Stance

variable {inside : Option Bracketing} {rest : List Token}

theorem Completes.of_afterOperand (completes : afterOperand.Completes inside rest)
    {stance : Stance} (complete : stance.isComplete = true) : stance.Completes inside rest := by
  cases stance with
  | beforeOperand => cases complete
  | afterName => exact fun name => completes (.primary (.name name))
  | afterOperand => exact completes
  | inBrackets => cases complete

theorem completes_nil {stance : Stance} (complete : stance.isComplete = true) :
    stance.Completes inside [] := by
  have completes : afterOperand.Completes inside [] := by
    intro operand
    rw [List.append_nil]
    exact Whole.of_operand operand
  exact completes.of_afterOperand complete

theorem exists_completion (inside : Option Bracketing) (stance : Stance) :
    ∃ rest, stance.Completes inside rest := by
  cases stance with
  | beforeOperand => exact ⟨_, Whole.of_operand (.primary (.name "A"))⟩
  | afterName => exact ⟨[], completes_nil rfl⟩
  | afterOperand => exact ⟨[], completes_nil rfl⟩
  | inBrackets =>
      exact ⟨[.mark .closeBracket], fun operand => Whole.of_operand (.brackets operand)⟩

end Stance

/-- The tokens close all that is open, each with something whole inside. -/
def Outline.CompletedBy : List Bracketing → Stance → List Token → Prop
  | [], stance, rest => stance.Completes none rest
  | bracketing :: outer, stance, rest =>
      ∃ inner behind, rest = inner ++ .mark bracketing.closing :: behind ∧
        stance.Completes (some bracketing) inner ∧ CompletedBy outer .afterOperand behind

namespace Outline

variable {around : List Bracketing} {stance later : Stance} {rest : List Token}

/-- What can be put before the tokens whatever is open can be put before those that close it. -/
theorem CompletedBy.extend (completed : CompletedBy around later rest) (added : List Token)
    (extend : ∀ inside rest, later.Completes inside rest →
      stance.Completes inside (added ++ rest)) : CompletedBy around stance (added ++ rest) := by
  cases around with
  | nil => exact extend none rest completed
  | cons bracketing outer =>
      obtain ⟨inner, behind, rfl, completes, closed⟩ := completed
      exact ⟨added ++ inner, behind, by rw [List.append_assoc], extend _ inner completes, closed⟩

theorem CompletedBy.close (completed : CompletedBy around .afterOperand rest)
    (complete : stance.isComplete = true) (bracketing : Bracketing) :
    CompletedBy (bracketing :: around) stance (.mark bracketing.closing :: rest) :=
  ⟨[], rest, rfl, Stance.completes_nil complete, completed⟩

theorem CompletedBy.behind {mark : Mark} {next : Outline} (step : behind? around mark = some next)
    (completed : CompletedBy next.around next.stance rest) (complete : stance.isComplete = true) :
    CompletedBy around stance (.mark mark :: rest) := by
  have extend (restarts : ∀ inside rest, Whole inside rest → ∀ operand : PostfixPhrase,
      Whole inside (operand.tokens ++ .mark mark :: rest))
      (completed : CompletedBy around .beforeOperand rest) :
      CompletedBy around stance (.mark mark :: rest) :=
    completed.extend [.mark mark] (fun inside rest whole =>
      Stance.Completes.of_afterOperand (restarts inside rest whole) complete)
  cases mark with
  | openBracket =>
      cases step
      exact completed.extend [.mark .openBracket] (fun inside rest completes =>
        Stance.Completes.of_afterOperand completes complete)
  | ampersand =>
      cases step
      exact extend (fun inside rest whole => whole.ampersand) completed
  | bar =>
      cases step
      exact extend (fun inside rest whole => whole.bar) completed
  | closeGroup =>
      match around with
      | .group :: outer =>
          cases step
          exact completed.close complete .group
      | [] | .arguments :: _ => cases step
  | comma =>
      match around with
      | .arguments :: outer =>
          cases step
          obtain ⟨inner, behind, rfl, whole, closed⟩ := completed
          exact ⟨.mark .comma :: inner, behind, rfl,
            Stance.Completes.of_afterOperand (Whole.comma whole) complete, closed⟩
      | [] | .group :: _ => cases step
  | greater =>
      match around with
      | .arguments :: outer =>
          cases step
          exact completed.close complete .arguments
      | [] | .group :: _ => cases step
  | less | question | openGroup | closeBracket => cases around <;> cases step

theorem CompletedBy.step {outline next : Outline} {token : Token}
    (step : outline.next? token = some next)
    (completed : CompletedBy next.around next.stance rest) :
    CompletedBy outline.around outline.stance (token :: rest) := by
  obtain ⟨around, stance⟩ := outline
  cases stance with
  | beforeOperand =>
      cases token with
      | name text =>
          cases step
          exact completed.extend [.name text] (fun inside rest completes =>
            completes text)
      | mark mark =>
          cases mark with
          | question =>
              cases step
              exact completed.extend [.mark .question] (fun inside rest whole =>
                Whole.question whole)
          | openGroup =>
              cases step
              obtain ⟨inner, behind, rfl, ⟨phrase, rfl⟩, closed⟩ := completed
              have grouped : CompletedBy around .beforeOperand _ :=
                closed.extend (PrimaryPhrase.group phrase).tokens
                  (fun inside rest completes => completes (.primary (.group phrase)))
              simpa [PrimaryPhrase.tokens, Bracketing.closing] using grouped
          | _ => cases step
  | afterName =>
      cases token with
      | name text => cases step
      | mark mark =>
          by_cases isLess : mark = .less
          · subst isLess
            cases step
            obtain ⟨inner, behind, rfl, ⟨phrase, rfl⟩, closed⟩ := completed
            have applied : CompletedBy around .afterName _ :=
              closed.extend (.mark .less :: phrase.tokens ++ [Token.mark .greater])
                (fun inside rest completes name => completes (.primary (.applied name phrase)))
            simpa [Bracketing.closing] using applied
          · rw [next?_of_isComplete rfl around isLess] at step
            exact completed.behind step rfl
  | afterOperand =>
      cases token with
      | name text => cases step
      | mark mark => exact completed.behind step rfl
  | inBrackets =>
      cases token with
      | name text => cases step
      | mark mark =>
          cases mark with
          | closeBracket =>
              cases step
              refine completed.extend [.mark .closeBracket]
                (fun inside rest completes operand => ?_)
              have bracketed := completes (.brackets operand)
              rwa [PostfixPhrase.tokens, List.append_assoc] at bracketed
          | _ => cases step

theorem CompletedBy.steps {outline last : Outline} {tokens : List Token}
    (found : outline.follow tokens = some last)
    (completed : CompletedBy last.around last.stance rest) :
    CompletedBy outline.around outline.stance (tokens ++ rest) := by
  induction tokens generalizing outline with
  | nil =>
      cases found
      exact completed
  | cons token others ih =>
      obtain ⟨middle, step, later⟩ := Option.bind_eq_some_iff.mp found
      exact (ih later).step step

/-- Whatever is open can be completed. -/
theorem exists_completedBy (around : List Bracketing) (stance : Stance) :
    ∃ rest, CompletedBy around stance rest := by
  induction around generalizing stance with
  | nil => exact Stance.exists_completion none stance
  | cons bracketing outer ih =>
      obtain ⟨inner, completes⟩ := Stance.exists_completion (some bracketing) stance
      obtain ⟨behind, closed⟩ := ih .afterOperand
      exact ⟨_, inner, behind, rfl, completes, closed⟩

/-! ### The tokens that have an outline -/

/-- A union begins with the tokens that have an outline, and with no others. -/
theorem beginsUnion_iff (tokens : List Token) :
    BeginsUnion tokens ↔ ∃ outline, follow {} tokens = some outline := by
  constructor
  · rintro ⟨phrase, rest, same⟩
    obtain ⟨stance, -, read⟩ := phrase.follows []
    rw [← same] at read
    obtain ⟨middle, found, -⟩ := exists_of_follow_append read
    exact ⟨middle, found⟩
  · rintro ⟨outline, found⟩
    obtain ⟨rest, completed⟩ := exists_completedBy outline.around outline.stance
    obtain ⟨phrase, same⟩ : IsUnion (tokens ++ rest) := completed.steps found
    exact ⟨phrase, rest, same.symm⟩

/-- Tokens are a union if nothing is left open in their outline and an operand is complete. -/
theorem isUnion_iff (tokens : List Token) :
    IsUnion tokens ↔
      ∃ stance, stance.isComplete = true ∧ follow {} tokens = some ⟨[], stance⟩ := by
  constructor
  · rintro ⟨phrase, rfl⟩
    exact phrase.follows []
  · rintro ⟨stance, complete, found⟩
    have completed : CompletedBy [] stance [] := Stance.completes_nil complete
    have whole : IsUnion (tokens ++ []) := CompletedBy.steps found completed
    rwa [List.append_nil] at whole

end Outline

end AssociationCheck
