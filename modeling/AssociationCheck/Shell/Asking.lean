/-
Choices and questions.

A choice compares a text with patterns. A question of the larger language compares words, asks
about files, and joins such questions.
-/

import AssociationCheck.Shell.Calling
import AssociationCheck.Shell.Regex

namespace AssociationCheck.Shell

namespace Execution

/-! ### Choices and questions -/

def matchesAny (inner : Inner) (subject : String) : List Word → Execution Bool
  | [] => pure false
  | word :: rest => do
      let pattern ← patternOf inner (← withHome word)
      if pattern.holds subject.toList then pure true else matchesAny inner subject rest

/-- Carries out the first arm with a pattern that the subject matches, and those behind it as the
ends of arms say. -/
def chooseFrom (inner : Inner) (tested : Bool) (subject : String) :
    Bool → Nat → List (List Word × Command × ArmEnd) → Execution Nat
  | _, status, [] => pure status
  | taken, status, (patterns, body, ending) :: rest => do
      if taken || (← matchesAny inner subject patterns) then do
        let status ← inner.command tested body
        match ending with
        | .leave => pure status
        | .goOn => chooseFrom inner tested subject true status rest
        | .tryNext => chooseFrom inner tested subject false status rest
      else chooseFrom inner tested subject false status rest

def shownOperand (text : String) : String := if text.isEmpty then "''" else text

/-- A pattern as it is shown, with a backslash before each character that is meant as it is. -/
def markedText (glyphs : List Glyph) : String :=
  String.join ((markedOf glyphs).map (fun marked =>
    (if marked.literal then "\\" else "") ++ marked.char.toString))

def compareWords (inner : Inner) (operator : String) (left right : Word) : Execution Bool := do
  let first ← singleText inner left
  let glyphs ← inner.glyphs false false (← withHome right)
  let isPattern := ["=", "==", "!="].contains operator
  let second := if isPattern then markedText glyphs else glyphText glyphs
  traceHead ("[[ " ++ shownOperand first ++ " " ++ operator ++ " " ++ shownOperand second ++ " ]]")
  match operator with
  | "=~" => do
      let escaped := String.join (glyphs.filterMap (fun glyph =>
        match glyph with
        | .char c quoted _ =>
            some (if quoted && !c.isAlphanum then "\\" ++ c.toString else c.toString)
        | _ => none))
      match Regex.ofText true escaped with
      | .error _ => throw (.fault 2)
      | .ok regex =>
          match regex.find? false first with
          | some found => do
              let groups := (List.range 10).filterMap (fun number =>
                if number = 0 then some (String.ofList found.text)
                else (found.groups.lookup number).map String.ofList)
              giveRow "BASH_REMATCH" groups
              pure true
          | none => do
              giveRow "BASH_REMATCH" []
              pure false
  | _ =>
      if isPattern then
        let pattern := Pattern.ofMarked (← isExtended) (markedOf glyphs)
        pure (pattern.holds first.toList != (operator == "!="))
      else
        let second := glyphText glyphs
        if operator = "<" then pure (decide (first < second))
        else if operator = ">" then pure (decide (second < first))
        else if ["-eq", "-ne", "-lt", "-le", "-gt", "-ge"].contains operator then
          let a ← blaming "[[" (evaluateText first)
          let b ← blaming "[[" (evaluateText second)
          pure (match operator with
            | "-eq" => decide (a = b)
            | "-ne" => decide (a ≠ b)
            | "-lt" => decide (a < b)
            | "-le" => decide (a ≤ b)
            | "-gt" => decide (a > b)
            | _ => decide (a ≥ b))
        else
          let questions := Tool.questions (← machine).files (← process).directory true
          pure ((Condition.holds questions [first, operator, second]).toOption.getD false)

def askWord (inner : Inner) (operator : String) (word : Word) : Execution Bool := do
  let text ← singleText inner word
  traceHead ("[[ " ++ operator ++ " " ++ shownOperand text ++ " ]]")
  if operator = "-v" then
    match itemName? text with
    | some (name, item) => do pure (((← found? name).bind (·.item? item)).isSome)
    | none => do pure ((← found? text).bind Variable.first?).isSome
  else if operator = "-o" then do
    let process ← process
    pure (((optionNames process.dialect).lookup text).map process.options.contains |>.getD false)
  else do
    let operator := if operator = "-a" then "-e" else operator
    let questions := Tool.questions (← machine).files (← process).directory true
    pure ((Condition.holds questions [operator, text]).toOption.getD false)

def ask (inner : Inner) : Question Word → Execution Bool
  | .filled word => askWord inner "-n" word
  | .unary operator word => askWord inner operator word
  | .binary operator left right => compareWords inner operator left right
  | .not body => do pure !(← ask inner body)
  | .both first second => do
      if ← ask inner first then ask inner second else pure false
  | .either first second => do
      if ← ask inner first then pure true else ask inner second

end Execution

end AssociationCheck.Shell
