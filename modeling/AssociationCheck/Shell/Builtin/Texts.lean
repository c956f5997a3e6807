/-
Commands that write texts or ask about them.
-/

import AssociationCheck.Shell.Builtin.Variables
import AssociationCheck.Shell.Tool.Words

namespace AssociationCheck.Shell

namespace Execution

def echoWords (arguments : List String) : Execution Nat := do
  if ← isExtended then say (Tool.echoed .extended arguments)
  else
    let (words, ending) :=
      match arguments with
      | "-n" :: rest => (rest, "")
      | words => (words, "\n")
    let (text, stopped) := FormatStyle.standard.plain.expand (String.intercalate " " words)
    say (if stopped then text else text ++ ending)

def formatFaultText (extended : Bool) : FormatFault → String
  | .notNumber text => text ++ (if extended then ": invalid number" else ": expected numeric value")
  | .trailing text =>
      text ++ (if extended then ": invalid number" else ": not completely converted")
  | .outOfRange text => text ++ ": Numerical result out of range"
  | .badDirective text =>
      if extended then
        between (String.ofList (text.toList.drop (text.length - 1))) ++ ": invalid format character"
      else text ++ ": invalid directive"
  | .noLetter =>
      if extended then between "%" ++ ": missing format character" else "missing format character"

def endsFormat : FormatFault → Bool
  | .badDirective _ => true
  | .noLetter => true
  | _ => false

def printFormatted (arguments : List String) : Execution Nat := do
  let extended ← isExtended
  let (name, arguments) :=
    match arguments with
    | "-v" :: name :: rest => if extended then (some name, rest) else (none, arguments)
    | "--" :: rest => (none, rest)
    | _ => (none, arguments)
  match arguments with
  | [] =>
      if extended then do
        showUsage
        pure 2
      else fail "usage: printf format [arg ...]"
  | format :: values => do
      let style := if extended then FormatStyle.extended else FormatStyle.standard
      let formatted := style.format format values
      formatted.faults.forM (fun fault => report (formatFaultText extended fault))
      match name with
      | some name =>
          match itemName? name with
          | some (name, item) => giveItem name item formatted.text
          | none => give name formatted.text
      | none => do
          let _ ← say formatted.text
      if formatted.faults.any endsFormat then throw (.fault (if extended then 1 else 2))
      else pure (if formatted.faults.isEmpty then 0 else 1)

def conditionText (extended : Bool) : ConditionFault → String
  | .noBracket => if extended then "missing " ++ between "]" else "missing ]"
  | .unexpected word => if extended then "too many arguments" else word ++ ": unexpected operator"
  | .noOperand operator =>
      if extended then "argument expected" else operator ++ ": argument expected"
  | .unclosed => if extended then between ")" ++ " expected" else "closing paren expected"
  | .notNumber text =>
      if extended then text ++ ": integer expression expected" else "Illegal number: " ++ text

/-- What the larger language says of two or three words that are no condition. -/
def briefFault? (questions : Questions) (words : List String) : Option String :=
  match words with
  | [first, _] =>
      if first = "!" || Condition.unary.contains first then none
      else some (first ++ ": unary operator expected")
  | [first, second, third] =>
      let joins := (Condition.binary questions).contains second || second = "-a" || second = "-o"
      if joins || first = "!" || (first = "(" && third = ")") then none
      else some (second ++ ": binary operator expected")
  | _ => none

def testWords (name : String) (arguments : List String) : Execution Nat := do
  let extended ← isExtended
  if name = "[" && arguments.getLast? ≠ some "]" then
    warn 2 (conditionText extended .noBracket)
  else
    let words := if name = "[" then arguments.dropLast else arguments
    let questions := Tool.questions (← machine).files (← process).directory extended
    match if extended then briefFault? questions words else none with
    | some text => warn 2 text
    | none =>
        match Condition.holds questions words with
        | .ok value => pure (if value then 0 else 1)
        | .error fault => warn 2 (conditionText extended fault)

end Execution

end AssociationCheck.Shell
