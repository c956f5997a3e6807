/-
Conditions.

A condition is a list of words: texts, comparisons of texts and numbers, questions about files,
and these joined by the words for "not", "and" and "or" and by brackets. Whether a word is an
operator depends on the words that follow it, since any text may stand where an operand does.
-/

import AssociationCheck.Power
import AssociationCheck.Shell.Formatted

namespace AssociationCheck.Shell

inductive ConditionFault
  | noBracket
  | unexpected (word : String)
  | noOperand (operator : String)
  | unclosed
  | notNumber (text : String)
  deriving DecidableEq, Repr

/-- How conditions ask about files, and which operators there are. -/
structure Questions where
  /-- Whether a path has what a letter stands for. -/
  file : Char → String → Bool
  /-- Whether two paths lead to one file. -/
  same : String → String → Bool
  /-- Whether a condition may be written with a double sign of equality. -/
  doubleEqual : Bool := false

namespace Condition

/-- A number that a text writes in tens; blanks around it do not count. -/
def number? (text : String) : Option Int :=
  let chars := text.toList.dropWhile FormatArgument.isSpace
  let (negative, digits) :=
    match chars with
    | '-' :: rest => (true, rest)
    | '+' :: rest => (false, rest)
    | _ => (false, chars)
  let used := digits.takeWhile Char.isDigit
  let value : Int := (used.foldl (fun value c => 10 * value + (c.toNat - 48)) 0 : Nat)
  let value := if negative then -value else value
  if used.isEmpty || !((digits.drop used.length).dropWhile FormatArgument.isSpace).isEmpty ||
      value > twoTo 63 - 1 || value < -twoTo 63 then none
  else some value

def unary : List String :=
  ["-r", "-w", "-x", "-e", "-f", "-d", "-c", "-b", "-p", "-u", "-g", "-k", "-s", "-t", "-z", "-n",
    "-h", "-L", "-O", "-G", "-S"]

def binary (questions : Questions) : List String :=
  ["=", "!=", "<", ">", "-eq", "-ne", "-ge", "-gt", "-le", "-lt", "-nt", "-ot", "-ef"] ++
    (if questions.doubleEqual then ["=="] else [])

inductive Lexeme
  | ending
  | operand
  | operator (text : String)
  deriving DecidableEq, Repr

def lexeme (questions : Questions) : List String → Lexeme
  | [] => .ending
  | word :: rest =>
      if unary.contains word then
        match rest with
        | [] => .operand
        | [_] => .operator word
        | next :: _ =>
            if (binary questions).contains next then .operand else .operator word
      else if word = "(" then (if rest.isEmpty then .operand else .operator word)
      else if word = ")" || word = "!" || word = "-a" || word = "-o" ||
          (binary questions).contains word then .operator word
      else .operand

abbrev Reading := StateT (List String) (Except ConditionFault)

def advance : Reading Unit := modify (List.drop 1)

def numberOf (text : String) : Reading Int :=
  match number? text with
  | some value => pure value
  | none => throw (.notNumber text)

def compare (questions : Questions) (operator left right : String) : Reading Bool := do
  match operator with
  | "=" => pure (left == right)
  | "==" => pure (left == right)
  | "!=" => pure (left != right)
  | "<" => pure (decide (left < right))
  | ">" => pure (decide (right < left))
  | "-ef" => pure (questions.same left right)
  | "-nt" => pure (questions.file 'e' left && !questions.file 'e' right)
  | "-ot" => pure (questions.file 'e' right && !questions.file 'e' left)
  | _ =>
      let first ← numberOf left
      let second ← numberOf right
      match operator with
      | "-eq" => pure (decide (first = second))
      | "-ne" => pure (decide (first ≠ second))
      | "-ge" => pure (decide (first ≥ second))
      | "-gt" => pure (decide (first > second))
      | "-le" => pure (decide (first ≤ second))
      | _ => pure (decide (first < second))

def askUnary (questions : Questions) (operator operand : String) : Reading Bool := do
  match operator with
  | "-z" => pure operand.isEmpty
  | "-n" => pure !operand.isEmpty
  | "-t" => do
      let _ ← numberOf operand
      pure false
  | _ => pure (questions.file (operator.toList.getLastD 'e') operand)

/-- How strongly the parts of a condition hold together. -/
inductive Level
  | either
  | both
  | not
  deriving DecidableEq, Repr

def readLevel (questions : Questions) : Nat → Level → Lexeme → Reading Bool
  | 0, _, _ => pure false
  | fuel + 1, .either, start => do
      let first ← readLevel questions fuel .both start
      match lexeme questions ((← get).drop 1) with
      | .operator "-o" => do
          advance
          advance
          let second ← readLevel questions fuel .either (lexeme questions (← get))
          pure (first || second)
      | _ => pure first
  | fuel + 1, .both, start => do
      let first ← readLevel questions fuel .not start
      match lexeme questions ((← get).drop 1) with
      | .operator "-a" => do
          advance
          advance
          let second ← readLevel questions fuel .both (lexeme questions (← get))
          pure (first && second)
      | _ => pure first
  | fuel + 1, .not, start => do
      let words ← get
      match start with
      | .ending => pure false
      | .operator "!" => do
          advance
          let value ← readLevel questions fuel .not (lexeme questions (← get))
          pure !value
      | .operator "(" => do
          advance
          match lexeme questions (← get) with
          | .operator ")" => pure false
          | inner => do
              let value ← readLevel questions fuel .either inner
              advance
              match lexeme questions (← get) with
              | .operator ")" => pure value
              | _ => throw .unclosed
      | _ =>
          let isUnary :=
            match start with
            | .operator text => unary.contains text
            | _ => false
          match words with
          | [] => pure false
          | word :: rest =>
              if isUnary then
                match rest with
                | [] => throw (.noOperand word)
                | operand :: _ => do
                    advance
                    askUnary questions word operand
              else
                match lexeme questions rest, rest with
                | .operator operator, _ :: more =>
                    if (binary questions).contains operator then
                      match more with
                      | [] => do
                          advance
                          throw (.noOperand operator)
                      | right :: _ => do
                          advance
                          advance
                          compare questions operator word right
                    else pure !word.isEmpty
                | _, _ => pure !word.isEmpty

def holds (questions : Questions) (words : List String) : Except ConditionFault Bool := do
  if words.isEmpty then pure false
  else
    let compared :=
      match words with
      | [_, operator, _] => (binary questions).contains operator
      | _ => false
    let bracketed :=
      (words.length = 3 || words.length = 4) && words.head? == some "(" &&
        words.getLast? == some ")"
    let (words, start) :=
      if compared then (words, Lexeme.operand)
      else
        let words := if bracketed then (words.drop 1).dropLast else words
        (words, lexeme questions words)
    let (value, left) ← (readLevel questions (10 * words.length + 10) .either start).run words
    match left with
    | word :: _ :: _ => throw (.unexpected word)
    | _ => pure value

end Condition

end AssociationCheck.Shell
