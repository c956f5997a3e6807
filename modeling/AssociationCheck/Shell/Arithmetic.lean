/-
Arithmetic.

An expression is read into a tree by the usual order of operators, and then worked out on whole
numbers of 64 bits, which wrap around. A name stands for the number that its value writes; an
assignment changes the value. Of a conjunction, a disjunction or a choice only the part that
counts is worked out.
-/

import AssociationCheck.Power
import AssociationCheck.Shell.Script

namespace AssociationCheck.Shell

inductive Operator
  | multiply | divide | remainder | add | subtract | shiftLeft | shiftRight
  | less | lessEqual | greater | greaterEqual | equal | notEqual
  | bitAnd | bitXor | bitOr | and | or | power
  deriving DecidableEq, Repr

inductive Expression
  | number (value : Int)
  | variable (name : String)
  | negate (body : Expression)
  | plus (body : Expression)
  | complement (body : Expression)
  | not (body : Expression)
  /-- Two numbers, the second one at a place. -/
  | binary (operator : Operator) (left right : Expression) (place : Nat)
  | choice (test yes no : Expression)
  /-- Gives a name a value, alone or joined to the one before. -/
  | assign (name : String) (operator : Option Operator) (value : Expression) (place : Nat)
  /-- Gives the value before the assignment. -/
  | after (name : String) (change : Int)
  | comma (first second : Expression)
  deriving Repr

inductive ArithmeticToken
  | number (value : Int)
  | name (name : String)
  | symbol (text : String)
  /-- A number with a digit that its base does not have. -/
  | wrongNumber (text : String)
  /-- A character that begins no token. -/
  | wrong (c : Char)
  deriving DecidableEq, Repr

/-- What is wrong with an expression, and at which place: before so many tokens from the end. -/
inductive ArithmeticFault
  | expected (what : String) (place : Nat)
  /-- Something behind the expression. -/
  | leftOver (place : Nat)
  | wrongOperator (place : Nat)
  | divisionByZero (place : Nat)
  | illegalNumber (text : String) (place : Nat)
  deriving DecidableEq, Repr

def wrap (value : Int) : Int := Int.bmod value (twoTo 64)

namespace Arithmetic

/-! ### Tokens -/

def greatestNumber : Int := twoTo 63 - 1

def digitValue (c : Char) : Nat :=
  if c.isDigit then c.toNat - '0'.toNat
  else if 'a' ≤ c && c ≤ 'z' then c.toNat - 'a'.toNat + 10
  else if 'A' ≤ c && c ≤ 'Z' then c.toNat - 'A'.toNat + 10
  else 99

def valueOf (base : Nat) (digits : List Char) : Int :=
  min greatestNumber (digits.foldl (fun value c => base * value + digitValue c) 0 : Nat)

/-- A number and what follows it: hexadecimal behind `0x`, octal behind a zero. -/
def numberIn (chars : List Char) : Int × List Char :=
  let inBase (base : Nat) (chars : List Char) : Int × List Char :=
    let digits := chars.takeWhile (fun c => digitValue c < base)
    (valueOf base digits, chars.drop digits.length)
  match chars with
  | '0' :: x :: rest =>
      if (x = 'x' || x = 'X') && ((rest.head?.map digitValue).getD 99 < 16) then inBase 16 rest
      else inBase 8 chars
  | _ => inBase 10 chars

/-- The value of a digit in a base; beyond thirty-six, capitals follow the other letters. -/
def digitIn (base : Nat) (c : Char) : Nat :=
  if c = '@' then 62
  else if c = '_' then 63
  else if c.isUpper && base > 36 then c.toNat - 'A'.toNat + 36
  else digitValue c

/-- A number of the larger language, which may name its base before a hash sign. -/
def numberToken (chars : List Char) : ArithmeticToken :=
  let inBase (base : Nat) (digits : List Char) : ArithmeticToken :=
    if digits.all (fun c => digitIn base c < base) then
      .number (wrap (digits.foldl (fun value c => base * value + digitIn base c) 0 : Nat))
    else .wrongNumber (String.ofList chars)
  let base := chars.takeWhile (· ≠ '#')
  if base.length < chars.length then
    inBase ((String.ofList base).toNat?.getD 0) (chars.drop (base.length + 1))
  else
    match chars with
    | '0' :: 'x' :: digits => inBase 16 digits
    | '0' :: 'X' :: digits => inBase 16 digits
    | '0' :: digits => inBase 8 digits
    | digits => inBase 10 digits

/-- Symbols, the longer ones first. -/
def symbols (extended : Bool) : List String :=
  (if extended then ["**", "++", "--"] else []) ++
  ["<<=", ">>=", "<<", ">>", "<=", ">=", "==", "!=", "&&", "||", "+=", "-=", "*=", "/=", "%=",
    "&=", "^=", "|=", "<", ">", "=", "!", "+", "-", "*", "/", "%", "&", "|", "^", "~", "?", ":",
    "(", ")"] ++ (if extended then [","] else [])

def throughBracket : Nat → List Char → Option (List Char)
  | _, [] => none
  | depth, c :: rest =>
      if c = ']' && depth = 1 then some [c]
      else
        let depth := if c = '[' then depth + 1 else if c = ']' then depth - 1 else depth
        (throughBracket depth rest).map (c :: ·)

def tokensFrom (extended : Bool) : Nat → List Char → List (ArithmeticToken × List Char)
  | 0, _ => []
  | _, [] => []
  | fuel + 1, c :: rest =>
      let chars := c :: rest
      let isPart (c : Char) : Bool := c.isAlphanum || c = '_'
      if c = ' ' || c = '\t' || c = '\n' then tokensFrom extended fuel rest
      else if c.isDigit then
        if extended then
          let number := chars.takeWhile (fun c => isPart c || c = '@' || c = '#')
          (numberToken number, chars) :: tokensFrom extended fuel (chars.drop number.length)
        else
          let (value, after) := numberIn chars
          (.number value, chars) :: tokensFrom extended fuel after
      else if c.isAlpha || c = '_' then
        let name := chars.takeWhile isPart
        let after := chars.drop name.length
        let place := if extended && after.head? == some '[' then (throughBracket 0 after).getD []
          else []
        (.name (String.ofList (name ++ place)), chars) ::
          tokensFrom extended fuel (after.drop place.length)
      else
        match (symbols extended).find? (fun symbol => symbol.toList.isPrefixOf chars) with
        | some symbol =>
            (.symbol symbol, chars) :: tokensFrom extended fuel (chars.drop symbol.length)
        | none => [(.wrong c, chars)]

/-- The text from a place on; from the last token on, if nothing is left there. -/
def textFrom (extended : Bool) (text : String) (place : Nat) : String :=
  let tokens := tokensFrom extended (text.length + 1) text.toList
  String.ofList (((tokens.drop (tokens.length - max 1 place)).head?.map Prod.snd).getD [])

/-! ### Reading -/

/-- The operators of each level, the weakest first. -/
def operatorsAt : Nat → List (String × Operator)
  | 2 => [("||", .or)]
  | 3 => [("&&", .and)]
  | 4 => [("|", .bitOr)]
  | 5 => [("^", .bitXor)]
  | 6 => [("&", .bitAnd)]
  | 7 => [("==", .equal), ("!=", .notEqual)]
  | 8 => [("<", .less), ("<=", .lessEqual), (">", .greater), (">=", .greaterEqual)]
  | 9 => [("<<", .shiftLeft), (">>", .shiftRight)]
  | 10 => [("+", .add), ("-", .subtract)]
  | 11 => [("*", .multiply), ("/", .divide), ("%", .remainder)]
  | 12 => [("**", .power)]
  | _ => []

def lastLevel : Nat := 13

/-- What an assignment joins to the old value. -/
def assignmentOperator? (symbol : String) : Option (Option Operator) :=
  match symbol with
  | "=" => some none
  | "+=" => some (some .add)
  | "-=" => some (some .subtract)
  | "*=" => some (some .multiply)
  | "/=" => some (some .divide)
  | "%=" => some (some .remainder)
  | "&=" => some (some .bitAnd)
  | "^=" => some (some .bitXor)
  | "|=" => some (some .bitOr)
  | "<<=" => some (some .shiftLeft)
  | ">>=" => some (some .shiftRight)
  | _ => none

inductive Goal
  | level (level : Nat)
  | following (level : Nat) (left : Expression)

abbrev Result := Except ArithmeticFault (Expression × List ArithmeticToken)

def readGoal : Nat → Goal → List ArithmeticToken → Result
  | 0, _, tokens => .error (.expected "primary" tokens.length)
  | fuel + 1, .following level left, tokens =>
      match tokens with
      | .symbol symbol :: rest =>
          match (operatorsAt level).lookup symbol with
          | some .power => do
              let (right, after) ← readGoal fuel (.level level) rest
              pure (.binary .power left right rest.length, after)
          | some operator => do
              let (right, after) ← readGoal fuel (.level (level + 1)) rest
              readGoal fuel (.following level (.binary operator left right rest.length)) after
          | none => .ok (left, tokens)
      | _ => .ok (left, tokens)
  | fuel + 1, .level 0, tokens => do
      let (first, rest) ← readGoal fuel (.level 1) tokens
      match rest with
      | .symbol "," :: rest => do
          let (second, rest) ← readGoal fuel (.level 0) rest
          pure (.comma first second, rest)
      | _ => pure (first, rest)
  | fuel + 1, .level 1, tokens => do
      let assignment :=
        match tokens with
        | .name name :: .symbol symbol :: rest =>
            (assignmentOperator? symbol).map (fun operator => (name, operator, rest))
        | _ => none
      match assignment with
      | some (name, operator, rest) => do
          let (value, after) ← readGoal fuel (.level 1) rest
          pure (.assign name operator value rest.length, after)
      | none => do
          let (test, rest) ← readGoal fuel (.level 2) tokens
          match rest with
          | .symbol "?" :: rest => do
              let (yes, rest) ← readGoal fuel (.level 1) rest
              match rest with
              | .symbol ":" :: rest => do
                  let (no, rest) ← readGoal fuel (.level 1) rest
                  pure (.choice test yes no, rest)
              | _ => .error (.expected "':'" rest.length)
          | _ => pure (test, rest)
  | fuel + 1, .level level, tokens =>
      if level < lastLevel then do
        let (left, rest) ← readGoal fuel (.level (level + 1)) tokens
        readGoal fuel (.following level left) rest
      else
        let unary (build : Expression → Expression) (rest : List ArithmeticToken) : Result := do
          let (body, rest) ← readGoal fuel (.level lastLevel) rest
          pure (build body, rest)
        match tokens with
        | .number value :: rest => .ok (.number value, rest)
        | .name name :: .symbol "++" :: rest => .ok (.after name 1, rest)
        | .name name :: .symbol "--" :: rest => .ok (.after name (-1), rest)
        | .name name :: rest => .ok (.variable name, rest)
        | .symbol "++" :: .name name :: rest =>
            .ok (.assign name (some .add) (.number 1) 0, rest)
        | .symbol "--" :: .name name :: rest =>
            .ok (.assign name (some .subtract) (.number 1) 0, rest)
        | .symbol "++" :: rest => unary (fun body => .plus (.plus body)) rest
        | .symbol "--" :: rest => unary (fun body => .negate (.negate body)) rest
        | .symbol "+" :: rest => unary .plus rest
        | .symbol "-" :: rest => unary .negate rest
        | .symbol "!" :: rest => unary .not rest
        | .symbol "~" :: rest => unary .complement rest
        | .symbol "(" :: rest => do
            let (body, rest) ← readGoal fuel (.level 0) rest
            match rest with
            | .symbol ")" :: rest => pure (body, rest)
            | _ => .error (.expected "')'" rest.length)
        | .wrongNumber text :: _ => .error (.illegalNumber text tokens.length)
        | _ => .error (.expected "primary" tokens.length)

def ofText (extended : Bool) (text : String) : Except ArithmeticFault Expression := do
  let tokens := (tokensFrom extended (text.length + 1) text.toList).map Prod.fst
  let (expression, rest) ← readGoal (20 * (tokens.length + 2)) (.level 0) tokens
  match rest with
  | [] => pure expression
  | .wrong _ :: _ => .error (.wrongOperator rest.length)
  | _ => .error (.leftOver rest.length)

/-- The number that the value of a name writes; blanks around it do not count. -/
def numberOfText? (text : String) : Option Int :=
  let isSpace (c : Char) : Bool := c = ' ' || (9 ≤ c.toNat && c.toNat ≤ 13)
  let chars := text.toList.dropWhile isSpace
  let (negative, digits) :=
    match chars with
    | '-' :: rest => (true, rest)
    | '+' :: rest => (false, rest)
    | _ => (false, chars)
  match digits with
  | [] => if chars.isEmpty then some 0 else none
  | c :: _ =>
      if !c.isDigit then none
      else
        let (value, after) := numberIn digits
        if (after.dropWhile isSpace).isEmpty then some (if negative then -value else value)
        else none

/-! ### Working out -/

def ofBool (value : Bool) : Int := if value then 1 else 0

def bits (value : Int) : Nat := (value % twoTo 64).toNat

/-- The result of an operator; nothing can be divided by zero. -/
def combine? (operator : Operator) (left right : Int) : Option Int :=
  match operator with
  | .multiply => some (wrap (left * right))
  | .divide => if right = 0 then none else some (wrap (left.tdiv right))
  | .remainder => if right = 0 then none else some (left.tmod right)
  | .add => some (wrap (left + right))
  | .subtract => some (wrap (left - right))
  | .shiftLeft => some (wrap (left * twoTo (bits right % 64)))
  | .shiftRight => some (left.fdiv (twoTo (bits right % 64)))
  | .less => some (ofBool (left < right))
  | .lessEqual => some (ofBool (left ≤ right))
  | .greater => some (ofBool (left > right))
  | .greaterEqual => some (ofBool (left ≥ right))
  | .equal => some (ofBool (left = right))
  | .notEqual => some (ofBool (left ≠ right))
  | .bitAnd => some (wrap (bits left &&& bits right : Nat))
  | .bitXor => some (wrap (bits left ^^^ bits right : Nat))
  | .bitOr => some (wrap (bits left ||| bits right : Nat))
  | .and => some (ofBool (left ≠ 0 && right ≠ 0))
  | .or => some (ofBool (left ≠ 0 || right ≠ 0))
  | .power => some (wrap (left.pow right.toNat))

def workOut {m : Type → Type} [Monad m] (lookUp : String → m Int) (give : String → Int → m Unit)
    (fault : ArithmeticFault → m Int) : Expression → m Int
  | .number value => pure value
  | .variable name => lookUp name
  | .negate body => do pure (wrap (-(← workOut lookUp give fault body)))
  | .plus body => workOut lookUp give fault body
  | .complement body => do pure (-(← workOut lookUp give fault body) - 1)
  | .not body => do pure (ofBool ((← workOut lookUp give fault body) = 0))
  | .binary operator left right place => do
      let first ← workOut lookUp give fault left
      if operator = .and && first = 0 then pure 0
      else if operator = .or && first ≠ 0 then pure 1
      else
        let second ← workOut lookUp give fault right
        match combine? operator first second with
        | some value => pure value
        | none => fault (.divisionByZero place)
  | .choice test yes no => do
      if (← workOut lookUp give fault test) ≠ 0 then workOut lookUp give fault yes
      else workOut lookUp give fault no
  | .assign name operator value place => do
      let second ← workOut lookUp give fault value
      let result ←
        match operator with
        | none => pure second
        | some operator => do
            match combine? operator (← lookUp name) second with
            | some value => pure value
            | none => fault (.divisionByZero place)
      give name result
      pure result
  | .after name change => do
      let value ← lookUp name
      give name (wrap (value + change))
      pure value
  | .comma first second => do
      let _ ← workOut lookUp give fault first
      workOut lookUp give fault second

end Arithmetic

end AssociationCheck.Shell
