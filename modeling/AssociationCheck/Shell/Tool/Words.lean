/-
Programs that make texts of their arguments.

They write their arguments, with or without a format, parts of paths, or rows of numbers; or they
say by how they end whether a condition holds.
-/

import AssociationCheck.Power
import AssociationCheck.Shell.Condition
import AssociationCheck.Shell.Program
import AssociationCheck.Shell.Regex

namespace AssociationCheck.Shell

namespace Tool

open Program

/-! ### Arguments as they are -/

def echoOptions : List String → List Char × List String
  | [] => ([], [])
  | argument :: rest =>
      match argument.toList with
      | '-' :: c :: more =>
          if (c :: more).all (fun c => c = 'n' || c = 'e' || c = 'E') then
            let (letters, others) := echoOptions rest
            (c :: more ++ letters, others)
          else ([], argument :: rest)
      | _ => ([], argument :: rest)

/-- What is written for arguments when escapes are replaced only if asked for. -/
def echoed (style : FormatStyle) (arguments : List String) : String :=
  let (letters, words) := echoOptions arguments
  let text := String.intercalate " " words
  let escaped := (letters.reverse.find? (fun c => c = 'e' || c = 'E')) == some 'e'
  let ending := if letters.contains 'n' then "" else "\n"
  if escaped then
    let (expanded, stopped) := style.plain.expand text
    if stopped then expanded else expanded ++ ending
  else text ++ ending

def echo : Program Nat := do
  print (echoed .system (← read).arguments) 0

def formatFaultText : FormatFault → String
  | .notNumber text => "'" ++ text ++ "': expected a numeric value"
  | .trailing text => "'" ++ text ++ "': value not completely converted"
  | .outOfRange text => "'" ++ text ++ "': Numerical result out of range"
  | .badDirective text => text ++ ": invalid conversion specification"
  | .noLetter => "missing conversion specification"

def printf : Program Nat := do
  let given := (← read).arguments
  match (if given.head? == some "--" then given.drop 1 else given) with
  | [] => misused "missing operand" 1
  | format :: arguments => do
      let formatted := FormatStyle.system.format format arguments
      formatted.faults.forM (fun fault => report (formatFaultText fault))
      print formatted.text (if formatted.faults.isEmpty then 0 else 1)

/-! ### Parts of paths -/

def lastComponent (path : String) : String :=
  let reversed := path.toList.reverse.dropWhile (· = '/')
  if reversed.isEmpty then (if path.isEmpty then "" else "/")
  else String.ofList (reversed.takeWhile (· ≠ '/')).reverse

def directoryPart (path : String) : String :=
  let reversed := path.toList.reverse.dropWhile (· = '/')
  let above := reversed.dropWhile (· ≠ '/')
  if reversed.isEmpty then (if path.isEmpty then "." else "/")
  else if above.isEmpty then "."
  else
    let kept := above.dropWhile (· = '/')
    if kept.isEmpty then "/" else String.ofList kept.reverse

def withoutEnding (name ending : String) : String :=
  if name.endsWith ending && name ≠ ending then
    String.ofList (name.toList.take (name.length - ending.length))
  else name

def basename : Program Nat :=
  withOptions { flags := "az", valued := "s", words := [("multiple", 'a', false),
    ("suffix", 's', true)] } 1 (fun given => do
    match given.has 'a' || given.has 's', given.operands with
    | _, [] => misused "missing operand" 1
    | true, paths =>
        print (textOfLines (paths.map (fun path =>
          withoutEnding (lastComponent path) ((given.value? 's').getD "")))) 0
    | false, [path] => print (lastComponent path ++ "\n") 0
    | false, [path, ending] => print (withoutEnding (lastComponent path) ending ++ "\n") 0
    | false, _ :: _ :: extra :: _ => misused ("extra operand " ++ quoted extra) 1)

def dirname : Program Nat :=
  withOptions { flags := "z" } 1 (fun given => do
    if given.operands.isEmpty then misused "missing operand" 1
    else print (textOfLines (given.operands.map directoryPart)) 0)

/-! ### Rows -/

def decimal? (text : String) : Option (Int × Nat) :=
  let (negative, body) :=
    match text.toList with
    | '-' :: rest => (true, rest)
    | '+' :: rest => (false, rest)
    | chars => (false, chars)
  let before := body.takeWhile Char.isDigit
  let rest := body.drop before.length
  let (behind, rest) :=
    match rest with
    | '.' :: rest =>
        let behind := rest.takeWhile Char.isDigit
        (behind, rest.drop behind.length)
    | _ => ([], rest)
  if !rest.isEmpty || (before.isEmpty && behind.isEmpty) then none
  else
    let value : Nat := (before ++ behind).foldl (fun value c => 10 * value + (c.toNat - 48)) 0
    some (if negative then -(value : Int) else value, behind.length)

def decimalText (value : Int) (places width : Nat) : String :=
  let digits := Directive.pointed value.natAbs places false
  let sign := if value < 0 then "-" else ""
  sign ++ Directive.repeated (width - sign.length - digits.length) '0' ++ digits

def row (first step last : Int) : List Int :=
  let count := if step = 0 then 0 else ((last - first).fdiv step + 1).toNat
  (List.range count).map (fun (index : Nat) => first + step * index)

def isNegative (argument : String) : Bool :=
  match argument.toList with
  | '-' :: c :: _ => c.isDigit || c = '.'
  | _ => false

def seq : Program Nat := do
  let arguments := (← read).arguments
  let letters := arguments.takeWhile (fun argument =>
    argument.startsWith "-" && !isNegative argument)
  let numbers := arguments.drop letters.length
  let body (given : Given) (numbers : List String) : Program Nat := do
    match numbers.find? (fun number => (decimal? number).isNone) with
    | some number => misused ("invalid floating point argument: " ++ quoted number) 1
    | none =>
        let values := numbers.filterMap decimal?
        let places := ((if values.length = 1 then [] else values.dropLast).map Prod.snd).foldl max 0
        let finest := (values.map Prod.snd).foldl max 0
        let scaled := values.map (fun (value, count) => value * tenTo (finest - count))
        let (first, step, last) : Int × Int × Int :=
          match scaled with
          | [last] => (tenTo finest, tenTo finest, last)
          | [first, last] => (first, tenTo finest, last)
          | first :: step :: last :: _ => (first, step, last)
          | [] => (1, 1, 0)
        if step = 0 then
          misused ("invalid Zero increment value: " ++ quoted (numbers[1]?.getD "0")) 1
        else
          let items := (row first step last).map (fun value =>
            (value.tdiv (tenTo (finest - places)) : Int))
          let widest := (items.map (fun value => (decimalText value places 0).length)).foldl max 0
          let texts := items.map (fun value =>
            decimalText value places (if given.has 'w' then widest else 0))
          let mark := (given.value? 's').getD "\n"
          print (if texts.isEmpty then "" else String.intercalate mark texts ++ "\n") 0
  match { flags := "w", valued := "sf", words := [("separator", 's', true),
      ("equal-width", 'w', false)] : Options }.read letters, numbers with
  | .error (.noValue letter), value :: rest =>
      if letter = 's' then body { options := [('s', value)] } rest
      else misused (OptionFault.noValue letter).text 1
  | .error fault, _ => misused fault.text 1
  | .ok _, [] => misused "missing operand" 1
  | .ok _, _ :: _ :: _ :: extra :: _ => misused ("extra operand " ++ quoted extra) 1
  | .ok given, numbers => body given numbers

/-- The number of lines after which a row without an end is cut. -/
def rowLimit : Nat := 250000

def yes : Program Nat := do
  let words := (← read).arguments
  let line := (if words.isEmpty then "y" else String.intercalate " " words) ++ "\n"
  let _ ← writeTo 1 (String.join (List.replicate rowLimit line))
  pure 1

/-! ### Waiting and answering -/

def isDuration (text : String) : Bool :=
  let chars := text.toList
  let chars :=
    match chars.getLast? with
    | some c => if ['s', 'm', 'h', 'd'].contains c then chars.dropLast else chars
    | none => chars
  ((decimal? (String.ofList chars)).map (fun (value, _) => decide (value ≥ 0))).getD false

def sleep : Program Nat :=
  withOptions {} 1 (fun given => do
    match given.operands.find? (fun operand => !isDuration operand) with
    | some operand => misused ("invalid time interval " ++ quoted operand) 1
    | none => if given.operands.isEmpty then misused "missing operand" 1 else pure 0)

def questions (files : FileTree) (directory : Location) (doubleEqual : Bool) : Questions :=
  let entry? (path : String) : Option (Location × FileEntry) :=
    (files.entry (Machine.absolute directory path)).toOption
  let own? (path : String) : Option FileEntry :=
    ((files.place (Machine.absolute directory path)).toOption).bind files.at?
  { doubleEqual := doubleEqual
    same := fun first second =>
      match entry? first, entry? second with
      | some (one, _), some (other, _) => one == other
      | _, _ => false
    file := fun letter path =>
      match letter with
      | 'h' => match own? path with | some (.link _) => true | _ => false
      | 'L' => match own? path with | some (.link _) => true | _ => false
      | _ =>
          match entry? path with
          | none => false
          | some (_, entry) =>
              match letter, entry with
              | 'f', .file _ => true
              | 'f', .program _ => true
              | 'f', _ => false
              | 'd', .directory => true
              | 'd', _ => false
              | 'c', .device _ => true
              | 'c', _ => false
              | 's', .file file => !file.bytes.isEmpty
              | 's', .device _ => false
              | 's', _ => true
              | 'x', entry => entry.isExecutable
              | letter, _ => !(['b', 'p', 'u', 'g', 'k', 'S'].contains letter) }

def conditionFaultText : ConditionFault → String
  | .noBracket => "missing ']'"
  | .unexpected word => "extra argument '" ++ word ++ "'"
  | .noOperand operator => "missing argument after '" ++ operator ++ "'"
  | .unclosed => "')' expected"
  | .notNumber text => "invalid integer '" ++ text ++ "'"

def test : Program Nat := do
  let surroundings ← read
  let bracketed := lastComponent surroundings.name = "["
  let arguments := surroundings.arguments
  if bracketed && arguments.getLast? ≠ some "]" then
    report (conditionFaultText .noBracket)
    pure 2
  else
    let words := if bracketed then arguments.dropLast else arguments
    let files := (← getThe Machine).files
    match Condition.holds (questions files surroundings.directory true) words with
    | .ok value => pure (if value then 0 else 1)
    | .error fault => do
        report (conditionFaultText fault)
        pure 2

/-! ### Expressions -/

inductive ExprFault
  | missing (word : String)
  | unexpected (word : String)
  | notNumber
  | divisionByZero
  | regex
  | unclosed

abbrev ExprReading := StateT (List String) (Except ExprFault)

def exprNumber? (text : String) : Option Int :=
  match text.toList with
  | '-' :: rest => if rest.isEmpty then none else
      if rest.all Char.isDigit then ((String.ofList rest).toNat?.map (fun value => -(value : Int)))
      else none
  | chars => if chars.isEmpty || !chars.all Char.isDigit then none else
      (text.toNat?.map (fun value => (value : Int)))

def isNull (text : String) : Bool := text.isEmpty || exprNumber? text == some 0

def matched (text pattern : String) : ExprReading String := do
  match Regex.ofText false pattern with
  | .error _ => throw .regex
  | .ok regex =>
      let hasGroup := (pattern.splitOn "\\(").length > 1
      match regex.longestFrom false { before := none, rest := text.toList } with
      | some place =>
          if hasGroup then pure (String.ofList ((place.groups.lookup 1).getD []))
          else pure (toString place.taken.length)
      | none => pure (if hasGroup then "" else "0")

def exprOperators : Nat → List String
  | 0 => ["|"]
  | 1 => ["&"]
  | 2 => ["<", "<=", "=", "==", "!=", ">=", ">"]
  | 3 => ["+", "-"]
  | 4 => ["*", "/", "%"]
  | 5 => [":"]
  | _ => []

def combined (operator left right : String) : ExprReading String := do
  let numbers : Option (Int × Int) := do pure (← exprNumber? left, ← exprNumber? right)
  let truth (value : Bool) : String := if value then "1" else "0"
  let compared (byNumber : Int → Int → Bool) (byText : Bool) : String :=
    match numbers with
    | some (first, second) => truth (byNumber first second)
    | none => truth byText
  match operator with
  | "|" => pure (if !isNull left then left else if isNull right then "0" else right)
  | "&" => pure (if isNull left || isNull right then "0" else left)
  | "<" => pure (compared (fun a b => decide (a < b)) (decide (left < right)))
  | "<=" => pure (compared (fun a b => decide (a ≤ b)) (decide (left ≤ right)))
  | "=" => pure (compared (· == ·) (left == right))
  | "==" => pure (compared (· == ·) (left == right))
  | "!=" => pure (compared (· != ·) (left != right))
  | ">=" => pure (compared (fun a b => decide (a ≥ b)) (decide (right ≤ left)))
  | ">" => pure (compared (fun a b => decide (a > b)) (decide (right < left)))
  | ":" => matched left right
  | _ =>
      match numbers with
      | none => throw .notNumber
      | some (first, second) =>
          match operator with
          | "+" => pure (toString (first + second))
          | "-" => pure (toString (first - second))
          | "*" => pure (toString (first * second))
          | _ =>
              if second = 0 then throw .divisionByZero
              else if operator = "/" then pure (toString (first.tdiv second))
              else pure (toString (first.tmod second))

inductive ExprGoal
  | level (level : Nat)
  | following (level : Nat) (left : String)

def readExpr : Nat → ExprGoal → ExprReading String
  | 0, _ => throw .unclosed
  | fuel + 1, .following level left => do
      match ← get with
      | operator :: rest =>
          if (exprOperators level).contains operator then do
            set rest
            let right ← readExpr fuel (.level (level + 1))
            readExpr fuel (.following level (← combined operator left right))
          else pure left
      | [] => pure left
  | fuel + 1, .level level => do
      if level < 6 then
        let left ← readExpr fuel (.level (level + 1))
        readExpr fuel (.following level left)
      else
        match ← get with
        | [] => throw (.missing "")
        | "(" :: rest => do
            set rest
            let value ← readExpr fuel (.level 0)
            match ← get with
            | ")" :: rest => do
                set rest
                pure value
            | _ => throw .unclosed
        | "length" :: text :: rest => do
            set rest
            pure (toString text.length)
        | "match" :: text :: pattern :: rest => do
            set rest
            matched text pattern
        | "substr" :: text :: start :: count :: rest => do
            set rest
            match exprNumber? start, exprNumber? count with
            | some start, some count =>
                if start < 1 || count < 1 then pure ""
                else
                  pure (String.ofList ((text.toList.drop (start - 1).toNat).take count.toNat))
            | _, _ => pure ""
        | "index" :: text :: chars :: rest => do
            set rest
            let before := text.toList.takeWhile (fun c => !chars.toList.contains c)
            pure (if before.length < text.length then toString (before.length + 1) else "0")
        | word :: rest => do
            set rest
            pure word

def expr : Program Nat := do
  let arguments := (← read).arguments
  let words := if arguments.head? == some "--" then arguments.drop 1 else arguments
  if words.isEmpty then misused "missing operand" 2
  else
    let fail (text : String) : Program Nat := do
      report ("syntax error: " ++ text)
      pure 2
    match (readExpr (20 * words.length + 20) (.level 0)).run words with
    | .ok (value, []) => print (value ++ "\n") (if isNull value then 1 else 0)
    | .ok (_, extra :: _) => fail ("unexpected argument " ++ quoted extra)
    | .error (.missing _) => fail ("missing argument after " ++ quoted (words.getLastD ""))
    | .error (.unexpected word) => fail ("unexpected argument " ++ quoted word)
    | .error .unclosed => fail ("expecting ')' after " ++ quoted (words.getLastD ""))
    | .error .notNumber => do
        report "non-integer argument"
        pure 2
    | .error .divisionByZero => do
        report "division by zero"
        pure 2
    | .error .regex => do
        report "Invalid regular expression"
        pure 2

end Tool

end AssociationCheck.Shell
