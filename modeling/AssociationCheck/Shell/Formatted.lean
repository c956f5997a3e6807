/-
Formatted text.

Texts are written with escapes, which are a backslash and what follows it, and with directives,
which say how an argument is written. Which escapes there are differs between programs; a record
says so.
-/

import AssociationCheck.Power
import AssociationCheck.Shell.Arithmetic
import AssociationCheck.Text.Decimal

namespace AssociationCheck.Shell

/-! ### Escapes -/

/-- Which escapes there are beside the letters that all programs know. -/
structure Escapes where
  /-- Up to three octal digits behind a zero. -/
  zeroOctal : Bool := false
  /-- Up to three octal digits. -/
  octal : Bool := false
  /-- Up to two hexadecimal digits behind an x. -/
  hexadecimal : Bool := false
  letterE : Bool := false
  /-- Marks that stand for themselves. -/
  marks : List Char := []
  /-- Four hexadecimal digits behind a u, or eight behind a U. -/
  wide : Bool := false
  /-- The letter c, which ends everything. -/
  stops : Bool := false

inductive Escaped
  | chars (chars rest : List Char)
  | stop
  | none

namespace Escapes

def isOctal (c : Char) : Bool := '0' ≤ c && c ≤ '7'

def ofDigits (base : Nat) (digits : List Char) : List Char :=
  [Char.ofNat (digits.foldl (fun value c => base * value + Arithmetic.digitValue c) 0 % 256)]

def isHexadecimal (c : Char) : Bool := Arithmetic.digitValue c < 16

/-- A character by its code, which is written out if it is not a plain one. -/
def ofCode (letter : Char) (digits : List Char) : List Char :=
  let value := digits.foldl (fun value c => 16 * value + Arithmetic.digitValue c) 0
  if value < 128 then [Char.ofNat value]
  else
    let digits := digits.map Char.toUpper
    let width := if letter = 'u' then 4 else 8
    '\\' :: letter :: List.replicate (width - digits.length) '0' ++ digits

def after (escapes : Escapes) (chars : List Char) : Escaped :=
  match chars with
  | [] => .none
  | c :: rest =>
      if c = 'c' && escapes.stops then .stop
      else if c = '0' && escapes.zeroOctal then
        let digits := (rest.take 3).takeWhile isOctal
        .chars (ofDigits 8 digits) (rest.drop digits.length)
      else if isOctal c && escapes.octal then
        let digits := (chars.take 3).takeWhile isOctal
        .chars (ofDigits 8 digits) (chars.drop digits.length)
      else if c = 'x' && escapes.hexadecimal then
        let digits := (rest.take 2).takeWhile isHexadecimal
        if digits.isEmpty then .none else .chars (ofDigits 16 digits) (rest.drop digits.length)
      else if (c = 'u' || c = 'U') && escapes.wide then
        let digits := (rest.take (if c = 'u' then 4 else 8)).takeWhile isHexadecimal
        if digits.isEmpty then .none else .chars (ofCode c digits) (rest.drop digits.length)
      else if escapes.marks.contains c then .chars [c] rest
      else
        match c with
        | 'a' => .chars [Char.ofNat 7] rest
        | 'b' => .chars [Char.ofNat 8] rest
        | 'f' => .chars [Char.ofNat 12] rest
        | 'n' => .chars ['\n'] rest
        | 'r' => .chars ['\r'] rest
        | 't' => .chars ['\t'] rest
        | 'v' => .chars [Char.ofNat 11] rest
        | '\\' => .chars ['\\'] rest
        | 'e' => if escapes.letterE then .chars [Char.ofNat 27] rest else .none
        | _ => .none

def expandFrom (escapes : Escapes) : Nat → List Char → List Char × Bool
  | 0, _ => ([], false)
  | _, [] => ([], false)
  | fuel + 1, '\\' :: rest =>
      match escapes.after rest with
      | .stop => ([], true)
      | .chars first rest =>
          let (chars, stopped) := expandFrom escapes fuel rest
          (first ++ chars, stopped)
      | .none =>
          let (chars, stopped) := expandFrom escapes fuel rest
          ('\\' :: chars, stopped)
  | fuel + 1, c :: rest =>
      let (chars, stopped) := expandFrom escapes fuel rest
      (c :: chars, stopped)

/-- A text in which escapes have been replaced, and whether one of them ended everything. -/
def expand (escapes : Escapes) (text : String) : String × Bool :=
  let (chars, stopped) := escapes.expandFrom (text.length + 1) text.toList
  (String.ofList chars, stopped)

end Escapes

/-! ### Directives -/

structure Directive where
  flags : List Char
  width : Int
  precision : Option Nat
  letter : Char
  deriving Repr

inductive FormatFault
  | notNumber (text : String)
  | trailing (text : String)
  | outOfRange (text : String)
  | badDirective (text : String)
  | noLetter
  deriving DecidableEq, Repr

/-- What has been written, what went wrong, and whether an escape or a fault ended it. -/
structure Formatted where
  parts : List String := []
  faults : List FormatFault := []
  stopped : Bool := false

def Formatted.text (formatted : Formatted) : String := String.join formatted.parts.reverse

namespace Directive

def repeated (count : Nat) (c : Char) : String := String.ofList (List.replicate count c)

def padded (directive : Directive) (text : String) : String :=
  let missing := directive.width.natAbs - text.length
  if directive.flags.contains '-' || directive.width < 0 then text ++ repeated missing ' '
  else repeated missing ' ' ++ text

/-- Fills a number up to the width, with zeros behind its sign if asked to. -/
def paddedNumber (directive : Directive) (sign digits : String) (zeros : Bool) : String :=
  if zeros && directive.flags.contains '0' && !directive.flags.contains '-' &&
      directive.width ≥ 0 then
    sign ++ repeated (directive.width.toNat - sign.length - digits.length) '0' ++ digits
  else directive.padded (sign ++ digits)

def signOf (directive : Directive) (negative : Bool) : String :=
  if negative then "-"
  else if directive.flags.contains '+' then "+"
  else if directive.flags.contains ' ' then " "
  else ""

def digitsOf (directive : Directive) (base : Nat) (upper : Bool) (value : Nat) : String :=
  let digits := String.ofList (Nat.toDigits base value)
  let digits := if upper then digits.map Char.toUpper else digits
  match directive.precision with
  | some count =>
      if count = 0 && value = 0 then "" else repeated (count - digits.length) '0' ++ digits
  | none => digits

def ofWhole (directive : Directive) (value : Int) : String :=
  directive.paddedNumber (directive.signOf (value < 0)) (directive.digitsOf 10 false value.natAbs)
    directive.precision.isNone

def ofBits (directive : Directive) (base : Nat) (upper : Bool) (value : Nat) : String :=
  let digits := directive.digitsOf base upper value
  let mark :=
    if !directive.flags.contains '#' || value = 0 then ""
    else if base = 16 then (if upper then "0X" else "0x")
    else if base = 8 then "0"
    else ""
  directive.paddedNumber mark digits directive.precision.isNone

/-! ### Fractions -/

/-- A quotient to the nearest whole number; a half goes to the even one. -/
def nearest (up down : Nat) : Nat :=
  let floor := up / down
  let rest := 2 * (up % down)
  if rest < down || (rest = down && floor % 2 = 0) then floor else floor + 1

def fraction (number : Text.Binary) : Nat × Nat :=
  (number.significand * twoTo number.exponent.toNat, twoTo (-number.exponent).toNat)

def pointed (digits : Nat) (places : Nat) (keepPoint : Bool) : String :=
  let text := toString digits
  let text := repeated (places + 1 - text.length) '0' ++ text
  let whole := String.ofList (text.toList.take (text.length - places))
  let rest := String.ofList (text.toList.drop (text.length - places))
  if places = 0 then (if keepPoint then whole ++ "." else whole) else whole ++ "." ++ rest

def fixed (up down places : Nat) : String :=
  pointed (nearest (up * tenTo places) down) places false

/-- The power of ten of the first digit of a fraction. -/
def powerOf (up down : Nat) : Int :=
  if up = 0 then 0
  else if up ≥ down then ((toString (up / down)).length : Int) - 1
  else
    let more := (toString (down / up)).length
    if up * tenTo (more - 1) ≥ down then 1 - (more : Int) else -(more : Int)

/-- One digit before the point, the others behind it, and the power of ten. -/
def scientific (up down places : Nat) : Nat × Int :=
  let power := powerOf up down
  let scaled (power : Int) : Nat :=
    let shift := (places : Int) - power
    nearest (up * tenTo shift.toNat) (down * tenTo (-shift).toNat)
  let digits := scaled power
  if digits ≥ tenTo (places + 1) then (scaled (power + 1), power + 1) else (digits, power)

def powerText (power : Int) : String :=
  let digits := toString power.natAbs
  "e" ++ (if power < 0 then "-" else "+") ++ (if digits.length < 2 then "0" else "") ++ digits

/-- Without zeros at the end, and without a point that they leave. -/
def withoutZeros (text : String) : String :=
  if text.toList.contains '.' then
    let kept := text.toList.reverse.dropWhile (· = '0')
    let kept := if kept.head? == some '.' then kept.drop 1 else kept
    String.ofList kept.reverse
  else text

def ofFloat (directive : Directive) (value : Float) : String :=
  let bits := value.toBits
  let negative := bits.toNat / twoTo 63 = 1
  let upper := directive.letter.isUpper
  let cased (text : String) : String := if upper then text.map Char.toUpper else text
  let sign := directive.signOf negative
  if value.isNaN then directive.padded (cased (sign ++ "nan"))
  else if value.isInf then directive.padded (cased (sign ++ "inf"))
  else
    let (up, down) := fraction (Text.Binary.ofBits bits)
    let places := directive.precision.getD 6
    let text :=
      match directive.letter.toLower with
      | 'f' => fixed up down places
      | 'e' =>
          let (digits, power) := scientific up down places
          pointed digits places false ++ powerText power
      | _ =>
          let count := max 1 places
          let (digits, power) := scientific up down (count - 1)
          if power < -4 || power ≥ count then
            withoutZeros (pointed digits (count - 1) false) ++ powerText power
          else withoutZeros (fixed up down ((count : Int) - 1 - power).toNat)
    directive.paddedNumber sign (cased text) true

end Directive

/-! ### Numbers in arguments -/

namespace FormatArgument

def isSpace (c : Char) : Bool := c = ' ' || (9 ≤ c.toNat && c.toNat ≤ 13)

def wholeIn? (chars : List Char) : Option (Int × List Char) :=
  let chars := chars.dropWhile isSpace
  let (negative, digits) :=
    match chars with
    | '-' :: rest => (true, rest)
    | '+' :: rest => (false, rest)
    | _ => (false, chars)
  match digits with
  | c :: _ =>
      if c.isDigit then
        let (base, body) :=
          match digits with
          | '0' :: x :: rest =>
              if (x = 'x' || x = 'X') && ((rest.head?.map Arithmetic.digitValue).getD 99 < 16) then
                (16, rest)
              else (8, digits)
          | _ => (10, digits)
        let used := body.takeWhile (fun c => Arithmetic.digitValue c < base)
        let value := used.foldl (fun value c => base * value + Arithmetic.digitValue c) 0
        some (if negative then -(value : Int) else value, body.drop used.length)
      else none
  | [] => none

def whole (least greatest : Int) (text : String) : Int × Option FormatFault :=
  match text.toList with
  | [] => (0, none)
  | quote :: rest =>
      if quote = '"' || quote = '\'' then ((rest.head?.map (fun c => (c.toNat : Int))).getD 0, none)
      else
        match wholeIn? text.toList with
        | none => (0, some (.notNumber text))
        | some (value, after) =>
            let kept := max least (min greatest value)
            if !after.isEmpty then (kept, some (.trailing text))
            else if kept ≠ value then (kept, some (.outOfRange text))
            else (kept, none)

def decimalIn? (chars : List Char) : Option (Float × List Char) :=
  let chars := chars.dropWhile isSpace
  let (negative, body) :=
    match chars with
    | '-' :: rest => (true, rest)
    | '+' :: rest => (false, rest)
    | _ => (false, chars)
  let before := body.takeWhile Char.isDigit
  let rest := body.drop before.length
  let (behind, rest) :=
    match rest with
    | '.' :: rest =>
        let behind := rest.takeWhile Char.isDigit
        (behind, rest.drop behind.length)
    | _ => ([], rest)
  if before.isEmpty && behind.isEmpty then none
  else
    let digits := (before ++ behind).foldl (fun value c => 10 * value + (c.toNat - 48)) 0
    let (power, rest) : Int × List Char :=
      match rest with
      | e :: after =>
          if e = 'e' || e = 'E' then
            let (minus, number) :=
              match after with
              | '-' :: number => (true, number)
              | '+' :: number => (false, number)
              | _ => (false, after)
            let used := number.takeWhile Char.isDigit
            if used.isEmpty then (0, rest)
            else
              let value : Nat := used.foldl (fun value c => 10 * value + (c.toNat - 48)) 0
              (if minus then -(value : Int) else (value : Int), number.drop used.length)
          else (0, rest)
      | [] => (0, rest)
    let power : Int := max (-400) (min 400 power) - (behind.length : Int)
    let value := Float.ofScientific digits (power < 0) power.natAbs
    some (if negative then -value else value, rest)

def decimal (text : String) : Float × Option FormatFault :=
  match text.toList with
  | [] => (0, none)
  | quote :: rest =>
      if quote = '"' || quote = '\'' then (Float.ofNat ((rest.head?.map Char.toNat).getD 0), none)
      else
        match decimalIn? text.toList with
        | none => (0, some (.notNumber text))
        | some (value, after) => (value, if after.isEmpty then none else some (.trailing text))

end FormatArgument

/-! ### Formats -/

structure FormatStyle where
  escapes : Escapes
  /-- The escapes of arguments that have them. -/
  inner : Escapes
  /-- The escapes of plain texts that have them. -/
  plain : Escapes
  /-- A text from which a shell reads an argument again, where there is a directive for that. -/
  requoted : Option (String → String) := none

namespace FormatStyle

def write (style : FormatStyle) (directive : Directive) (argument : Option String)
    (shown : String) (formatted : Formatted) : Formatted :=
  let add (text : String) : Formatted := { formatted with parts := text :: formatted.parts }
  let addWith (text : String) (fault : Option FormatFault) : Formatted :=
    { formatted with parts := text :: formatted.parts, faults := formatted.faults ++ fault.toList }
  let text := argument.getD ""
  let cut (text : String) : String :=
    match directive.precision with
    | some count => String.ofList (text.toList.take count)
    | none => text
  match directive.letter with
  | 's' => add (directive.padded (cut text))
  | 'b' =>
      let (expanded, stopped) := style.inner.expand text
      { add (directive.padded (cut expanded)) with stopped := stopped }
  | 'c' => add (directive.padded ((text.toList.head?.getD (Char.ofNat 0)).toString))
  | letter =>
      if let some requoted := style.requoted.filter (fun _ => letter = 'q') then
        add (directive.padded (requoted text))
      else if letter = 'd' || letter = 'i' then
        let (value, fault) := FormatArgument.whole (-twoTo 63) (twoTo 63 - 1) text
        addWith (directive.ofWhole value) fault
      else if ['u', 'o', 'x', 'X'].contains letter then
        let (value, fault) := FormatArgument.whole (1 - twoTo 64) (twoTo 64 - 1) text
        let base := if letter = 'u' then 10 else if letter = 'o' then 8 else 16
        addWith (directive.ofBits base (letter = 'X') (Arithmetic.bits value)) fault
      else if ['e', 'E', 'f', 'F', 'g', 'G'].contains letter then
        let (value, fault) := FormatArgument.decimal text
        addWith (directive.ofFloat value) fault
      else
        { formatted with
          faults := formatted.faults ++ [.badDirective shown], stopped := true }

/-- A number that a format writes itself, or takes from the arguments. -/
def sizeIn (chars : List Char) (arguments : List String) :
    Option Int × Option FormatFault × List Char × List String :=
  match chars with
  | '*' :: rest =>
      let argument := arguments.head?.getD ""
      let (value, fault) := FormatArgument.whole (-twoTo 31) (twoTo 31 - 1) argument
      (some value, fault, rest, arguments.drop 1)
  | _ =>
      let digits := chars.takeWhile Char.isDigit
      (if digits.isEmpty then none else some ((String.ofList digits).toNat?.getD 0 : Nat), none,
        chars.drop digits.length, arguments)

/-- Goes once through a format; gives the arguments that are left. -/
def pass (style : FormatStyle) :
    Nat → List Char → List String → Formatted → Formatted × List String
  | 0, _, arguments, formatted => (formatted, arguments)
  | _, [], arguments, formatted => (formatted, arguments)
  | fuel + 1, '\\' :: rest, arguments, formatted =>
      match style.escapes.after rest with
      | .stop => ({ formatted with stopped := true }, arguments)
      | .chars chars rest =>
          pass style fuel rest arguments
            { formatted with parts := String.ofList chars :: formatted.parts }
      | .none => pass style fuel rest arguments { formatted with parts := "\\" :: formatted.parts }
  | fuel + 1, '%' :: '%' :: rest, arguments, formatted =>
      pass style fuel rest arguments { formatted with parts := "%" :: formatted.parts }
  | fuel + 1, '%' :: rest, arguments, formatted =>
      let flags := rest.takeWhile (fun c => ['#', '-', '+', ' ', '0'].contains c)
      let (width, widthFault, afterWidth, arguments) :=
        sizeIn (rest.drop flags.length) arguments
      let (precision, precisionFault, afterPrecision, arguments) :=
        match afterWidth with
        | '.' :: more =>
            let (value, fault, more, arguments) := sizeIn more arguments
            (some (value.getD 0), fault, more, arguments)
        | _ => (none, none, afterWidth, arguments)
      let formatted :=
        { formatted with
          faults := formatted.faults ++ widthFault.toList ++ precisionFault.toList }
      match afterPrecision with
      | [] =>
          ({ formatted with faults := formatted.faults ++ [.noLetter], stopped := true },
            arguments)
      | letter :: more =>
          let shown := '%' :: rest.take (rest.length - more.length)
          let directive : Directive :=
            { flags := flags
              width := width.getD 0
              precision := precision.bind (fun value =>
                if value < 0 then none else some value.toNat)
              letter := letter }
          let formatted :=
            style.write directive arguments.head? (String.ofList shown) formatted
          if formatted.stopped then (formatted, arguments.drop 1)
          else pass style fuel more (arguments.drop 1) formatted
  | fuel + 1, c :: rest, arguments, formatted =>
      pass style fuel rest arguments { formatted with parts := c.toString :: formatted.parts }

/-- Goes through a format until no arguments are left. -/
def passes (style : FormatStyle) (format : List Char) :
    Nat → List String → Formatted → Formatted
  | 0, _, formatted => formatted
  | fuel + 1, arguments, formatted =>
      let (formatted, left) := style.pass (format.length + 1) format arguments formatted
      if formatted.stopped || left.isEmpty || left.length = arguments.length then formatted
      else passes style format fuel left formatted

def format (style : FormatStyle) (text : String) (arguments : List String) : Formatted :=
  style.passes text.toList (arguments.length + 1) arguments {}

def standard : FormatStyle :=
  { escapes := { octal := true }
    inner := { zeroOctal := true, octal := true, stops := true }
    plain := { zeroOctal := true, octal := true, stops := true } }

def isMeant (c : Char) : Bool :=
  [' ', '\t', '\n', '\'', '"', '\\', '|', '&', ';', '(', ')', '<', '>', '!', '\x7b', '\x7d', '*',
    '[', '?', ']', '^', '$', Char.ofNat 96, ','].contains c

def coded (c : Char) : String :=
  match c.toNat with
  | 7 => "\\a"
  | 8 => "\\b"
  | 9 => "\\t"
  | 10 => "\\n"
  | 11 => "\\v"
  | 12 => "\\f"
  | 13 => "\\r"
  | 27 => "\\E"
  | 39 => "\\'"
  | 92 => "\\\\"
  | code =>
      if code < 32 || code ≥ 127 then
        let digits := String.ofList (Nat.toDigits 8 code)
        "\\" ++ Directive.repeated (3 - digits.length) '0' ++ digits
      else c.toString

def hidden (text : String) : String :=
  if text.isEmpty then "''"
  else if text.any (fun c => c.toNat < 32 || c.toNat ≥ 127) then
    "$'" ++ String.join (text.toList.map coded) ++ "'"
  else
    String.join (text.toList.mapIdx (fun place c =>
      if isMeant c || (place = 0 && (c = '#' || c = '~')) then "\\" ++ c.toString
      else c.toString))

def between (text : String) : String :=
  if text.isEmpty then "''"
  else if !text.any (fun c => isMeant c || c = '#' || c = '~' || c = '=') then text
  else if !text.toList.contains '\'' then "'" ++ text ++ "'"
  else if !text.any (fun c => ['"', '$', Char.ofNat 96, '\\', '!'].contains c) then
    "\"" ++ text ++ "\""
  else "'" ++ text.replace "'" "'\\''" ++ "'"

def extended : FormatStyle :=
  { escapes :=
      { octal := true, hexadecimal := true, letterE := true, marks := ['"', '\'', '?']
        wide := true }
    inner :=
      { zeroOctal := true, octal := true, hexadecimal := true, letterE := true, wide := true
        stops := true }
    plain :=
      { zeroOctal := true, hexadecimal := true, letterE := true, wide := true, stops := true }
    requoted := some hidden }

def system : FormatStyle :=
  { escapes :=
      { octal := true, hexadecimal := true, letterE := true, marks := ['"'], wide := true
        stops := true }
    inner :=
      { zeroOctal := true, octal := true, hexadecimal := true, letterE := true, marks := ['"']
        wide := true, stops := true }
    plain :=
      { zeroOctal := true, octal := true, hexadecimal := true, letterE := true, stops := true }
    requoted := some between }

end FormatStyle

end AssociationCheck.Shell
