/-
Programs that give texts another shape.

They break lines that are too long, put blanks in the place of tabs and tabs in the place of
blanks, write bytes as letters and back, and show bytes as numbers.
-/

import AssociationCheck.Power
import AssociationCheck.Shell.Tool.Reading

namespace AssociationCheck.Shell

namespace Tool

open Program

/-! ### Columns -/

def columnAfter (column : Nat) (c : Char) : Nat :=
  if c = '\t' then column + (8 - column % 8)
  else if c = '\r' then 0
  else if c = Char.ofNat 8 then column - 1
  else column + 1

def columnsOf (chars : List Char) : Nat := chars.foldl columnAfter 0

/-- A line broken before characters that would stand too far to the right. The characters of the
part that is being filled come last first; a part may be broken behind its last blank. -/
def folded (width : Nat) (advance : Nat → Char → Nat) (atBlanks : Bool) :
    List Char → List Char → List (List Char)
  | [], current => [current.reverse]
  | c :: rest, current =>
      let column := current.reverse.foldl advance 0
      if advance column c > width && !current.isEmpty then
        let isBlank (c : Char) : Bool := c = ' ' || c = '\t'
        let behind := current.takeWhile (fun c => !isBlank c)
        let before := current.drop behind.length
        if atBlanks && !before.isEmpty then
          before.reverse :: folded width advance atBlanks rest (c :: behind)
        else current.reverse :: folded width advance atBlanks rest [c]
      else folded width advance atBlanks rest (c :: current)

def positive? (text : String) : Option Nat := text.toNat?.filter (0 < ·)

def fold : Program Nat :=
  withOptions { flags := "bs", valued := "w", words := [("width", 'w', true),
    ("bytes", 'b', false), ("spaces", 's', false)] } 1 (fun given => do
    let width := (given.value? 'w').getD "80"
    match positive? width with
    | none => do
        report ("invalid number of columns: " ++ quoted width ++
          (if width.toNat? == some 0 then ": Numerical result out of range" else ""))
        pure 1
    | some width =>
        let advance := if given.has 'b' then fun column _ => column + 1 else columnAfter
        eachText (inputOr given.operands) unreadable (fun _ text => do
          let lines := (linesOf text).map (fun line =>
            let parts := folded width advance (given.has 's') (bareLine line).toList []
            String.intercalate "\n" (parts.map String.ofList) ++
              (if line.endsWith "\n" then "\n" else ""))
          let _ ← writeTo 1 (String.join lines)
          pure ()))

/-- Where tabs lead to: every so many columns, or some columns and from there on every single
one. -/
def stopAfter (stops : List Nat) (column : Nat) : Nat :=
  match stops with
  | [every] => column + (every - column % every)
  | stops => (stops.find? (column < ·)).getD (column + 1)

def stopsOf (given : Given) : List Nat :=
  let listed := (given.value? 't').map (fun text =>
    (text.toList.splitBy (fun first second => first.isDigit == second.isDigit)).filterMap
      (fun chars => positive? (String.ofList chars)))
  match listed with
  | some (stop :: stops) => stop :: stops
  | _ => [8]

/-- A line with blanks in the place of tabs, or only of those at its start. -/
def expanded (stops : List Nat) (initial : Bool) : List Char → Nat → Bool → List Char
  | [], _, _ => []
  | c :: rest, column, started =>
      if c = '\t' && !(initial && started) then
        let next := stopAfter stops column
        List.replicate (next - column) ' ' ++ expanded stops initial rest next started
      else
        let column := if c = Char.ofNat 8 then column - 1 else column + 1
        c :: expanded stops initial rest column (started || c ≠ ' ')

def tabOptions : Options :=
  { flags := "ia", valued := "t", words := [("tabs", 't', true), ("initial", 'i', false),
    ("all", 'a', false), ("first-only", 'f', false)] }

def eachLine (given : Given) (change : String → String) : Program Nat :=
  eachText (inputOr given.operands) unreadable (fun _ text => do
    let _ ← writeTo 1 (String.join ((linesOf text).map (fun line =>
      change (bareLine line) ++ (if line.endsWith "\n" then "\n" else ""))))
    pure ())

def expand : Program Nat :=
  withOptions tabOptions 1 (fun given =>
    eachLine given (fun line =>
      String.ofList (expanded (stopsOf given) (given.has 'i') line.toList 0 false)))

/-- A line with tabs in the place of blanks that lead to a stop. The blanks that have been read
are counted from a column on. -/
def unexpanded (stops : List Nat) (initial : Bool) : List Char → Nat → Nat → Bool → List Char
  | [], column, start, _ => List.replicate (column - start) ' '
  | c :: rest, column, start, started =>
      let kept := List.replicate (column - start) ' '
      if initial && started then kept ++ c :: rest
      else if c = '\t' then '\t' :: unexpanded stops initial rest (stopAfter stops column)
        (stopAfter stops column) started
      else if c = ' ' then
        let isAtStop := stopAfter stops column = column + 1
        let alone := column = start && rest.head? != some ' ' && started
        if isAtStop && !alone then
          '\t' :: unexpanded stops initial rest (column + 1) (column + 1) started
        else unexpanded stops initial rest (column + 1) start started
      else kept ++ c :: unexpanded stops initial rest (column + 1) (column + 1) true

def unexpand : Program Nat :=
  withOptions tabOptions 1 (fun given =>
    let initial := given.has 'f' || !(given.has 'a' || given.has 't')
    eachLine given (fun line =>
      String.ofList (unexpanded (stopsOf given) initial line.toList 0 0 false)))

/-! ### Bytes as letters -/

def letters64 : List Char :=
  "ABCDEFGHIJKLMNOPQRSTUVWXYZabcdefghijklmnopqrstuvwxyz0123456789+/".toList

/-- Three bytes as four letters; missing bytes leave marks at the end. -/
def lettersOf (bytes : List Nat) : List Char :=
  let filled := bytes ++ List.replicate (3 - bytes.length) 0
  let value := filled.foldl (fun value b => 256 * value + b) 0
  let digits := [value / 262144, value / 4096 % 64, value / 64 % 64, value % 64]
  let chars := (digits.map (fun digit => letters64[digit]?.getD '=')).take (bytes.length + 1)
  chars ++ List.replicate (4 - chars.length) '='

def encoded64 (text : String) : String :=
  let bytes := text.toList.map Char.toNat
  String.ofList ((inParts 3 (bytes.length + 1) bytes).flatMap lettersOf)

/-- The bytes of four letters, and whether these are as they should be. -/
def bytesOf (chars : List Char) : List Char × Bool :=
  let meant := chars.takeWhile letters64.contains
  let digits := meant.filterMap (fun c => letters64.idxOf? c)
  let value := (digits ++ List.replicate (4 - digits.length) 0).foldl
    (fun value digit => 64 * value + digit) 0
  let bytes := [value / 65536, value / 256 % 256, value % 256]
  let whole := chars.length = 4 && meant.length ≥ 2 && (chars.drop meant.length).all (· = '=')
  ((bytes.take (meant.length - 1)).map Char.ofNat, whole)

/-- The bytes that letters stand for, up to a group that is not as it should be. -/
def decoded64 : List (List Char) → List Char × Bool
  | [] => ([], true)
  | group :: rest =>
      let (bytes, whole) := bytesOf group
      if whole then
        let (more, whole) := decoded64 rest
        (bytes ++ more, whole)
      else (bytes, false)

/-- Lines of at most so many characters; zero stands for a single line without an end. -/
def wrapped (width : Nat) (text : String) : String :=
  if width = 0 then text
  else
    textOfLines ((inParts width (text.length + 1) text.toList).map String.ofList)

def base64 : Program Nat :=
  withOptions { flags := "di", valued := "w", words := [("decode", 'd', false),
    ("ignore-garbage", 'i', false), ("wrap", 'w', true)] } 1 (fun given => do
    let width := (given.value? 'w').getD "76"
    match given.operands, width.toNat? with
    | _ :: extra :: _, _ => misused ("extra operand " ++ quoted extra) 1
    | _, none => do
        report ("invalid wrap size: " ++ quoted width)
        pure 1
    | operands, some width => do
        let path := operands.headD "-"
        match ← readPath path with
        | .error fault => do
            unreadable path fault
            pure 1
        | .ok text =>
            if given.has 'd' then do
              let kept := text.toList.filter (fun c =>
                c ≠ '\n' && (!given.has 'i' || letters64.contains c || c = '='))
              let (bytes, whole) := decoded64 (inParts 4 (kept.length + 1) kept)
              let status ← print (String.ofList bytes) 0
              if whole then pure status
              else do
                report "invalid input"
                pure 1
            else print (wrapped width (encoded64 text)) 0)

/-! ### Bytes as numbers -/

/-- How bytes are shown: how many make a number, how wide it is, and how it is written. -/
structure ByteFormat where
  size : Nat
  width : Nat
  write : Nat → String

def inBase (base width value : Nat) : String :=
  let digits := Nat.toDigits base value
  String.ofList (List.replicate (width - digits.length) '0' ++ digits)

def characterText (value : Nat) : String :=
  match [(0, "\\0"), (7, "\\a"), (8, "\\b"), (9, "\\t"), (10, "\\n"), (11, "\\v"), (12, "\\f"),
      (13, "\\r")].lookup value with
  | some text => text
  | none => if 32 ≤ value && value < 127 then (Char.ofNat value).toString else inBase 8 3 value

def byteNames : List String :=
  ["nul", "soh", "stx", "etx", "eot", "enq", "ack", "bel", "bs", "ht", "nl", "vt", "ff", "cr", "so",
    "si", "dle", "dc1", "dc2", "dc3", "dc4", "nak", "syn", "etb", "can", "em", "sub", "esc", "fs",
    "gs", "rs", "us", "sp"]

def byteName (value : Nat) : String :=
  let value := value % 128
  if value = 127 then "del" else byteNames[value]?.getD (Char.ofNat value).toString

def signedText (size value : Nat) : String :=
  if value < twoTo (8 * size - 1) then toString value
  else "-" ++ toString (twoTo (8 * size) - value)

def widthIn (base size : Nat) : Nat := (Nat.toDigits base (twoTo (8 * size) - 1)).length

def byteFormat? (text : String) : Option ByteFormat :=
  match text.toList with
  | ['a'] => some ⟨1, 3, byteName⟩
  | ['c'] => some ⟨1, 3, characterText⟩
  | kind :: size =>
      let size? : Option Nat :=
        match String.ofList size with
        | "" => some 4
        | "C" => some 1
        | "S" => some 2
        | "I" => some 4
        | "L" => some 8
        | digits => digits.toNat?.filter [1, 2, 4, 8].contains
      size?.bind (fun size =>
        match kind with
        | 'x' => some ⟨size, 2 * size, inBase 16 (2 * size)⟩
        | 'o' => some ⟨size, widthIn 8 size, inBase 8 (widthIn 8 size)⟩
        | 'u' => some ⟨size, widthIn 10 size, fun value => toString value⟩
        | 'd' => some ⟨size, widthIn 10 size + (if size = 8 then 0 else 1), signedText size⟩
        | _ => none)
  | [] => none

def formatted (format : ByteFormat) (bytes : List Nat) : String :=
  String.join ((inParts format.size (bytes.length + 1) bytes).map (fun part =>
    let value := part.reverse.foldl (fun value b => 256 * value + b) 0
    " " ++ rightAligned format.width (format.write value)))

/-- Lines of numbers with their places; lines that repeat the one before become a star. -/
def dumped (address : Nat → String) (formats : List ByteFormat) (all : Bool) :
    List (List Nat) → Nat → Option (List Nat) → Bool → List String
  | [], place, _, _ => if (address place).isEmpty then [] else [address place]
  | bytes :: rest, place, last, starred =>
      let next := place + bytes.length
      if !all && last == some bytes && !rest.isEmpty then
        if starred then dumped address formats all rest next last true
        else "*" :: dumped address formats all rest next last true
      else
        let texts := formats.map (fun format => formatted format bytes)
        let blank := String.ofList ((address place).toList.map (fun _ => ' '))
        let lines := texts.mapIdx (fun number text =>
          (if number = 0 then address place else blank) ++ text)
        lines ++ dumped address formats all rest next (some bytes) false

def usualFormats : List (Char × String) :=
  [('a', "a"), ('b', "o1"), ('c', "c"), ('d', "u2"), ('o', "o2"), ('s', "d2"), ('x', "x2"),
    ('i', "d4"), ('l', "d8")]

def od : Program Nat :=
  withOptions { flags := "abcdosxilv", valued := "AtNjw", words := [("format", 't', true),
    ("address-radix", 'A', true), ("output-duplicates", 'v', false), ("read-bytes", 'N', true),
    ("skip-bytes", 'j', true), ("width", 'w', true)] } 1 (fun given => do
    let words := given.options.filterMap (fun (letter, value) =>
      if letter = 't' then some value else usualFormats.lookup letter)
    let words := if words.isEmpty then ["o2"] else words
    match words.find? (fun word => (byteFormat? word).isNone) with
    | some word => do
        report ("invalid character '" ++ String.ofList (word.toList.take 1) ++
          "' in type string " ++ quoted word)
        pure 1
    | none => do
        let (texts, status) ← (inputOr given.operands).foldlM
          (fun (texts, status) path => do
            match ← readPath path with
            | .ok text => pure (text :: texts, status)
            | .error fault => do
                unreadable path fault
                pure (texts, 1))
          (([] : List String), 0)
        let bytes := (String.join texts.reverse).toList.map Char.toNat
        let skipped := ((given.value? 'j').bind sizedNumber?).getD 0
        let bytes := bytes.drop skipped
        let bytes :=
          match (given.value? 'N').bind sizedNumber? with
          | some count => bytes.take count
          | none => bytes
        let width := max 1 (((given.value? 'w').bind String.toNat?).getD 16)
        let address (place : Nat) : String :=
          match given.value? 'A' with
          | some "n" => ""
          | some "d" => inBase 10 7 place
          | some "x" => inBase 16 6 place
          | _ => inBase 8 7 place
        let lines := dumped address (words.filterMap byteFormat?) (given.has 'v')
          (inParts width (bytes.length + 1) bytes) skipped none false
        print (if texts.isEmpty then "" else textOfLines lines) status)

end Tool

end AssociationCheck.Shell
