/-
Programs that show what they read.

They take paths, or the input if there are none, and write all of it, its beginning, its end, or
how much there is.
-/

import AssociationCheck.Shell.Program

namespace AssociationCheck.Shell.Tool

open Program

def inputOr (paths : List String) : List String := if paths.isEmpty then ["-"] else paths

def rightAligned (width : Nat) (text : String) : String :=
  String.ofList (List.replicate (width - text.length) ' ') ++ text

/-! ### Whole texts -/

structure Marks where
  numbers : Bool
  nonEmptyOnly : Bool
  squeezed : Bool
  ends : Bool
  tabs : Bool

/-- The lines of a text with marks; the number of the next line and whether the last one was empty
are carried along. -/
def marked (marks : Marks) : List String → Nat → Bool → List String
  | [], _, _ => []
  | line :: rest, number, afterEmpty =>
      let body := bareLine line
      if marks.squeezed && afterEmpty && body.isEmpty then marked marks rest number true
      else
        let numbered := marks.numbers && !(marks.nonEmptyOnly && body.isEmpty)
        let text := if marks.tabs then body.replace "\t" "^I" else body
        let text := if numbered then rightAligned 6 (toString number) ++ "\t" ++ text else text
        let ended := if line.endsWith "\n" then (if marks.ends then "$\n" else "\n") else ""
        (text ++ ended) ::
          marked marks rest (if numbered then number + 1 else number) body.isEmpty

def cat : Program Nat :=
  withOptions { flags := "nbsEeTtAvu", words := [("number", 'n', false),
    ("number-nonblank", 'b', false), ("squeeze-blank", 's', false), ("show-ends", 'E', false),
    ("show-tabs", 'T', false), ("show-all", 'A', false)] } 1 (fun given => do
    let marks : Marks :=
      { numbers := given.has 'n' || given.has 'b'
        nonEmptyOnly := given.has 'b'
        squeezed := given.has 's'
        ends := given.has 'E' || given.has 'e' || given.has 'A'
        tabs := given.has 'T' || given.has 't' || given.has 'A' }
    let plain := !(marks.numbers || marks.squeezed || marks.ends || marks.tabs)
    let (texts, status) ← (inputOr given.operands).foldlM
      (fun (texts, status) path => do
        match ← readPath path with
        | .ok text => do
            if plain then
              let _ ← writeTo 1 text
            pure (text :: texts, status)
        | .error fault => do
            unreadable path fault
            if fault == .badDescriptor then report ("closing standard input: " ++ fault.text)
            pure (texts, 1))
      (([] : List String), 0)
    if plain then print "" status
    else print (String.join (marked marks (linesOf (String.join texts.reverse)) 1 false)) status)

def tac : Program Nat :=
  withOptions {} 1 (fun given =>
    eachText (inputOr given.operands)
      (fun path fault => report ("failed to open '" ++ path ++ "' for reading: " ++ fault.text))
      (fun _ text => do
        let _ ← writeTo 1 (String.join (linesOf text).reverse)
        pure ()))

def nl : Program Nat :=
  withOptions { valued := "bwsvi" } 1 (fun given => do
    let all := given.value? 'b' == some "a"
    let width := ((given.value? 'w').bind String.toNat?).getD 6
    let mark := (given.value? 's').getD "\t"
    let (texts, status) ← (inputOr given.operands).foldlM
      (fun (texts, status) path => do
        match ← readPath path with
        | .ok text => pure (texts ++ text, status)
        | .error fault => do
            unreadable path fault
            pure (texts, 1))
      ("", 0)
    let (lines, _) := (linesOf texts).foldl
      (fun (lines, number) line =>
        if all || !(bareLine line).isEmpty then
          ((rightAligned width (toString number) ++ mark ++ bareLine line ++ "\n") :: lines,
            number + 1)
        else
          ((rightAligned (width + mark.length) "" ++ "\n") :: lines, number))
      (([] : List String), 1)
    print (String.join lines.reverse) status)

def tee : Program Nat :=
  withOptions { flags := "aip", words := [("append", 'a', false)] } 1 (fun given => do
    match ← readInput with
    | .error fault => do
        report ("read error: " ++ fault.text)
        pure 1
    | .ok text => do
        let opening : Opening := if given.has 'a' then .append else .write
        let _ ← writeTo 1 text
        given.operands.foldlM
          (fun status path => do
            match ← writePath opening path text with
            | .ok () => pure status
            | .error fault => do
                unreadable path fault
                pure 1)
          0)

/-! ### Beginnings and ends -/

structure Amount where
  bytes : Bool
  /-- Whether the amount is counted from the other end. -/
  fromOther : Bool
  count : Nat

def sizedNumber? (text : String) : Option Nat :=
  let digits := text.toList.takeWhile Char.isDigit
  if digits.isEmpty then none
  else
    let value := digits.foldl (fun value c => 10 * value + (c.toNat - 48)) 0
    match String.ofList (text.toList.drop digits.length) with
    | "" => some value
    | "b" => some (value * 512)
    | "k" => some (value * 1024)
    | "K" => some (value * 1024)
    | "kB" => some (value * 1000)
    | "M" => some (value * 1048576)
    | _ => none

/-- Old arguments that are a number behind a dash. -/
def modernised (arguments : List String) : List String :=
  match arguments with
  | first :: rest =>
      match first.toList with
      | '-' :: d :: more =>
          if d.isDigit then "-n" :: String.ofList (d :: more) :: rest else arguments
      | _ => arguments
  | [] => []

/-- The amount that is asked for; the mark is the sign that counts from the other end. -/
def amountOf (given : Given) (mark : Char) : Except String Amount :=
  match given.options.reverse.find? (fun (c, _) => c = 'n' || c = 'c') with
  | none => .ok ⟨false, false, 10⟩
  | some (letter, value) =>
      let fromOther := value.toList.head? == some mark
      let unsigned := (value.toList.head? == some '-' || value.toList.head? == some '+')
      let body := if unsigned then String.ofList (value.toList.drop 1) else value
      match sizedNumber? body with
      | some count => .ok ⟨letter = 'c', fromOther, count⟩
      | none =>
          .error ("invalid number of " ++ (if letter = 'c' then "bytes" else "lines") ++ ": '" ++
            (if fromOther then body else value) ++ "'")

/-- The shown part of a text and what remains behind it. -/
def beginning (amount : Amount) (text : String) : String × String :=
  let units := if amount.bytes then text.toList.map Char.toString else linesOf text
  let count := if amount.fromOther then units.length - amount.count else amount.count
  (String.join (units.take count), String.join (units.drop count))

def ending (amount : Amount) (text : String) : String :=
  let units := if amount.bytes then text.toList.map Char.toString else linesOf text
  let skipped := if amount.fromOther then amount.count - 1 else units.length - amount.count
  String.join (units.drop skipped)

def showParts (given : Given) (shown : String → String × String) : Program Nat := do
  let paths := inputOr given.operands
  let titled := (paths.length > 1 && !given.has 'q') || given.has 'v'
  let (status, _) ← paths.foldlM
    (fun (status, first) path => do
      match ← readPath path with
      | .ok text => do
          let (part, rest) := shown text
          if path = "-" then
            match (← read).descriptors.lookup 0 with
            | some channel => Machine.giveBack channel rest false
            | none => pure ()
          let title :=
            if titled then
              (if first then "" else "\n") ++ "==> " ++
                (if path = "-" then "standard input" else path) ++ " <==\n"
            else ""
          let _ ← writeTo 1 (title ++ part)
          pure (status, false)
      | .error fault => do
          let name := if path = "-" then "standard input" else path
          if fault == .isDirectory then
            if titled then
              let _ ← writeTo 1 ((if first then "" else "\n") ++ "==> " ++ name ++ " <==\n")
            report ("error reading '" ++ name ++ "': " ++ fault.text)
            pure (1, first && !titled)
          else
            report ("cannot open '" ++ name ++ "' for reading: " ++ fault.text)
            pure (1, first))
    (0, true)
  pure status

def partOptions : Options :=
  { flags := "qvfFz", valued := "nc", words := [("lines", 'n', true), ("bytes", 'c', true),
    ("quiet", 'q', false), ("silent", 'q', false), ("verbose", 'v', false),
    ("follow", 'f', false)] }

def withModernised (body : Program Nat) : Program Nat :=
  fun surroundings =>
    body { surroundings with arguments := modernised surroundings.arguments }

def head : Program Nat :=
  withModernised (withOptions partOptions 1 (fun given => do
    match amountOf given '-' with
    | .error text => do
        report text
        pure 1
    | .ok amount => showParts given (beginning amount)))

def tail : Program Nat :=
  withModernised (withOptions partOptions 1 (fun given => do
    match amountOf given '+' with
    | .error text => do
        report text
        pure 1
    | .ok amount => showParts given (fun text => (ending amount text, ""))))

/-! ### Counts -/

structure Counts where
  lines : Nat := 0
  words : Nat := 0
  bytes : Nat := 0
  longest : Nat := 0

def Counts.add (first second : Counts) : Counts :=
  ⟨first.lines + second.lines, first.words + second.words, first.bytes + second.bytes,
    max first.longest second.longest⟩

def isSpaceByte (c : Char) : Bool := c = ' ' || (9 ≤ c.toNat && c.toNat ≤ 13)

def Counts.ofText (text : String) : Counts :=
  let chars := text.toList
  let (words, _) := chars.foldl
    (fun (words, inside) c =>
      if isSpaceByte c then (words, false) else (if inside then words else words + 1, true))
    (0, false)
  { lines := (chars.filter (· = '\n')).length
    words := words
    bytes := chars.length
    longest := ((linesOf text).map (fun line => (bareLine line).length)).foldl max 0 }

def wc : Program Nat :=
  withOptions { flags := "lwcmL", words := [("lines", 'l', false), ("words", 'w', false),
    ("bytes", 'c', false), ("chars", 'm', false), ("max-line-length", 'L', false)] } 1
    (fun given => do
    let letters := ['l', 'w', 'm', 'c', 'L'].filter given.has
    let letters := if letters.isEmpty then ['l', 'w', 'c'] else letters
    let paths := inputOr given.operands
    let surroundings ← read
    let files := (← getThe Machine).files
    let channels := (← getThe Machine).channels
    /- The size of a file, and nothing for what is no file. -/
    let sizes := paths.map (fun path =>
      if path = "-" then
        match (surroundings.descriptors.lookup 0).bind (channels[·]?) with
        | some (.file location _ _) =>
            some ((files.at? location).map (fun entry => entry.bytes.length))
        | _ => some none
      else
        match files.entry (Machine.absolute surroundings.directory path) with
        | .ok (_, .file file) => some (some file.bytes.length)
        | .ok _ => some none
        | .error _ => none)
    let width :=
      if paths.length = 1 && letters.length = 1 then 1
      else if sizes.head? == some none then 1
      else
        let total := (sizes.filterMap (fun size => size.bind id)).foldl (· + ·) 0
        max (toString total).length (if sizes.contains (some none) then 7 else 1)
    let shown (counts : Counts) (name : Option String) : String :=
      let count (letter : Char) : Nat :=
        match letter with
        | 'l' => counts.lines
        | 'w' => counts.words
        | 'L' => counts.longest
        | _ => counts.bytes
      String.intercalate " "
        (letters.map (fun letter => rightAligned width (toString (count letter)))) ++
        (match name with
          | some name => " " ++ name
          | none => "") ++ "\n"
    let (total, lines, status) ← paths.foldlM
      (fun (total, lines, status) path => do
        let name := if given.operands.isEmpty then none else some path
        match ← readPath path with
        | .ok text =>
            let counts := Counts.ofText text
            pure (Counts.add total counts, shown counts name :: lines, status)
        | .error fault => do
            report ((if path = "-" then "'standard input'" else path) ++ ": " ++ fault.text)
            pure (total, if fault == .isDirectory then shown {} name :: lines else lines, 1))
      (({} : Counts), ([] : List String), 0)
    let lines := if paths.length > 1 then shown total (some "total") :: lines else lines
    print (String.join lines.reverse) status)

end AssociationCheck.Shell.Tool
