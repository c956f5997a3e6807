/-
Programs that order, join, cut and replace.

They work on lines, parts of lines, or single characters. Texts are compared byte by byte.
-/

import AssociationCheck.Shell.Formatted
import AssociationCheck.Shell.Pattern
import AssociationCheck.Shell.Tool.Reading

namespace AssociationCheck.Shell.Tool

open Program

/-! ### Sorting -/

structure FieldPlace where
  field : Nat
  char : Nat := 0
  letters : List Char := []
  deriving Repr

structure SortKey where
  start : FieldPlace
  stop : Option FieldPlace
  deriving Repr

def fieldPlace? (text : String) : Option FieldPlace :=
  let digits := text.toList.takeWhile Char.isDigit
  let rest := text.toList.drop digits.length
  let number (digits : List Char) : Nat := (String.ofList digits).toNat?.getD 0
  if digits.isEmpty then none
  else
    match rest with
    | '.' :: more =>
        let char := more.takeWhile Char.isDigit
        some ⟨number digits, number char, more.drop char.length⟩
    | _ => some ⟨number digits, 0, rest⟩

def sortKey? (text : String) : Option SortKey :=
  match text.splitOn "," with
  | [start] => (fieldPlace? start).map (⟨·, none⟩)
  | [start, stop] => do pure ⟨← fieldPlace? start, some (← fieldPlace? stop)⟩
  | _ => none

/-- The fields of a line: between marks, or blanks with what follows them. -/
def fieldsOf (mark : Option Char) (line : String) : List String :=
  match mark with
  | some c => line.splitOn c.toString
  | none =>
      let (fields, current, _) := line.toList.foldl
        (fun (fields, current, inBlanks) c =>
          let blank := c = ' ' || c = '\t'
          if blank && !inBlanks && !current.isEmpty then
            (String.ofList current.reverse :: fields, [c], true)
          else (fields, c :: current, blank))
        (([] : List String), ([] : List Char), true)
      (String.ofList current.reverse :: fields).reverse

def keyText (mark : Option Char) (key : SortKey) (line : String) : String :=
  let fields := fieldsOf mark line
  let joiner := match mark with | some c => c.toString | none => ""
  let skipBlanks (letters : List Char) (text : String) : String :=
    if letters.contains 'b' then
      String.ofList (text.toList.dropWhile (fun c => c = ' ' || c = '\t'))
    else text
  let first := key.start.field - 1
  let cutStart (texts : List String) : List String :=
    match texts with
    | text :: rest =>
        String.ofList ((skipBlanks key.start.letters text).toList.drop (key.start.char - 1)) :: rest
    | [] => []
  match key.stop with
  | none => String.intercalate joiner (cutStart (fields.drop first))
  | some stop =>
      let kept := fields.take stop.field
      let kept :=
        if stop.char = 0 then kept
        else
          match kept.reverse with
          | text :: rest =>
              if kept.length = stop.field then
                (String.ofList (text.toList.take stop.char) :: rest).reverse
              else kept
          | [] => []
      String.intercalate joiner (cutStart (kept.drop first))

/-- The number that a text begins with, as a fraction of a power of ten. -/
def leadingNumber (text : String) : Int :=
  let chars := text.toList.dropWhile (fun c => c = ' ' || c = '\t')
  let (negative, body) :=
    match chars with
    | '-' :: rest => (true, rest)
    | _ => (false, chars)
  let before := body.takeWhile Char.isDigit
  let behind :=
    match body.drop before.length with
    | '.' :: rest => rest.takeWhile Char.isDigit
    | _ => []
  let places := (behind.take 12) ++ List.replicate (12 - behind.length) '0'
  let value : Nat := (before ++ places).foldl (fun value c => 10 * value + (c.toNat - 48)) 0
  if negative then -(value : Int) else value

def orderBy (letters : List Char) (first second : String) : Ordering :=
  let folded (text : String) : String :=
    let text := if letters.contains 'f' then text.map Char.toUpper else text
    let text :=
      if letters.contains 'd' then
        String.ofList (text.toList.filter (fun c => c.isAlphanum || c = ' ' || c = '\t'))
      else text
    if letters.contains 'b' then
      String.ofList (text.toList.dropWhile (fun c => c = ' ' || c = '\t'))
    else text
  let order :=
    if letters.any (fun c => c = 'n' || c = 'g' || c = 'h') then
      compare (leadingNumber first) (leadingNumber second)
    else compare (folded first) (folded second)
  if letters.contains 'r' then order.swap else order

def sortedLines (given : Given) (lines : List String) : List String :=
  let letters :=
    (given.options.map Prod.fst).filter (fun c => !(['k', 't', 'o', 'u', 's'].contains c))
  let keys := (given.options.filterMap (fun (c, value) =>
    if c = 'k' then sortKey? value else none))
  let mark := (given.value? 't').bind (fun text => text.toList.head?)
  let byKey (key : SortKey) (first second : String) : Ordering :=
    let own := key.start.letters ++ (key.stop.map FieldPlace.letters).getD []
    orderBy (if own.isEmpty then letters else own) (keyText mark key first)
      (keyText mark key second)
  let order (first second : String) : Ordering :=
    if keys.isEmpty then orderBy letters first second
    else keys.foldl (fun order key => order.then (byKey key first second)) .eq
  let last (first second : String) : Ordering :=
    if given.has 's' || given.has 'u' then .eq
    else if letters.contains 'r' then (compare first second).swap
    else compare first second
  let sorted := lines.mergeSort (fun first second =>
    ((order first second).then (last first second)) != .gt)
  if given.has 'u' then
    (sorted.foldl
      (fun kept line =>
        match kept with
        | previous :: _ => if order previous line == .eq then kept else line :: kept
        | [] => [line])
      ([] : List String)).reverse
  else sorted

def sort : Program Nat :=
  withOptions { flags := "bdfghinruscmzCV", valued := "kot", words := [("reverse", 'r', false),
    ("numeric-sort", 'n', false), ("unique", 'u', false), ("key", 'k', true),
    ("field-separator", 't', true), ("output", 'o', true), ("stable", 's', false),
    ("ignore-case", 'f', false)] } 2 (fun given => do
    let read ← (inputOr given.operands).foldlM
      (fun texts path => do
        match texts with
        | none => pure none
        | some texts =>
            match ← readPath path with
            | .ok text => pure (some (text :: texts))
            | .error fault => do
                if fault == .isDirectory then report ("read failed: " ++ path ++ ": " ++ fault.text)
                else report ("cannot read: " ++ path ++ ": " ++ fault.text)
                pure none)
      (some ([] : List String))
    match read with
    | none => pure 2
    | some texts => do
        let lines := texts.reverse.flatMap (fun text => (linesOf text).map bareLine)
        let sorted := sortedLines given lines
        if given.has 'c' || given.has 'C' then
          let bad := (lines.zip sorted).find? (fun (line, other) => line != other)
          pure (if bad.isSome then 1 else 0)
        else
          match given.value? 'o' with
          | none => print (textOfLines sorted) 0
          | some path =>
              match ← writePath .write path (textOfLines sorted) with
              | .ok () => pure 0
              | .error fault => do
                  report ("open failed: " ++ path ++ ": " ++ fault.text)
                  pure 2)

/-! ### Repeated lines -/

def runsOf (key : String → String) : List String → List (String × Nat)
  | [] => []
  | line :: rest =>
      match runsOf key rest with
      | (next, count) :: more =>
          if key line == key next then (line, count + 1) :: more
          else (line, 1) :: (next, count) :: more
      | [] => [(line, 1)]

def uniq : Program Nat :=
  withOptions { flags := "cduiDz", valued := "fsw", words := [("count", 'c', false),
    ("repeated", 'd', false), ("unique", 'u', false), ("ignore-case", 'i', false)] } 1
    (fun given => do
    let number (letter : Char) : Nat := ((given.value? letter).bind String.toNat?).getD 0
    let key (line : String) : String :=
      let afterFields := (fieldsOf none line).drop (number 'f')
      let text := String.ofList ((String.join afterFields).toList.drop (number 's'))
      let text :=
        match (given.value? 'w').bind String.toNat? with
        | some count => String.ofList (text.toList.take count)
        | none => text
      if given.has 'i' then text.map Char.toLower else text
    match given.operands with
    | _ :: _ :: extra :: _ => misused ("extra operand " ++ quoted extra) 1
    | operands => do
        match ← readPath (operands.headD "-") with
        | .error fault => do
            if fault == .isDirectory then report ("error reading '" ++ operands.headD "-" ++ "'")
            else unreadable (operands.headD "-") fault
            pure 1
        | .ok text => do
            let runs := runsOf key ((linesOf text).map bareLine)
            let kept := runs.filter (fun (_, count) =>
              !(given.has 'd' && count = 1) && !(given.has 'u' && count > 1))
            let written := textOfLines (kept.map (fun (line, count) =>
              if given.has 'c' then rightAligned 7 (toString count) ++ " " ++ line else line))
            match operands.drop 1 with
            | path :: _ =>
                match ← writePath .write path written with
                | .ok () => pure 0
                | .error fault => do
                    unreadable path fault
                    pure 1
            | [] => print written 0)

def merged : Nat → List String → List String → List (Nat × String)
  | 0, _, _ => []
  | _, [], second => second.map (fun line => (2, line))
  | _, first, [] => first.map (fun line => (1, line))
  | fuel + 1, first :: firstRest, second :: secondRest =>
      if first = second then (3, first) :: merged fuel firstRest secondRest
      else if first < second then (1, first) :: merged fuel firstRest (second :: secondRest)
      else (2, second) :: merged fuel (first :: firstRest) secondRest

def comm : Program Nat :=
  withOptions { flags := "123" } 1 (fun given => do
    match given.operands with
    | [first, second] => do
        match ← readPath first, ← readPath second with
        | .ok one, .ok other => do
            let lines (text : String) : List String := (linesOf text).map bareLine
            let rows := merged (one.length + other.length + 2) (lines one) (lines other)
            let hidden (column : Nat) : Bool := given.has (Char.ofNat (48 + column))
            let shown := rows.filterMap (fun (column, line) =>
              if hidden column then none
              else
                let before := (List.range (column - 1)).filter (fun index => !hidden (index + 1))
                some (String.join (before.map (fun _ => "\t")) ++ line))
            print (textOfLines shown) 0
        | .error fault, _ => do
            unreadable first fault
            pure 1
        | _, .error fault => do
            unreadable second fault
            pure 1
    | [only] => misused ("missing operand after " ++ quoted only) 1
    | [] => misused "missing operand" 1
    | _ :: _ :: extra :: _ => misused ("extra operand " ++ quoted extra) 1)

def paste : Program Nat :=
  withOptions { flags := "s", valued := "d", words := [("delimiters", 'd', true),
    ("serial", 's', false)] } 1 (fun given => do
    let marks := ((given.value? 'd').getD "\t").toList
    let mark (index : Nat) : String :=
      ((marks[index % max 1 marks.length]?).map Char.toString).getD ""
    let joined (items : List String) : String :=
      String.join (items.mapIdx (fun index item =>
        if index = 0 then item else mark (index - 1) ++ item))
    let read ← (inputOr given.operands).foldlM
      (fun texts path => do
        match texts with
        | none => pure none
        | some texts =>
            match ← readPath path with
            | .ok text => pure (some (((linesOf text).map bareLine) :: texts))
            | .error fault => do
                unreadable path fault
                pure none)
      (some ([] : List (List String)))
    match read with
    | none => pure 1
    | some texts =>
        let texts := texts.reverse
        if given.has 's' then print (textOfLines (texts.map joined)) 0
        else
          let count := (texts.map List.length).foldl max 0
          print (textOfLines ((List.range count).map (fun index =>
            joined (texts.map (fun lines => lines[index]?.getD ""))))) 0)

/-! ### Parts of lines -/

/-- Ranges of numbers from one on; one without an end goes on for ever. -/
def rangesOf? (text : String) : Option (List (Nat × Option Nat)) :=
  ((text.splitOn ",").flatMap (·.splitOn " ")).mapM (fun part =>
    match part.splitOn "-" with
    | [single] => (single.toNat?).bind (fun value =>
        if value = 0 then none else some (value, some value))
    | [first, last] =>
        let first? := if first.isEmpty then some 1 else first.toNat?
        match first?, last.isEmpty with
        | some value, true => if first.isEmpty || value = 0 then none else some (value, none)
        | some value, false => (last.toNat?).bind (fun last =>
            if value = 0 || last < value then none else some (value, some last))
        | none, _ => none
    | _ => none)

def inRanges (ranges : List (Nat × Option Nat)) (place : Nat) : Bool :=
  ranges.any (fun (first, last) => first ≤ place && last.all (place ≤ ·))

/-- The items at places that are in the ranges, or are not. -/
def selected {α : Type} (ranges : List (Nat × Option Nat)) (complement : Bool) (items : List α) :
    List α :=
  (items.mapIdx (fun index item => (index + 1, item))).filterMap (fun (place, item) =>
    if inRanges ranges place != complement then some item else none)

def cutLine (given : Given) (ranges : List (Nat × Option Nat)) (line : String) : Option String :=
  let complement := given.has 'C'
  if given.has 'f' then
    let mark := (given.value? 'd').getD "\t"
    let fields := line.splitOn mark
    if fields.length = 1 then (if given.has 's' then none else some line)
    else
      let joint := (given.value? 'O').getD mark
      some (String.intercalate joint (selected ranges complement fields))
  else some (String.ofList (selected ranges complement line.toList))

def cut : Program Nat :=
  withOptions { flags := "sn", valued := "dfcb", words := [("delimiter", 'd', true),
    ("fields", 'f', true), ("characters", 'c', true), ("bytes", 'b', true),
    ("only-delimited", 's', false), ("output-delimiter", 'O', true),
    ("complement", 'C', false)] } 1 (fun given => do
    let lists := given.options.filter (fun (c, _) => ['f', 'c', 'b'].contains c)
    match lists with
    | [] => misused "you must specify a list of bytes, characters, or fields" 1
    | _ :: _ :: _ => misused "only one list may be specified" 1
    | [(letter, list)] =>
        if ((given.value? 'd').getD "x").length ≠ 1 then
          misused "the delimiter must be a single character" 1
        else if letter ≠ 'f' && given.has 'd' then
          misused "an input delimiter may be specified only when operating on fields" 1
        else
          match rangesOf? list with
          | none =>
              misused ((if letter = 'f' then "invalid field value " else
                "invalid byte/character position ") ++ quoted list) 1
          | some ranges =>
              eachText (inputOr given.operands) unreadable (fun _ text => do
                let lines :=
                  (linesOf text).filterMap (fun line => cutLine given ranges (bareLine line))
                let _ ← writeTo 1 (textOfLines lines)
                pure ()))

/-! ### Characters -/

def classChars (name : String) : List Char :=
  ((List.range 256).map Char.ofNat).filter (isInClass name)

/-- A character that a set writes, perhaps with a backslash, and what follows it. -/
def setChar : List Char → Option (Char × List Char)
  | [] => none
  | '\\' :: rest =>
      match ({ octal := true } : Escapes).after rest with
      | .chars [c] rest => some (c, rest)
      | _ =>
          match rest with
          | c :: rest => some (c, rest)
          | [] => some ('\\', [])
  | c :: rest => some (c, rest)

/-- The characters of a set: ranges, classes and repeated characters are written out; what fills
a set up to a size is told by that size. -/
def setChars (size : Nat) : Nat → List Char → List Char
  | 0, _ => []
  | _, [] => []
  | fuel + 1, '[' :: ':' :: rest =>
      let name := rest.takeWhile Char.isAlpha
      match rest.drop name.length with
      | ':' :: ']' :: after => classChars (String.ofList name) ++ setChars size fuel after
      | _ => '[' :: setChars size fuel (':' :: rest)
  | fuel + 1, '[' :: c :: '*' :: rest =>
      let digits := rest.takeWhile Char.isDigit
      match rest.drop digits.length with
      | ']' :: after =>
          let others := setChars size fuel after
          let count :=
            if digits.isEmpty then size - others.length
            else
              let base := if digits.head? == some '0' then 8 else 10
              digits.foldl (fun value c => base * value + (c.toNat - 48)) 0
          List.replicate count c ++ others
      | _ => '[' :: setChars size fuel (c :: '*' :: rest)
  | fuel + 1, chars =>
      match setChar chars with
      | none => []
      | some (first, '-' :: more) =>
          match more, setChar more with
          | _ :: _, some (last, rest) =>
              if first ≤ last then
                ((List.range (last.toNat - first.toNat + 1)).map (fun index =>
                  Char.ofNat (first.toNat + index))) ++ setChars size fuel rest
              else setChars size fuel rest
          | _, _ => first :: setChars size fuel ('-' :: more)
      | some (first, rest) => first :: setChars size fuel rest

/-- What a character is replaced by: the one at its last place in the set. -/
def translated (from? into : List Char) (c : Char) : Char :=
  match ((from?.zip into).reverse).lookup c with
  | some d => d
  | none => c

/-- The characters with only one of each run of a character of the set. -/
def squeezed (set : List Char) : List Char → Option Char → List Char
  | [], _ => []
  | c :: rest, previous =>
      if previous == some c && set.contains c then squeezed set rest previous
      else c :: squeezed set rest (some c)

def tr : Program Nat :=
  withOptions { flags := "cCdst", first := true, words := [("delete", 'd', false),
    ("squeeze-repeats", 's', false), ("complement", 'c', false)] } 1 (fun given => do
    let deletes := given.has 'd'
    let squeezes := given.has 's'
    match given.operands with
    | [] => misused "missing operand" 1
    | first :: others =>
        if others.isEmpty && !deletes && !squeezes then do
          report ("missing operand after " ++ quoted first)
          complain "Two strings must be given when translating.\n"
          tryHelp
          pure 1
        else if !others.isEmpty && deletes && !squeezes then do
          report ("extra operand " ++ quoted (others.headD ""))
          complain "Only one string may be given when deleting without squeezing repeats.\n"
          tryHelp
          pure 1
        else if others.length > 1 then
          misused ("extra operand " ++ quoted (others[1]?.getD "")) 1
        else
          let plain := setChars 0 (first.length + 1) first.toList
          let set :=
            if given.has 'c' || given.has 'C' then
              ((List.range 256).map Char.ofNat).filter (fun c => !plain.contains c)
            else plain
          let second := (others.head?.map (fun text =>
            setChars set.length (text.length + 1) text.toList)).getD []
          match ← readInput with
          | .error fault => do
              report ("read error: " ++ fault.text)
              pure 1
          | .ok text =>
              let chars := text.toList
              let changed :=
                if deletes then
                  let kept := chars.filter (fun c => !set.contains c)
                  if squeezes then squeezed second kept none else kept
                else if others.isEmpty then squeezed set chars none
                else
                  let filled := second ++ List.replicate (set.length - second.length)
                    (second.getLastD ' ')
                  let mapped := chars.map (translated set filled)
                  if squeezes then squeezed second mapped none else mapped
              print (String.ofList changed) 0)

end AssociationCheck.Shell.Tool
