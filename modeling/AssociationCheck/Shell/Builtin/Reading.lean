/-
Commands that take values from the input or from the arguments of a script.
-/

import AssociationCheck.Shell.Builtin.Variables

namespace AssociationCheck.Shell

namespace Execution

/-- A line up to an ending, whether it has one, and what follows it. A backslash hides what follows
it, and joins lines. -/
def lineIn (raw : Bool) (ending : Char) : Nat → List Char → List Glyph × Bool × List Char
  | 0, rest => ([], false, rest)
  | _, [] => ([], false, [])
  | fuel + 1, '\\' :: c :: rest =>
      if raw then
        let (glyphs, ended, rest) := lineIn raw ending fuel (c :: rest)
        (.char '\\' false true :: glyphs, ended, rest)
      else if c = '\n' then lineIn raw ending fuel rest
      else
        let (glyphs, ended, rest) := lineIn raw ending fuel rest
        (.char c true false :: glyphs, ended, rest)
  | fuel + 1, c :: rest =>
      if c = ending then ([], true, rest)
      else
        let (glyphs, ended, rest) := lineIn raw ending fuel rest
        if c = '\\' && !raw then (glyphs, ended, rest)
        else (.char c false true :: glyphs, ended, rest)

def separates (separators : String) (glyph : Glyph) : Bool :=
  match glyph with
  | .char c false _ => separators.toList.contains c
  | _ => false

def isBlankGlyph (separators : String) (glyph : Glyph) : Bool :=
  separates separators glyph &&
    (match glyph with
      | .char c _ _ => c = ' ' || c = '\t' || c = '\n'
      | _ => false)

/-- The values for so many names: all but the last one get a word each. -/
def valuesFor (separators : String) : Nat → List Glyph → List String
  | 0, _ => []
  | 1, glyphs =>
      let glyphs := glyphs.dropWhile (isBlankGlyph separators)
      let trimmed := (glyphs.reverse.dropWhile (isBlankGlyph separators)).reverse
      let trimmed :=
        match trimmed.reverse with
        | last :: before =>
            if separates separators last && !before.any (separates separators) then before.reverse
            else trimmed
        | [] => []
      [glyphText trimmed]
  | count + 2, glyphs =>
      let glyphs := glyphs.dropWhile (isBlankGlyph separators)
      let word := glyphs.takeWhile (fun glyph => !separates separators glyph)
      let rest := glyphs.drop word.length
      let rest := rest.dropWhile (isBlankGlyph separators)
      let blanks := (glyphs.drop word.length).length - rest.length
      let rest :=
        match rest with
        | glyph :: more =>
            if separates separators glyph && (blanks = 0 || !isBlankGlyph separators glyph) then
              more
            else rest
        | [] => []
      glyphText word :: valuesFor separators (count + 1) rest

/-- How a command takes a line: what ends it, how long it may be, and where it comes from and goes
to. -/
structure LineOptions where
  raw : Bool := false
  /-- The name that the words are given to as a row. -/
  row : Option String := none
  ending : Char := '\n'
  greatest : Option Nat := none
  descriptor : Nat := 0

def lineOptions (known valued : String) :
    Nat → List String → LineOptions → Execution (LineOptions × List String)
  | 0, arguments, options => pure (options, arguments)
  | _, [], options => pure (options, [])
  | fuel + 1, argument :: rest, options => do
      match argument.toList with
      | '-' :: c :: letters =>
          if argument = "--" then pure (options, rest)
          else if valued.toList.contains c then
            let attached := !letters.isEmpty
            let value := if attached then String.ofList letters else rest.headD ""
            lineOptions known valued fuel (if attached then rest else rest.drop 1)
              (match c with
                | 'a' => { options with row := some value }
                | 'd' => { options with ending := value.toList.headD (Char.ofNat 0) }
                | 'n' => { options with greatest := value.toNat? }
                | 'N' => { options with greatest := value.toNat?, ending := Char.ofNat 0 }
                | 'u' => { options with descriptor := value.toNat?.getD 0 }
                | _ => options)
          else if known.toList.contains c then
            let rest := if letters.isEmpty then rest else String.ofList ('-' :: letters) :: rest
            lineOptions known valued fuel rest
              (if c = 'r' then { options with raw := true } else options)
          else if ← isExtended then misuse ("-" ++ c.toString ++ ": invalid option")
          else fail ("Illegal option -" ++ c.toString)
      | _ => pure (options, argument :: rest)

def takeLine (options : LineOptions) : Execution (List Glyph × Bool) := do
  match (← process).descriptors.lookup options.descriptor with
  | none => pure ([], false)
  | some channel => do
      let text := ((← onMachine (Machine.readAll channel)).toOption).getD ""
      let chars := text.toList
      let within := match options.greatest with
        | some greatest => chars.take greatest
        | none => chars
      let (glyphs, ended, rest) := lineIn options.raw options.ending (within.length + 1) within
      let rest := rest ++ chars.drop within.length
      onMachine (Machine.giveBack channel (String.ofList rest) true)
      pure (glyphs, ended || within.length < chars.length || options.greatest == some chars.length)

def readNames (arguments : List String) : Execution Nat := do
  let extended ← isExtended
  let (options, names) ←
    if extended then lineOptions "ersE" "adinNptu" (2 * arguments.length + 20) arguments {}
    else lineOptions "r" "p" (2 * arguments.length + 20) arguments {}
  if names.isEmpty && !extended then fail "arg count"
  else
    match names.find? (fun name => !isName name && (!extended || (itemName? name).isNone)) with
    | some name =>
        if extended then warn 1 (between name ++ ": not a valid identifier")
        else fail (name ++ ": bad variable name")
    | none => do
        if ((← process).descriptors.lookup options.descriptor).isNone && options.descriptor ≠ 0 then
          warn 1 (toString options.descriptor ++ ": invalid file descriptor: Bad file descriptor")
        else
          let (glyphs, ended) ← takeLine options
          let separators ← separators
          match options.row, names with
          | some row, _ => giveRow row ((split separators glyphs).map glyphText)
          | none, [] => give "REPLY" (glyphText glyphs)
          | none, names =>
              (names.zip (valuesFor separators names.length glyphs)).forM (fun (name, value) =>
                match itemName? name with
                | some (name, item) => giveItem name item value
                | none => give name value)
          pure (if ended then 0 else 1)

/-! ### Rows of lines -/

def linesWithEnds (ending : Char) (text : String) : List String :=
  let (lines, current) := text.toList.foldl
    (fun (lines, current) c =>
      if c = ending then (String.ofList (c :: current).reverse :: lines, [])
      else (lines, c :: current))
    (([] : List String), ([] : List Char))
  (if current.isEmpty then lines else String.ofList current.reverse :: lines).reverse

structure RowOptions where
  trimmed : Bool := false
  count : Option Nat := none
  skipped : Nat := 0
  ending : Char := '\n'
  descriptor : Nat := 0

def readRow (arguments : List String) : Execution Nat := do
  let (given, names) := options (2 * arguments.length + 2) {} arguments
  let text ← match (← process).descriptors.lookup given.descriptor with
    | some channel => do pure (((← onMachine (Machine.readAll channel)).toOption).getD "")
    | none => pure ""
  let lines := (linesWithEnds given.ending text).drop given.skipped
  let lines := match given.count with
    | some count => if count = 0 then lines else lines.take count
    | none => lines
  let withoutEnding (line : String) : String :=
    if line.toList.getLast? == some given.ending then String.ofList line.toList.dropLast else line
  let lines := if given.trimmed then lines.map withoutEnding else lines
  giveRow (names.headD "MAPFILE") lines
  pure 0
where
  options : Nat → RowOptions → List String → RowOptions × List String
    | 0, given, arguments => (given, arguments)
    | fuel + 1, given, arguments =>
        match arguments with
        | "-t" :: rest => options fuel { given with trimmed := true } rest
        | "-n" :: value :: rest => options fuel { given with count := value.toNat? } rest
        | "-s" :: value :: rest => options fuel { given with skipped := value.toNat?.getD 0 } rest
        | "-d" :: value :: rest =>
            options fuel { given with ending := value.toList.headD (Char.ofNat 0) } rest
        | "-u" :: value :: rest =>
            options fuel { given with descriptor := value.toNat?.getD 0 } rest
        | "-O" :: _ :: rest => options fuel given rest
        | "--" :: rest => (given, rest)
        | names => (given, names)

/-! ### Options of scripts -/

/-- The next option among arguments: what the name becomes, the value, and the places behind. -/
def nextOption (letters : List Char) (arguments : List String) (place letter : Nat) :
    Option (Char × Option String × Option Char × Nat × Nat) :=
  match arguments[place - 1]? with
  | none => none
  | some argument =>
      let chars := argument.toList
      if chars.head? ≠ some '-' || argument = "-" || argument = "--" then none
      else
        match chars[letter]? with
        | none => none
        | some c =>
            let last := chars.length = letter + 1
            let (nextPlace, nextLetter) := if last then (place + 1, 1) else (place, letter + 1)
            let silent := letters.head? == some ':'
            let known := c ≠ ':' && letters.contains c
            let valued :=
              match letters.dropWhile (· ≠ c) with
              | _ :: ':' :: _ => true
              | _ => false
            if !known then
              some ('?', if silent then some c.toString else none, some c, nextPlace, nextLetter)
            else if !valued then some (c, none, none, nextPlace, nextLetter)
            else if !last then
              some (c, some (String.ofList (chars.drop (letter + 1))), none, place + 1, 1)
            else
              match arguments[place]? with
              | some value => some (c, some value, none, place + 2, 1)
              | none =>
                  if silent then some (':', some c.toString, some c, place + 1, 1)
                  else some ('?', none, some c, place + 1, 1)

def readOption (arguments : List String) : Execution Nat := do
  match arguments with
  | letters :: name :: rest => do
      let process ← process
      let words := if rest.isEmpty then process.arguments else rest
      let place := process.optionPlace
      let extended ← isExtended
      let put (name : String) (value : String) : Execution Unit := do
        let held := (← held? name).getD {}
        putVariable name { held with value := some value }
      let finish (place letter : Nat) : Execution Unit := do
        put "OPTIND" (toString place)
        changeProcess (fun process =>
          { process with optionPlace := place, letterPlace := letter })
      match nextOption letters.toList words place process.letterPlace with
      | none => do
          let place := if words[place - 1]? == some "--" then place + 1 else place
          give name "?"
          finish place 1
          pure 1
      | some (c, value, wrong, place, letter) => do
          let silent := letters.startsWith ":"
          match wrong with
          | some bad =>
              if !silent then
                let known := letters.toList.contains bad && bad ≠ ':'
                if extended then
                  writeError (process.script ++ ": " ++
                    (if known then "option requires an argument -- " else "illegal option -- ") ++
                    bad.toString ++ "\n")
                else
                  writeError (if known then "No arg for -" ++ bad.toString ++ " option\n"
                    else "Illegal option -" ++ bad.toString ++ "\n")
          | none => pure ()
          match value with
          | some value => put "OPTARG" value
          | none => if wrong.isSome || extended then dropVariable "OPTARG" else put "OPTARG" ""
          finish place letter
          give name c.toString
          pure 0
  | _ =>
      if ← isExtended then do
        showUsage
        pure 2
      else fail "Usage: getopts optstring var [arg...]"

end Execution

end AssociationCheck.Shell
