/-
The values of words.

The pieces of a word take their values from left to right. Where several words may come of one,
what was not quoted is split at separators, and patterns become the paths that they match. Last,
what is left of the quotes is taken away.
-/

import AssociationCheck.Shell.Formatted
import AssociationCheck.Shell.Pattern
import AssociationCheck.Shell.Running

namespace AssociationCheck.Shell

namespace Execution

/-! ### Glyphs -/

def plainGlyphs (quoted splits : Bool) (text : String) : List Glyph :=
  text.toList.map (fun c => .char c quoted splits)

def glyphText (glyphs : List Glyph) : String :=
  String.ofList (glyphs.filterMap (fun glyph =>
    match glyph with
    | .char c _ _ => some c
    | .edge => some ' '
    | _ => none))

def markedOf (glyphs : List Glyph) : List Marked :=
  glyphs.filterMap (fun glyph =>
    match glyph with
    | .char c quoted _ => some ⟨c, quoted⟩
    | _ => none)

/-- Glyphs at the boundaries of which words are being split. -/
structure Splitting where
  fields : List (List Glyph) := []
  current : Option (List Glyph) := none
  afterBlank : Bool := false

def Splitting.close (state : Splitting) : Splitting :=
  match state.current with
  | some glyphs => { state with fields := glyphs.reverse :: state.fields, current := none }
  | none => state

/-- Splits glyphs into words at separators: blanks among them count together, every other one
alone. -/
def split (separators : String) (glyphs : List Glyph) : List (List Glyph) :=
  let hasVoid := glyphs.contains .void
  let add (state : Splitting) (glyph : Option Glyph) : Splitting :=
    { state with current := some (glyph.toList ++ state.current.getD []), afterBlank := false }
  let step (state : Splitting) (glyph : Glyph) : Splitting :=
    match glyph with
    | .void => state
    | .mark => if hasVoid then state else add state none
    | .edge => { state.close with afterBlank := false }
    | .char c _ splits =>
        if splits && separators.toList.contains c then
          if c = ' ' || c = '\t' || c = '\n' then
            match state.current with
            | some _ => { state.close with afterBlank := true }
            | none => state
          else
            match state.current with
            | some _ => { state.close with afterBlank := false }
            | none =>
                if state.afterBlank then { state with afterBlank := false }
                else { state with fields := [] :: state.fields }
        else add state (some glyph)
  (glyphs.foldl step {}).close.fields.reverse

/-! ### Values of parameters -/

/-- The value of a parameter; several values may be meant to stay apart. -/
inductive ParameterValue
  | single (text : String)
  | several (texts : List String) (joined : Bool)

def optionLetters : Execution String := do
  let options := (← process).options
  if ← isExtended then
    pure (String.ofList (['a', 'b', 'e', 'f', 'h', 'i', 'k', 'm', 'n', 'p', 't', 'u', 'v', 'x', 'B',
      'C', 'E', 'H', 'P', 'T', 'c', 's'].filter options.contains))
  else
    pure (String.ofList (['e', 'f', 'I', 'i', 'm', 'n', 's', 'x', 'v', 'V', 'E', 'C', 'a', 'b',
      'u'].filter options.contains))

def specialValue? (name : String) : Execution (Option ParameterValue) := do
  let process ← process
  match name with
  | "@" => pure (some (.several process.arguments false))
  | "*" => pure (some (.several process.arguments true))
  | "#" => pure (some (.single (toString process.arguments.length)))
  | "?" => pure (some (.single (toString process.status)))
  | "-" => do pure (some (.single (← optionLetters)))
  | "$" => pure (some (.single (toString process.shell)))
  | "!" => pure (process.lastAside.map (fun number => .single (toString number)))
  | "0" => pure (some (.single process.script))
  | _ =>
      match name.toNat? with
      | some 0 => pure (some (.single process.script))
      | some place => pure ((process.arguments[place - 1]?).map .single)
      | none => pure none

/-- What a name stands for that the larger language keeps up to date itself. -/
def standingVariable? (name : String) : Execution (Option Variable) := do
  let process ← process
  let row (texts : List String) : Variable :=
    ({} : Variable).emptied.withItems (texts.map (fun text => (none, text)))
  let inFunction := process.frames.length > 1
  if process.dialect == .standard then pure none
  else
    pure (match name with
      | "LINENO" => some { value := some (toString process.line) }
      | "BASH_SOURCE" => some (row (process.frames.map Prod.snd))
      | "FUNCNAME" => if inFunction then some (row (process.frames.map Prod.fst)) else none
      | "PIPESTATUS" => some (row (process.stages.map toString))
      | "BASHPID" => some { value := some (toString process.number) }
      | "BASH_SUBSHELL" => some { value := some (toString process.depth) }
      | "SECONDS" => some { value := some "0" }
      | "RANDOM" => some { value := some "4" }
      | _ => none)

def found? (name : String) : Execution (Option Variable) := do
  match ← standingVariable? name with
  | some found => pure (some found)
  | none => held? name

def parameterValue (place : Option String) (name : String) : Execution (Option ParameterValue) := do
  if isName name then
    let found := (← found? name).getD {}
    match place with
    | some "@" => pure (some (.several (found.ordered.map Prod.snd) false))
    | some "*" => pure (some (.several (found.ordered.map Prod.snd) true))
    | some index => pure ((found.item? index).map .single)
    | none => pure (found.first?.map .single)
  else specialValue? name

def valueGlyphs (several quoted : Bool) (value : ParameterValue) : Execution (List Glyph) := do
  let texts (between : List Glyph) (wrap : String → List Glyph) (items : List String) :
      List Glyph :=
    List.flatten ((items.map wrap).intersperse between)
  let joint : Execution String := do
    pure (((← separators).toList.head?.map Char.toString).getD "")
  match value with
  | .single text => pure (plainGlyphs quoted (!quoted) text)
  | .several items joined =>
      if joined && quoted then
        pure (plainGlyphs true false (String.intercalate (← joint) items))
      else if several then
        if quoted then
          if items.isEmpty then pure [.void]
          else pure (texts [.edge] (fun text => .mark :: plainGlyphs true false text) items)
        else pure (texts [.edge] (plainGlyphs false true) items)
      else if joined then
        let mark ← joint
        pure (plainGlyphs quoted (!quoted) (String.intercalate mark items))
      else pure (plainGlyphs quoted (!quoted) (String.intercalate " " items))

/-! ### Arithmetic -/

def itemName? (text : String) : Option (String × String) :=
  let name := text.toList.takeWhile (· ≠ '[')
  match text.toList.drop name.length with
  | '[' :: inside =>
      if inside.getLast? == some ']' && isName (String.ofList name) then
        some (String.ofList name, String.ofList inside.dropLast)
      else none
  | _ => none

/-- The key of an item in an expression. -/
def computedKey (evaluate : String → Execution Int) (list item : String) : Execution String := do
  let isTable := ((← found? list).map Variable.shape) == some .table
  if isTable then pure item else do pure (toString (← evaluate item))

def numberOf (evaluate : String → Execution Int) (name : String) : Execution Int := do
  let text ← match itemName? name with
    | some (list, item) => do
        let key ← computedKey evaluate list item
        pure (((← found? list).bind (·.item? key)).getD "")
    | none => do pure (((← found? name).bind Variable.first?).getD "")
  match Arithmetic.numberOfText? text with
  | some value => if ← isExtended then evaluate text else pure value
  | none => if ← isExtended then evaluate text else fail ("Illegal number: " ++ text)

def giveNumber (evaluate : String → Execution Int) (name : String) (value : Int) :
    Execution Unit := do
  match itemName? name with
  | some (list, item) => do giveItem list (← computedKey evaluate list item) (toString value)
  | none => give name (toString value)

def arithmeticFault (text : String) (fault : ArithmeticFault) : Execution Int := do
  if ← isExtended then
    let shown := String.ofList (text.toList.dropWhile FormatArgument.isSpace)
    let failAt (reason : String) (place : Nat) : Execution Int :=
      fail (shown ++ ": " ++ reason ++ " (error token is \"" ++
        Arithmetic.textFrom true text place ++ "\")")
    match fault with
    | .expected what place =>
        if what = "primary" then failAt "syntax error: operand expected" place
        else if what = "')'" then failAt ("missing " ++ between ")") place
        else failAt (between ":" ++ " expected for conditional expression") place
    | .leftOver place => failAt "syntax error in expression" place
    | .wrongOperator place => failAt "syntax error: invalid arithmetic operator" place
    | .divisionByZero place => failAt "division by 0" place
    | .illegalNumber number place =>
        let rest := Arithmetic.textFrom true text place
        let before := String.ofList (shown.toList.take (shown.length - rest.length))
        fail (before ++ number ++ ": value too great for base (error token is \"" ++ number ++
          "\")")
  else
    let reason :=
      match fault with
      | .expected what _ => "expecting " ++ what
      | .leftOver _ => "expecting EOF"
      | .wrongOperator _ => "expecting EOF"
      | .divisionByZero _ => "division by zero"
      | .illegalNumber number _ => "Illegal number: " ++ number
    fail ("arithmetic expression: " ++ reason ++ ": \"" ++ text ++ "\"")

def evaluate : Nat → String → Execution Int
  | 0, text => arithmeticFault text (.expected "primary" 0)
  | fuel + 1, text => do
      let extended ← isExtended
      if text.toList.all FormatArgument.isSpace && extended then pure 0
      else
        match Arithmetic.ofText extended text with
        | .error fault => arithmeticFault text fault
        | .ok expression =>
            Arithmetic.workOut (numberOf (evaluate fuel))
              (giveNumber (evaluate fuel)) (arithmeticFault text) expression

/-- How often the value of a name may be an expression in turn. -/
def namesLimit : Nat := 20

def evaluateText (text : String) : Execution Int := evaluate namesLimit text

/-! ### Changes of values -/

def ParameterValue.map (change : String → String) : ParameterValue → ParameterValue
  | .single text => .single (change text)
  | .several texts joined => .several (texts.map change) joined

def replaceIn (pattern : Pattern) (all : Bool) (word : List Char) : Nat → List Char → List Char
  | 0, chars => chars
  | _, [] => []
  | fuel + 1, c :: rest =>
      match pattern.longestMatch? (c :: rest) with
      | some (_, after) =>
          if all then word ++ replaceIn pattern all word fuel after else word ++ after
      | none => c :: replaceIn pattern all word fuel rest

def replaced (pattern : Pattern) (all : Bool) (place : Option Bool) (word text : String) : String :=
  match place with
  | some true =>
      let kept := pattern.trimEnd true text
      if pattern.holds [] || kept ≠ text then kept ++ word else text
  | some false =>
      let kept := pattern.trimStart true text
      if pattern.holds [] || kept ≠ text then word ++ kept else text
  | none => String.ofList (replaceIn pattern all word.toList (text.length + 1) text.toList)

/-- A part of a row; places below zero count from its end. -/
def sliced {α : Type} (start : Int) (count : Option Int) (items : List α) : List α :=
  let length : Int := items.length
  let start := if start < 0 then max 0 (start + length) else start
  let rest := items.drop start.toNat
  match count with
  | none => rest
  | some count =>
      if count < 0 then rest.take ((length + count - start).toNat) else rest.take count.toNat

/-- The items of a list from a place on; places below zero count from behind its last item. -/
def slicedItems (start : Int) (count : Option Int) (items : List (String × String)) :
    List String :=
  let placed := items.map (fun (key, value) => ((key.toNat?.getD 0 : Int), value))
  let size := (placed.getLast?.map (fun item => item.1 + 1)).getD 0
  let start := if start < 0 then start + size else start
  if start < 0 then []
  else
    let rest := (placed.filter (fun item => decide (start ≤ item.1))).map Prod.snd
    match count with
    | none => rest
    | some count => rest.take count.toNat

def textOf (inner : Inner) (word : Word) : Execution String := do
  pure (glyphText (← inner.glyphs false false word))

def patternOf (inner : Inner) (word : Word) : Execution Pattern := do
  let glyphs ← inner.glyphs false false word
  pure (Pattern.ofMarked (← isExtended) (markedOf glyphs))

/-- Whether a parameter has a value, and whether there is anything in it. -/
def hasValue (value : Option ParameterValue) : Bool × Bool :=
  match value with
  | none => (false, false)
  | some (.single text) => (true, !text.isEmpty)
  | some (.several texts _) => (!texts.isEmpty, texts.any (fun text => !text.isEmpty))

def unsetFault {α : Type} (name : String) (place : Option String) : Execution α := do
  if ← isExtended then
    let sign := if isName name then "" else "$"
    let item := (place.map (fun place => "[" ++ place ++ "]")).getD ""
    report (sign ++ name ++ item ++ ": unbound variable")
    throw (.leave 1)
  else fail (name ++ ": parameter not set")

def parameterGlyphs (inner : Inner) (several quoted : Bool) (name : String)
    (index : Word) (change : Change) : Execution (List Glyph) := do
  let place ← if index.isEmpty then pure none else do
    let text ← textOf inner index
    let isTable := ((← found? name).map Variable.shape) == some .table
    if text = "@" || text = "*" || isTable then pure (some text)
    else pure (some (toString (← evaluateText text)))
  let value ← parameterValue place name
  let checked : Execution ParameterValue := do
    match value with
    | some value => pure value
    | none =>
        if ← hasOption 'u' then unsetFault name place else pure (.single "")
  let written (value : ParameterValue) : Execution (List Glyph) := valueGlyphs several quoted value
  let (isSet, isFull) := hasValue value
  match change with
  | .none => do written (← checked)
  | .size => do
      match ← checked with
      | .single text => pure (plainGlyphs quoted (!quoted) (toString text.length))
      | .several texts _ => pure (plainGlyphs quoted (!quoted) (toString texts.length))
  | .fallback kind orEmpty word =>
      let missing := if orEmpty then !isFull else !isSet
      match kind with
      | .alternative =>
          if missing then pure [] else inner.glyphs several (!quoted) word
      | .value =>
          if missing then inner.glyphs several (!quoted) word else do written (← checked)
      | .assigned =>
          if !missing then do written (← checked)
          else if !isName name then
            if ← isExtended then fail ("$" ++ name ++ ": cannot assign in this way")
            else fail (name ++ ": bad variable name")
          else do
            let text ← textOf inner word
            match place with
            | some place => giveItem name place text
            | none => give name text
            written (.single text)
      | .fault =>
          if !missing then do written (← checked)
          else do
            let text ← textOf inner word
            let extended ← isExtended
            let message :=
              if !word.isEmpty then text
              else if extended then
                (if orEmpty then "parameter null or not set" else "parameter not set")
              else "parameter not set" ++ (if orEmpty then " or null" else "")
            report (name ++ ": " ++ message)
            if extended then throw (.leave 1) else throw (.fault 2)
  | .trim atEnd longest pattern => do
      let value ← checked
      let pattern ← patternOf inner pattern
      written (value.map (fun text =>
        if atEnd then pattern.trimEnd longest text else pattern.trimStart longest text))
  | .replace all place pattern word => do
      let value ← checked
      let pattern ← patternOf inner pattern
      let word ← textOf inner word
      written (value.map (replaced pattern all place word))
  | .slice start count => do
      let value ← checked
      let start ← evaluateText (← textOf inner start)
      let (countText, count) ← match count with
        | some count => do
            let text ← textOf inner count
            pure (text, some (← evaluateText text))
        | none => pure ("", none)
      let negative : Execution (List Glyph) := fail (countText ++ ": substring expression < 0")
      match value with
      | .single text => do
          let length : Int := text.length
          let first := if start < 0 then start + length else start
          let isNegative :=
            match count with
            | some count => decide (count < 0 ∧ 0 ≤ first ∧ first ≤ length ∧ length + count < first)
            | none => false
          if isNegative then negative
          else if first < 0 then written (.single "")
          else written (.single (String.ofList (sliced start count text.toList)))
      | .several texts joined => do
          if (count.map (fun count => decide (count < 0))).getD false then negative
          else if name = "@" || name = "*" then do
            let script := (← process).script
            written (.several (sliced start count (script :: texts)) joined)
          else do
            let found := (← found? name).getD {}
            if found.shape = .row then
              written (.several (slicedItems start count found.ordered) joined)
            else written (.several (sliced start count texts) joined)
  | .upper all => do
      let value ← checked
      written (value.map (changeCase Char.toUpper all))
  | .lower all => do
      let value ← checked
      written (value.map (changeCase Char.toLower all))
  | .indirect => do
      match ← checked with
      | .single target =>
          if value.isNone then fail (name ++ ": invalid indirect expansion")
          else
            match ← parameterValue none target with
            | some value => written value
            | none => written (.single "")
      | value => written value
  | .places => do
      let places := ((← found? name).getD {}).ordered.map Prod.fst
      written (.several places (place == some "*"))
  | .unknown shown =>
      if ← isExtended then fail ("$\x7b" ++ shown ++ "\x7d: bad substitution")
      else fail "Bad substitution"
where
  changeCase (change : Char → Char) (all : Bool) (text : String) : String :=
    if all then text.map change
    else
      match text.toList with
      | c :: rest => String.ofList (change c :: rest)
      | [] => ""

/-! ### Pieces -/

def written (inner : Inner) (body : Command) : Execution (String × Nat) := do
  let channel ← onMachine (Machine.add (.sink []))
  let status ← separately inner (do
    setDescriptor 1 (some channel)
    changeProcess (fun process => { process with depth := process.depth + 1 })
    match body, ← isExtended with
    | .simple line [] [] [] [.file 0 .read path], true =>
        inner.command false (.simple line [] [[.text false "cat"]] [] [.file 0 .read path])
    | _, _ => inner.command false body)
  pure (← onMachine (Machine.collected channel), status)

/-- What a list of commands writes, without the line ends at its end. -/
def outputOf (inner : Inner) (body : Command) : Execution String := do
  let (text, status) ← written inner body
  changeProcess (fun process => { process with outputStatus := some status })
  let chars := text.toList.filter (· ≠ Char.ofNat 0)
  pure (String.ofList (chars.reverse.dropWhile (· = '\n')).reverse)

/-- The path under which a program reads what a list of commands writes. -/
def outputPath (inner : Inner) (body : Command) : Execution String := do
  let (text, _) ← written inner body
  let channel ← onMachine (Machine.add (.source text))
  let taken := (← process).descriptors
  let free := (List.range 54).find? (fun place => (taken.lookup (63 - place)).isNone)
  let descriptor := 63 - free.getD 0
  setDescriptor descriptor (some channel)
  pure ("/dev/fd/" ++ toString descriptor)

def pieceGlyphs (inner : Inner) (several splits : Bool) : Piece → Execution (List Glyph)
  | .text quoted chars =>
      pure (if quoted then .mark :: plainGlyphs true false chars
        else plainGlyphs false splits chars)
  | .parameter quoted name index change =>
      parameterGlyphs inner several quoted name index change
  | .output quoted body => do
      pure (plainGlyphs quoted (!quoted) (← outputOf inner body))
  | .arithmetic quoted expression => do
      let text ← textOf inner expression
      let value ← evaluateText text
      pure (plainGlyphs quoted (!quoted) (toString value))
  | .outputFile body => do
      pure (plainGlyphs false false (← outputPath inner body))

def wordGlyphs (inner : Inner) (several splits : Bool) : Word → Execution (List Glyph)
  | [] => pure []
  | piece :: rest => do
      let first ← pieceGlyphs inner several splits piece
      let more ← wordGlyphs inner several splits rest
      pure (first ++ more)

/-! ### Home directories -/

def home? (name : String) : Execution (Option String) := do
  if name.isEmpty then value? "HOME"
  else if name = "root" then pure (some "/root")
  else if name = "+" && (← isExtended) then value? "PWD"
  else pure none

def withHome (word : Word) : Execution Word := do
  match word with
  | .text false chars :: rest =>
      match chars.toList with
      | '~' :: more =>
          let name := more.takeWhile (· ≠ '/')
          if name.length = more.length && !rest.isEmpty then pure word
          else
            match ← home? (String.ofList name) with
            | some path =>
                let behind := String.ofList (more.drop name.length)
                pure (.text true path :: .text false behind :: rest)
            | none => pure word
      | _ => pure word
  | _ => pure word

/-- Replaces tildes at the start of a value and behind its colons. -/
def withHomes (word : Word) : Execution Word := do
  let parts ← word.mapM (fun piece => do
    match piece with
    | .text false chars =>
        match chars.splitOn ":" with
        | first :: others => do
            let others ← others.mapM (fun part => withHome [.text false (part)])
            pure (Piece.text false first :: others.flatMap (fun part => .text false ":" :: part))
        | [] => pure [piece]
    | piece => pure [piece])
  withHome parts.flatten

/-! ### Paths -/

def hasPattern (glyphs : List Glyph) : Bool :=
  glyphs.any (fun glyph =>
    match glyph with
    | .char c false _ => c = '*' || c = '?' || c = '['
    | _ => false)

def componentsOf (glyphs : List Glyph) : List (List Glyph) :=
  let (parts, current) := glyphs.foldl
    (fun (parts, current) glyph =>
      match glyph with
      | .char '/' _ _ => (current.reverse :: parts, [])
      | glyph => (parts, glyph :: current))
    (([] : List (List Glyph)), ([] : List Glyph))
  (current.reverse :: parts).reverse

def pathsMatching (extended : Bool) (files : FileTree) (directory : Location) :
    String → List (List Glyph) → List String
  | start, [] => [start]
  | start, component :: rest =>
      let ending := if rest.isEmpty then "" else "/"
      if !hasPattern component then
        let path := start ++ glyphText component ++ ending
        if rest.isEmpty then
          let isThere :=
            if path.isEmpty then false
            else
              let full := Machine.absolute directory path
              (files.entry full).toOption.isSome ||
                ((files.place full).toOption.bind files.at?).isSome
          if isThere then [path] else []
        else pathsMatching extended files directory path rest
      else
        let pattern := Pattern.ofMarked extended (markedOf component)
        let opening := if start.isEmpty then "." else start
        match files.entry (Machine.absolute directory opening) with
        | .ok (location, .directory) =>
            let wantsHidden :=
              match component with
              | .char '.' _ _ :: _ => true
              | _ => false
            let names := (files.namesIn location).map Text.octetsOf
            let names := if wantsHidden && !extended then "." :: ".." :: names
              else if wantsHidden then names
              else names.filter (fun name => !name.startsWith ".")
            let found := names.filter (fun name => pattern.holds name.toList)
            found.flatMap (fun name =>
              if rest.isEmpty then [start ++ name]
              else
                match files.entry (Machine.absolute directory (start ++ name)) with
                | .ok (_, .directory) =>
                    pathsMatching extended files directory (start ++ name ++ "/") rest
                | _ => [])
        | _ => []

/-- The paths that a word matches, or the word itself. -/
def pathsOf (glyphs : List Glyph) : Execution (List String) := do
  let text := glyphText glyphs
  if !hasPattern glyphs || (← hasOption 'f') then pure [text]
  else
    let files := (← machine).files
    let found := pathsMatching (← isExtended) files (← process).directory "" (componentsOf glyphs)
    if found.isEmpty then pure (if (← process).switches.contains "nullglob" then [] else [text])
    else pure (found.mergeSort (fun first second => !decide (second < first)))

/-! ### Alternatives -/

/-- A character without quotes, or a piece that is none. -/
inductive Atom
  | char (c : Char)
  | piece (piece : Piece)

def atomsOf (word : Word) : List Atom :=
  word.flatMap (fun piece =>
    match piece with
    | .text false chars => chars.toList.map .char
    | piece => [.piece piece])

def ofAtoms (atoms : List Atom) : Word :=
  atoms.foldr
    (fun atom word =>
      match atom, word with
      | .char c, .text false chars :: rest => .text false (c.toString ++ chars) :: rest
      | .char c, word => .text false c.toString :: word
      | .piece piece, word => piece :: word)
    []

/-- The parts between a brace and the one that closes it, and what follows. -/
def bracedParts : Nat → Nat → List Atom → List (List Atom) → List Atom →
    Option (List (List Atom) × List Atom)
  | 0, _, _, _, _ => none
  | _, _, [], _, _ => none
  | fuel + 1, depth, atom :: rest, parts, current =>
      let keep (depth : Nat) := bracedParts fuel depth rest parts (atom :: current)
      match atom with
      | .char '\x7b' => keep (depth + 1)
      | .char '\x7d' =>
          if depth = 0 then some ((current.reverse :: parts).reverse, rest) else keep (depth - 1)
      | .char ',' =>
          if depth = 0 then bracedParts fuel depth rest (current.reverse :: parts) []
          else keep depth
      | _ => keep depth

def stepped (first last : Int) (step : Nat) : List Int :=
  let step := max 1 step
  (List.range ((last - first).natAbs / step + 1)).map (fun (index : Nat) =>
    if first ≤ last then first + (index * step : Nat) else first - (index * step : Nat))

/-- A number with zeros before it up to a width. -/
def widened (width : Nat) (value : Int) : String :=
  let sign := if value < 0 then "-" else ""
  let digits := toString value.natAbs
  sign ++ Directive.repeated (width - sign.length - digits.length) '0' ++ digits

def rangeTexts (text : String) : Option (List String) := do
  let (first, last, step) ←
    match text.splitOn ".." with
    | [first, last] => some (first, last, 1)
    | [first, last, step] => (step.toInt?).map (fun step => (first, last, step.natAbs))
    | _ => none
  let isPadded (text : String) : Bool :=
    let digits := text.toList.dropWhile (· = '-')
    digits.head? == some '0' && digits.length > 1
  match first.toInt?, last.toInt?, first.toList, last.toList with
  | some a, some b, _, _ =>
      let width := if isPadded first || isPadded last then max first.length last.length else 0
      some ((stepped a b step).map (widened width))
  | _, _, [c], [d] =>
      if c.isAlpha && d.isAlpha then
        some ((stepped c.toNat d.toNat step).map (fun code => (Char.ofNat code.toNat).toString))
      else none
  | _, _, _, _ => none

/-- All words that come of the alternatives in braces. -/
def alternatives : Nat → List Atom → List (List Atom)
  | 0, atoms => [atoms]
  | _, [] => [[]]
  | fuel + 1, .char '\x7b' :: rest =>
      let single : List (List Atom) :=
        (alternatives fuel rest).map (fun others => .char '\x7b' :: others)
      match bracedParts (rest.length + 1) 0 rest [] [] with
      | none => single
      | some (parts, after) =>
          match parts with
          | [only] =>
              let text? := only.mapM (fun atom => match atom with | .char c => some c | _ => none)
              match text?.bind (fun chars => rangeTexts (String.ofList chars)) with
              | some texts =>
                  let behind := alternatives fuel after
                  texts.flatMap (fun text =>
                    behind.map (fun others => text.toList.map Atom.char ++ others))
              | none => single
          | parts =>
              let behind := alternatives fuel after
              (parts.flatMap (alternatives fuel)).flatMap (fun part =>
                behind.map (fun others => part ++ others))
  | fuel + 1, atom :: rest => (alternatives fuel rest).map (fun others => atom :: others)

def alternativesOf (word : Word) : List Word :=
  let atoms := atomsOf word
  let hasBrace := atoms.any (fun atom => match atom with | .char '\x7b' => true | _ => false)
  if hasBrace then (alternatives (atoms.length + 1) atoms).map ofAtoms else [word]

/-! ### Words -/

def fieldsOf (inner : Inner) (word : Word) : Execution (List String) := do
  let words := if ← isExtended then alternativesOf word else [word]
  let fields ← words.mapM (fun word => do
    let glyphs ← inner.glyphs true false (← withHome word)
    let fields := split (← separators) glyphs
    fields.mapM pathsOf)
  pure fields.flatten.flatten

def allFields (inner : Inner) (words : List Word) : Execution (List String) := do
  let fields ← words.mapM (fieldsOf inner)
  pure fields.flatten

def singleText (inner : Inner) (word : Word) : Execution String := do
  textOf inner (← withHome word)

def valueText (inner : Inner) (word : Word) : Execution String := do
  textOf inner (← withHomes word)

end Execution

end AssociationCheck.Shell
