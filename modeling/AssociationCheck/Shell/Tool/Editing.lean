/-
Editing lines by a script.

A script is a row of commands, each with addresses that say to which lines it applies. Lines are
read one after the other into a buffer; the commands change it, and it is written when they are
done. A second buffer keeps what is put aside.
-/

import AssociationCheck.Shell.Regex
import AssociationCheck.Shell.Tool.Reading

namespace AssociationCheck.Shell.Tool

open Program

/-! ### Scripts -/

inductive EditAddress
  | line (number : Nat)
  | last
  /-- No expression stands for the one used last. -/
  | pattern (regex : Option Regex) (folded : Bool)
  /-- Every so many lines from one on. -/
  | step (first step : Nat)
  /-- So many lines behind the first address. -/
  | further (count : Nat)
  /-- Up to a line whose number is a multiple. -/
  | multiple (count : Nat)

inductive EditPiece
  | text (chars : List Char)
  | group (number : Nat)
  | upper (once : Bool)
  | lower (once : Bool)
  | asIs

structure Substitution where
  regex : Option Regex
  folded : Bool := false
  pieces : List EditPiece
  all : Bool := false
  occurrence : Nat := 1
  prints : Bool := false
  file : Option String := none

inductive EditAction
  | substitute (change : Substitution)
  | delete
  | deleteFirst
  | print
  | printFirst
  | number
  | quit (status : Nat) (silent : Bool)
  | next
  | nextAppend
  | hold
  | holdAppend
  | get
  | getAppend
  | exchange
  | append (text : String)
  | insert (text : String)
  | change (text : String)
  | translate (pairs : List (Char × Char))
  | label (name : String)
  | branch (name : String)
  | branchIf (name : String)
  | branchUnless (name : String)
  | blockStart
  | blockEnd
  | readFile (path : String)
  | writeFile (path : String)
  | clear
  | list

structure EditCommand where
  first : Option EditAddress
  second : Option EditAddress
  negated : Bool
  action : EditAction

/-! ### Reading scripts -/

inductive EditFault
  | unknownCommand (c : Char)
  | unterminated (c : Char)
  | unknownOption
  | noCommand
  | extra
  | openAddress
  | unexpectedComma
  | openBlock
  | strayBlock
  | noText
  | noAddressAllowed (c : Char)
  | badRegex (fault : Regex.RegexFault)
  | lengths
  | noGroup (number : Nat)

def EditFault.text : EditFault → String
  | unknownCommand c => "unknown command: " ++ quote c
  | unterminated c => "unterminated " ++ quote c ++ " command"
  | unknownOption => "unknown option to " ++ quote 's'
  | noCommand => "missing command"
  | extra => "extra characters after command"
  | openAddress => "unterminated address regex"
  | unexpectedComma => "unexpected " ++ quote ','
  | openBlock => "unmatched " ++ quote '\x7b'
  | strayBlock => "unexpected " ++ quote '\x7d'
  | noText => "expected \\ after " ++ quote 'a' ++ ", " ++ quote 'c' ++ " or " ++ quote 'i'
  | noAddressAllowed c => "command " ++ quote c ++ " doesn't accept any addresses"
  | badRegex fault => fault.text false
  | lengths => "strings for " ++ quote 'y' ++ " command are different lengths"
  | noGroup number => "invalid reference \\" ++ toString number ++ " on " ++ quote 's' ++
      " command's RHS"
where
  quote (c : Char) : String := (Char.ofNat 96).toString ++ c.toString ++ "'"

abbrev EditReading := StateT (List Char) (Except (Nat × EditFault))

def failEdit {α : Type} (fault : EditFault) : EditReading α := do
  throw ((← get).length, fault)

def dropChars (count : Nat) : EditReading Unit := modify (List.drop count)

def skipWhile (test : Char → Bool) : EditReading Unit := modify (List.dropWhile test)

def isEditBlank (c : Char) : Bool := c = ' ' || c = '\t'

/-- The characters up to a mark; a backslash hides the mark, and brackets do in expressions. -/
def upToMark (mark : Char) (inRegex : Bool) :
    Nat → Bool → List Char → Option (List Char × List Char)
  | 0, _, _ => none
  | _, _, [] => none
  | fuel + 1, inSet, '\\' :: c :: rest =>
      let kept := if c = mark && !inSet then [c] else ['\\', c]
      let kept := if c = 'n' && inRegex && mark ≠ 'n' then ['\\', 'n'] else kept
      (upToMark mark inRegex fuel inSet rest).map (fun (inside, after) => (kept ++ inside, after))
  | fuel + 1, inSet, c :: rest =>
      if c = mark && !inSet then some ([], rest)
      else
        let opened := inRegex && !inSet && c = '['
        let closed := inSet && c = ']'
        let (own, rest) : List Char × List Char :=
          if opened then
            let caret := if rest.head? == some '^' then ['^'] else []
            let after := rest.drop caret.length
            let bracket := if after.head? == some ']' then [']'] else []
            (c :: caret ++ bracket, after.drop bracket.length)
          else ([c], rest)
        (upToMark mark inRegex fuel ((inSet || opened) && !closed) rest).map
          (fun (inside, after) => (own ++ inside, after))

def readUpToMark (mark : Char) (inRegex : Bool) (fault : EditFault) : EditReading (List Char) := do
  let chars ← get
  match upToMark mark inRegex (chars.length + 1) false chars with
  | some (inside, after) => do
      set after
      pure inside
  | none => do
      set ([] : List Char)
      failEdit fault

def regexOf (extended : Bool) (chars : List Char) : EditReading (Option Regex) := do
  if chars.isEmpty then pure none
  else
    match Regex.ofText extended (String.ofList chars) with
    | .ok regex => pure (some regex)
    | .error fault => failEdit (.badRegex fault)

def readNumber : EditReading Nat := do
  let digits := (← get).takeWhile Char.isDigit
  dropChars digits.length
  pure (digits.foldl (fun value c => 10 * value + (c.toNat - 48)) 0)

def readAddress (extended : Bool) : EditReading (Option EditAddress) := do
  let pattern (mark : Char) : EditReading (Option EditAddress) := do
    let regex ← regexOf extended (← readUpToMark mark true .openAddress)
    match ← get with
    | 'I' :: _ => do
        dropChars 1
        pure (some (.pattern regex true))
    | _ => pure (some (.pattern regex false))
  match ← get with
  | '$' :: _ => do
      dropChars 1
      pure (some .last)
  | '/' :: _ => do
      dropChars 1
      pattern '/'
  | '\\' :: mark :: _ => do
      dropChars 2
      pattern mark
  | '+' :: _ => do
      dropChars 1
      pure (some (.further (← readNumber)))
  | '~' :: _ => do
      dropChars 1
      pure (some (.multiple (← readNumber)))
  | c :: _ =>
      if c.isDigit then
        let first ← readNumber
        match ← get with
        | '~' :: _ => do
            dropChars 1
            pure (some (.step first (← readNumber)))
        | _ => pure (some (.line first))
      else pure none
  | [] => pure none

def piecesOf : Nat → List Char → List EditPiece
  | 0, _ => []
  | _, [] => []
  | fuel + 1, '\\' :: c :: rest =>
      if c.isDigit then .group (c.toNat - 48) :: piecesOf fuel rest
      else
        match c with
        | 'n' => .text ['\n'] :: piecesOf fuel rest
        | 't' => .text ['\t'] :: piecesOf fuel rest
        | 'U' => .upper false :: piecesOf fuel rest
        | 'u' => .upper true :: piecesOf fuel rest
        | 'L' => .lower false :: piecesOf fuel rest
        | 'l' => .lower true :: piecesOf fuel rest
        | 'E' => .asIs :: piecesOf fuel rest
        | _ => .text [c] :: piecesOf fuel rest
  | fuel + 1, '&' :: rest => .group 0 :: piecesOf fuel rest
  | fuel + 1, c :: rest => .text [c] :: piecesOf fuel rest

def readSubstitutionFlags : Nat → Substitution → EditReading Substitution
  | 0, change => pure change
  | fuel + 1, change => do
      match ← get with
      | 'g' :: _ => do
          dropChars 1
          readSubstitutionFlags fuel { change with all := true }
      | 'p' :: _ => do
          dropChars 1
          readSubstitutionFlags fuel { change with prints := true }
      | 'i' :: _ => do
          dropChars 1
          readSubstitutionFlags fuel { change with folded := true }
      | 'I' :: _ => do
          dropChars 1
          readSubstitutionFlags fuel { change with folded := true }
      | 'w' :: _ => do
          dropChars 1
          skipWhile isEditBlank
          let path := (← get).takeWhile (· ≠ '\n')
          dropChars path.length
          pure { change with file := some (String.ofList path) }
      | c :: _ =>
          if c.isDigit then
            let number ← readNumber
            readSubstitutionFlags fuel { change with occurrence := number }
          else if isEditBlank c || c = '\n' || c = ';' || c = '\x7d' || c = '#' then pure change
          else do
            dropChars 1
            failEdit .unknownOption
      | [] => pure change

/-- The text of a command that writes lines: on the same line, or behind a backslash. -/
def readEditText : EditReading String := do
  skipWhile isEditBlank
  match ← get with
  | [] => failEdit .noText
  | '\\' :: rest => do
      let rest := rest.dropWhile isEditBlank
      set (match rest with | '\n' :: rest => rest | _ => rest)
  | _ => pure ()
  let chars ← get
  let (text, rest) := go (chars.length + 1) chars
  set rest
  pure (String.ofList text ++ "\n")
where
  go : Nat → List Char → List Char × List Char
    | 0, chars => ([], chars)
    | _, [] => ([], [])
    | _, '\n' :: rest => ([], rest)
    | fuel + 1, '\\' :: c :: rest =>
        let (text, rest) := go fuel rest
        (c :: text, rest)
    | fuel + 1, c :: rest =>
        let (text, rest) := go fuel rest
        (c :: text, rest)

def readLabel : EditReading String := do
  skipWhile isEditBlank
  let name := (← get).takeWhile (fun c => c ≠ '\n' && c ≠ ';' && c ≠ '\x7d' && !isEditBlank c)
  dropChars name.length
  pure (String.ofList name)

def readEditPath : EditReading String := do
  skipWhile isEditBlank
  let path := (← get).takeWhile (· ≠ '\n')
  dropChars path.length
  pure (String.ofList path)

def groupCount : Regex → Nat
  | .group number body => max number (groupCount body)
  | .seq first second => max (groupCount first) (groupCount second)
  | .either first second => max (groupCount first) (groupCount second)
  | .repeated _ _ body => groupCount body
  | _ => 0

def readSubstitution (extended : Bool) : EditReading EditAction := do
  match ← get with
  | [] => failEdit (.unterminated 's')
  | mark :: _ => do
      dropChars 1
      let pattern ← readUpToMark mark true (.unterminated 's')
      let replacement ← readUpToMark mark false (.unterminated 's')
      let pieces := piecesOf (replacement.length + 1) replacement
      let change ← readSubstitutionFlags ((← get).length + 1) { regex := none, pieces := pieces }
      let regex ← regexOf extended pattern
      match regex with
      | some regex =>
          for piece in pieces do
            match piece with
            | .group number =>
                if number > groupCount regex then failEdit (.noGroup number) else pure ()
            | _ => pure ()
      | none => pure ()
      pure (.substitute { change with regex := regex })

def readTranslation : EditReading EditAction := do
  match ← get with
  | [] => failEdit (.unterminated 'y')
  | mark :: _ => do
      dropChars 1
      let plain (chars : List Char) : List Char := go (chars.length + 1) chars
      let first := plain (← readUpToMark mark false (.unterminated 'y'))
      let second := plain (← readUpToMark mark false (.unterminated 'y'))
      if first.length ≠ second.length then failEdit .lengths
      else pure (.translate (first.zip second))
where
  go : Nat → List Char → List Char
    | 0, _ => []
    | _, [] => []
    | fuel + 1, '\\' :: 'n' :: rest => '\n' :: go fuel rest
    | fuel + 1, '\\' :: '\\' :: rest => '\\' :: go fuel rest
    | fuel + 1, c :: rest => c :: go fuel rest

def readAction (extended : Bool) (c : Char) : EditReading EditAction := do
  match c with
  | 's' => readSubstitution extended
  | 'y' => readTranslation
  | 'd' => pure .delete
  | 'D' => pure .deleteFirst
  | 'p' => pure .print
  | 'P' => pure .printFirst
  | '=' => pure .number
  | 'q' => do
      skipWhile isEditBlank
      pure (.quit (← readNumber) false)
  | 'Q' => do
      skipWhile isEditBlank
      pure (.quit (← readNumber) true)
  | 'n' => pure .next
  | 'N' => pure .nextAppend
  | 'h' => pure .hold
  | 'H' => pure .holdAppend
  | 'g' => pure .get
  | 'G' => pure .getAppend
  | 'x' => pure .exchange
  | 'a' => do pure (.append (← readEditText))
  | 'i' => do pure (.insert (← readEditText))
  | 'c' => do pure (.change (← readEditText))
  | 'b' => do pure (.branch (← readLabel))
  | 't' => do pure (.branchIf (← readLabel))
  | 'T' => do pure (.branchUnless (← readLabel))
  | 'r' => do pure (.readFile (← readEditPath))
  | 'w' => do pure (.writeFile (← readEditPath))
  | 'z' => pure .clear
  | 'l' => pure .list
  | _ => failEdit (.unknownCommand c)

def endsText : EditAction → Bool
  | .append _ => true
  | .insert _ => true
  | .change _ => true
  | .readFile _ => true
  | .writeFile _ => true
  | .label _ => true
  | _ => false

def readCommands (extended : Bool) : Nat → Nat → EditReading (List EditCommand)
  | 0, _ => pure []
  | fuel + 1, depth => do
      skipWhile (fun c => isEditBlank c || c = '\n' || c = ';')
      match ← get with
      | [] => if depth > 0 then throw (0, .openBlock) else pure []
      | '#' :: _ => do
          skipWhile (· ≠ '\n')
          readCommands extended fuel depth
      | _ => do
          let first ← readAddress extended
          skipWhile isEditBlank
          let second ←
            match first, ← get with
            | some _, ',' :: _ => do
                dropChars 1
                skipWhile isEditBlank
                match ← readAddress extended with
                | some address => pure (some address)
                | none => failEdit .unexpectedComma
            | _, _ => pure none
          skipWhile isEditBlank
          let negated := (← get).head? == some '!'
          skipWhile (fun c => c = '!' || isEditBlank c)
          match ← get with
          | [] => failEdit .noCommand
          | c :: _ => do
              dropChars 1
              let command (action : EditAction) : EditCommand := ⟨first, second, negated, action⟩
              match c with
              | '\x7b' => do
                  pure (command .blockStart :: (← readCommands extended fuel (depth + 1)))
              | '\x7d' =>
                  if depth = 0 then failEdit .strayBlock
                  else if first.isSome then failEdit (.noAddressAllowed '\x7d')
                  else pure (command .blockEnd :: (← readCommands extended fuel (depth - 1)))
              | ':' =>
                  if first.isSome then failEdit (.noAddressAllowed ':')
                  else
                    let name ← readLabel
                    pure (command (.label name) :: (← readCommands extended fuel depth))
              | _ => do
                  let action ← readAction extended c
                  if !endsText action then skipWhile isEditBlank
                  match endsText action, ← get with
                  | false, d :: _ =>
                      if d = '\n' || d = ';' || d = '\x7d' || d = '#' then pure ()
                      else do
                        dropChars 1
                        failEdit .extra
                  | _, _ => pure ()
                  pure (command action :: (← readCommands extended fuel depth))

/-! ### Carrying scripts out -/

structure Editing where
  buffer : String := ""
  aside : String := ""
  number : Nat := 0
  rest : List String := []
  /-- Whether the last line that was read had an end. -/
  ended : Bool := true
  substituted : Bool := false
  /-- Ranges that have begun, by the place of their command, with the line on which they end. -/
  active : List (Nat × Option Nat) := []
  lastRegex : Option Regex := none
  queued : List String := []
  output : List String := []
  written : List (String × String) := []

inductive EditEnd
  | done
  | deleted
  | again
  | quit (status : Nat) (silent : Bool)

abbrev Edit := StateM Editing

def emitLine (text : String) : Edit Unit := do
  let state ← get
  let ending := if state.ended || !state.rest.isEmpty then "\n" else ""
  set { state with output := (text ++ ending) :: state.output }

def emitText (text : String) : Edit Unit :=
  modify (fun state => { state with output := text :: state.output })

def flushQueued : Edit Unit :=
  modify (fun state =>
    let output :=
      if state.queued.isEmpty then state.output
      else
        match state.output with
        | last :: before =>
            if last.endsWith "\n" then last :: before else (last ++ "\n") :: before
        | [] => []
    { state with output := state.queued.reverse ++ output, queued := [] })

/-- Reads the next line into the buffer, alone or behind what is there. -/
def takeLine (append : Bool) : Edit Bool := do
  let state ← get
  match state.rest with
  | [] => pure false
  | line :: rest => do
      let text := bareLine line
      set { state with
        buffer := if append then state.buffer ++ "\n" ++ text else text
        rest := rest
        number := state.number + 1
        ended := line.endsWith "\n" }
      pure true

def findRegex (regex : Option Regex) : Edit (Option Regex) := do
  match regex with
  | some regex => do
      modify (fun state => { state with lastRegex := some regex })
      pure (some regex)
  | none => pure (← get).lastRegex

def holdsAt (address : EditAddress) : Edit Bool := do
  let state ← get
  match address with
  | .line number => pure (state.number = number)
  | .last => pure state.rest.isEmpty
  | .pattern regex folded => do
      match ← findRegex regex with
      | some regex => pure (regex.find? folded state.buffer).isSome
      | none => pure false
  | .step first step =>
      pure (if step = 0 then state.number = first
        else state.number ≥ first && (state.number - first) % step = 0)
  | .further _ => pure false
  | .multiple _ => pure false

def applies (place : Nat) (command : EditCommand) : Edit Bool := do
  let held ←
    match command.first, command.second with
    | none, _ => pure true
    | some first, none => holdsAt first
    | some first, some second => do
        let state ← get
        let finish : Edit Unit :=
          modify (fun state =>
            { state with active := state.active.filter (fun (number, _) => number ≠ place) })
        match state.active.find? (fun (number, _) => number = place) with
        | some (_, some last) => do
            if state.number ≥ last then finish
            pure (state.number ≤ last || last = 0)
        | some (_, none) => do
            if ← holdsAt second then finish
            pure true
        | none => do
            let starts ←
              match first with
              | .line 0 => pure (decide (state.number = 1))
              | _ => holdsAt first
            if !starts then pure false
            else do
              let last : Option Nat :=
                match second with
                | .line number => some number
                | .further count => some (state.number + count)
                | .multiple count =>
                    some (if count = 0 then state.number
                      else (state.number + count - 1) / count * count)
                | _ => none
              match last, first with
              | some last, _ =>
                  if last > state.number then
                    modify (fun state =>
                      { state with active := (place, some last) :: state.active })
              | none, .line 0 => do
                  if !(← holdsAt second) then
                    modify (fun state => { state with active := (place, none) :: state.active })
              | none, _ => do
                  let atEnd := match second with | .last => state.rest.isEmpty | _ => false
                  if !atEnd then
                    modify (fun state => { state with active := (place, none) :: state.active })
              pure true
  pure (held != command.negated)

def replacement (pieces : List EditPiece) (found : Regex.Found) : List Char :=
  let (chars, _, _) := pieces.foldl
    (fun (chars, mode, once) piece =>
      let add (text : List Char) : List Char × Option Bool × Option Bool :=
        let cased (upper : Bool) (c : Char) : Char := if upper then c.toUpper else c.toLower
        let text := match mode with | some upper => text.map (cased upper) | none => text
        match once, text with
        | some upper, c :: rest => (chars ++ cased upper c :: rest, mode, none)
        | _, _ => (chars ++ text, mode, once)
      match piece with
      | .text text => add text
      | .group 0 => add found.text
      | .group number => add ((found.groups.lookup number).getD [])
      | .upper true => (chars, mode, some true)
      | .lower true => (chars, mode, some false)
      | .upper false => (chars, some true, once)
      | .lower false => (chars, some false, once)
      | .asIs => (chars, none, none))
    (([] : List Char), (none : Option Bool), (none : Option Bool))
  chars

/-- The text with matches from one occurrence on replaced, and whether there was any. -/
def substituteIn (change : Substitution) (regex : Regex) :
    Nat → Nat → Option Char → List Char → List Char × Bool
  | 0, _, _, chars => (chars, false)
  | fuel + 1, count, previous, chars =>
      match regex.findFrom change.folded previous [] chars with
      | none => (chars, false)
      | some found =>
          let wanted := count = change.occurrence || (change.all && count ≥ change.occurrence)
          let text := if wanted then replacement change.pieces found else found.text
          if wanted && !change.all then (found.before ++ text ++ found.after, true)
          else if found.text.isEmpty then
            match found.after with
            | [] => (found.before ++ text, wanted)
            | c :: rest =>
                let (more, changed) := substituteIn change regex fuel (count + 1) (some c) rest
                (found.before ++ text ++ c :: more, wanted || changed)
          else
            let last := found.text.getLast?
            match found.after, regex.longestFrom change.folded
                { before := last, rest := found.after } with
            | c :: rest, some place =>
                if place.taken.isEmpty then
                  let (more, changed) := substituteIn change regex fuel (count + 1) (some c) rest
                  (found.before ++ text ++ c :: more, wanted || changed)
                else
                  let (more, changed) := substituteIn change regex fuel (count + 1) last found.after
                  (found.before ++ text ++ more, wanted || changed)
            | [], _ => (found.before ++ text, wanted)
            | _, none =>
                let (more, changed) := substituteIn change regex fuel (count + 1) last found.after
                (found.before ++ text ++ more, wanted || changed)

def afterBlock (commands : List EditCommand) : Nat → Nat → Nat → Nat
  | 0, place, _ => place
  | fuel + 1, place, depth =>
      match commands[place]? with
      | none => place
      | some command =>
          match command.action with
          | .blockStart => afterBlock commands fuel (place + 1) (depth + 1)
          | .blockEnd =>
              if depth = 0 then place + 1 else afterBlock commands fuel (place + 1) (depth - 1)
          | _ => afterBlock commands fuel (place + 1) depth

/-- The place behind a label; without one, the end of the script. -/
def placeOf (commands : List EditCommand) (name : String) : Nat :=
  if name.isEmpty then commands.length
  else
    ((commands.findIdx? (fun command =>
      match command.action with
      | .label own => own == name
      | _ => false)).map (· + 1)).getD commands.length

def behindFirstLine (text : String) : Option String :=
  let first := text.toList.takeWhile (· ≠ '\n')
  if first.length < text.length then some (String.ofList (text.toList.drop (first.length + 1)))
  else none

def runEdit (silent : Bool) (texts : List (String × String)) (commands : List EditCommand) :
    Nat → Nat → Edit EditEnd
  | 0, _ => pure .done
  | fuel + 1, place => do
      match commands[place]? with
      | none => pure .done
      | some command =>
          let go (place : Nat) : Edit EditEnd := runEdit silent texts commands fuel place
          if !(← applies place command) then
            match command.action with
            | .blockStart => go (afterBlock commands (commands.length + 1) (place + 1) 0)
            | _ => go (place + 1)
          else
            let state ← get
            let forward : Edit EditEnd := go (place + 1)
            match command.action with
            | .substitute change => do
                match ← findRegex change.regex with
                | none => forward
                | some regex =>
                    let (chars, changed) := substituteIn change regex (state.buffer.length + 2) 1
                      none state.buffer.toList
                    if changed then
                      let text := String.ofList chars
                      modify (fun state => { state with buffer := text, substituted := true })
                      if change.prints then emitLine text
                      match change.file with
                      | some path =>
                          modify (fun state =>
                            { state with written := state.written ++ [(path, text ++ "\n")] })
                      | none => pure ()
                    forward
            | .delete => pure .deleted
            | .deleteFirst =>
                match behindFirstLine state.buffer with
                | some rest => do
                    set { state with buffer := rest }
                    pure .again
                | none => pure .deleted
            | .print => do
                emitLine state.buffer
                forward
            | .printFirst => do
                emitText (String.ofList (state.buffer.toList.takeWhile (· ≠ '\n')) ++ "\n")
                forward
            | .number => do
                emitText (toString state.number ++ "\n")
                forward
            | .quit status silent => pure (.quit status silent)
            | .next => do
                if state.rest.isEmpty then pure .done
                else do
                  if !silent then emitLine state.buffer
                  flushQueued
                  let _ ← takeLine false
                  forward
            | .nextAppend => do
                if state.rest.isEmpty then pure .done
                else do
                  flushQueued
                  let _ ← takeLine true
                  forward
            | .hold => do
                set { state with aside := state.buffer }
                forward
            | .holdAppend => do
                set { state with aside := state.aside ++ "\n" ++ state.buffer }
                forward
            | .get => do
                set { state with buffer := state.aside }
                forward
            | .getAppend => do
                set { state with buffer := state.buffer ++ "\n" ++ state.aside }
                forward
            | .exchange => do
                set { state with buffer := state.aside, aside := state.buffer }
                forward
            | .append text => do
                set { state with queued := text :: state.queued }
                forward
            | .insert text => do
                emitText text
                forward
            | .change text => do
                let inRange := command.second.isSome &&
                  state.active.any (fun (number, _) => number = place)
                if !inRange then emitText text
                pure .deleted
            | .translate pairs => do
                set { state with
                  buffer := state.buffer.map (fun c => (pairs.lookup c).getD c) }
                forward
            | .label _ => forward
            | .branch name => go (placeOf commands name)
            | .branchIf name =>
                if state.substituted then do
                  set { state with substituted := false }
                  go (placeOf commands name)
                else forward
            | .branchUnless name =>
                if state.substituted then do
                  set { state with substituted := false }
                  forward
                else go (placeOf commands name)
            | .blockStart => forward
            | .blockEnd => forward
            | .readFile path => do
                match texts.lookup path with
                | some text => set { state with queued := text :: state.queued }
                | none => pure ()
                forward
            | .writeFile path => do
                set { state with written := state.written ++ [(path, state.buffer ++ "\n")] }
                forward
            | .clear => do
                set { state with buffer := "" }
                forward
            | .list => do
                emitText (String.join (state.buffer.toList.map (fun c =>
                  if c = '\n' then "\\n" else if c = '\t' then "\\t" else if c = '\\' then "\\\\"
                  else c.toString)) ++ "$\n")
                forward

/-- Goes through all lines; gives the status with which the script ends. -/
def runLines (silent : Bool) (texts : List (String × String)) (commands : List EditCommand) :
    Nat → Bool → Edit Nat
  | 0, _ => pure 0
  | fuel + 1, keeps => do
      let ready ← if keeps then pure true else takeLine false
      if !ready then pure 0
      else do
        modify (fun state => { state with substituted := false })
        let finish ← runEdit silent texts commands 100000 0
        let state ← get
        match finish with
        | .done => do
            if !silent then emitLine state.buffer
            flushQueued
            runLines silent texts commands fuel false
        | .deleted => do
            flushQueued
            runLines silent texts commands fuel false
        | .again => do
            flushQueued
            runLines silent texts commands fuel true
        | .quit status quietly => do
            if !silent && !quietly then emitLine state.buffer
            flushQueued
            pure status

def pathsRead (commands : List EditCommand) : List String :=
  commands.filterMap (fun command =>
    match command.action with
    | .readFile path => some path
    | _ => none)

def sed : Program Nat :=
  withOptions { flags := "nErsuzi", valued := "efl", words := [("quiet", 'n', false),
    ("silent", 'n', false), ("expression", 'e', true), ("file", 'f', true),
    ("regexp-extended", 'E', false), ("in-place", 'i', false), ("separate", 's', false)] } 1
    (fun given => do
    let parts ← given.options.foldlM
      (fun parts (letter, value) => do
        if letter = 'e' then pure (parts ++ [value])
        else if letter = 'f' then
          match ← readPath value with
          | .ok text =>
              let isEnded := text.endsWith "\n"
              pure (parts ++ [if isEnded then String.ofList text.toList.dropLast else text])
          | .error fault => do
              report ("couldn't open file " ++ value ++ ": " ++ fault.text)
              pure parts
        else pure parts)
      ([] : List String)
    let named := given.has 'e' || given.has 'f'
    match named, given.operands with
    | false, [] => do
        complain ("Usage: " ++ (← surroundings).name ++
          " [OPTION]... \x7bscript-only-if-no-other-script\x7d [input-file]...\n")
        pure 1
    | _, operands => do
        let script := String.intercalate "\n" (if named then parts else operands.take 1)
        let paths := inputOr (if named then operands else operands.drop 1)
        let extended := given.has 'E' || given.has 'r'
        match (readCommands extended (script.length + 2) 0).run script.toList with
        | .error (left, fault) => do
            let place := match fault with | .openBlock => 0 | _ => script.length - left
            report ("-e expression #1, char " ++ toString place ++ ": " ++ fault.text)
            pure 1
        | .ok (commands, _) => do
            let silent := given.has 'n' || script.startsWith "#n\n"
            let texts ← (pathsRead commands).filterMapM (fun path => do
              match ← readPath path with
              | .ok text => pure (some (path, text))
              | .error _ => pure none)
            let (read, status) ← paths.foldlM
              (fun (read, status) path => do
                match ← readPath path with
                | .ok text => pure (read ++ [(path, text)], status)
                | .error .isDirectory => do
                    if given.has 'i' then
                      report ("couldn't edit " ++ path ++ ": not a regular file")
                    else report ("read error on " ++ path ++ ": " ++ SystemFault.isDirectory.text)
                    pure (read, 4)
                | .error fault => do
                    report ("can't read " ++ path ++ ": " ++ fault.text)
                    pure (read, 2))
              (([] : List (String × String)), 0)
            let carryOut (lines : List String) : Nat × Editing :=
              (runLines silent texts commands (10 * lines.length + 10) false).run { rest := lines }
            let writeFiles (files : List (String × String)) : Program Unit := do
              let paths := (files.map Prod.fst).eraseDups
              paths.forM (fun path => do
                let text := String.join ((files.filter (fun (own, _) => own == path)).map Prod.snd)
                if path = "/dev/stdout" then
                  let _ ← writeTo 1 text
                else
                  let _ ← writePath .write path text)
            if given.has 'i' then
              read.foldlM
                (fun status (path, text) => do
                  let (code, state) := carryOut (linesOf text)
                  writeFiles state.written
                  let _ ← writePath .write path (String.join state.output.reverse)
                  pure (max status code))
                status
            else do
              let lines := read.flatMap (fun (_, text) => linesOf text)
              let lines := match lines.reverse with
                | last :: before =>
                    (before.map (fun line => bareLine line ++ "\n")).reverse ++ [last]
                | [] => []
              let (code, state) := carryOut lines
              writeFiles state.written
              print (String.join state.output.reverse) (if code ≠ 0 then code else status))

end AssociationCheck.Shell.Tool
