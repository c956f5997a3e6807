/-
Programs.

A program is started with a name, arguments, variables, a directory and descriptors. It reads,
writes, changes files, and ends. Its arguments are options, which change what it does, and
operands, which say to what it is done.
-/

import AssociationCheck.Shell.Machine

namespace AssociationCheck.Shell

abbrev Program := ReaderT Surroundings Machine.Run

namespace Program

def surroundings : Program Surroundings := read

/-! ### Reading and writing -/

def writeTo (descriptor : Nat) (text : String) : Program (Except SystemFault Unit) := do
  match (← read).descriptors.lookup descriptor with
  | none => pure (.error .badDescriptor)
  | some channel => if text.isEmpty then pure (.ok ()) else Machine.write channel text

def complain (text : String) : Program Unit := do
  let _ ← writeTo 2 text
  pure ()

def report (text : String) : Program Unit := do
  complain ((← read).name ++ ": " ++ text ++ "\n")

/-- Writes to the output; a program that cannot do so says it and fails. -/
def print (text : String) (status : Nat) : Program Nat := do
  match ← writeTo 1 text with
  | .ok () => pure status
  | .error fault => do
      report ("write error: " ++ fault.text)
      pure 1

def readInput : Program (Except SystemFault String) := do
  match (← read).descriptors.lookup 0 with
  | none => pure (.error .badDescriptor)
  | some channel => Machine.readAll channel

/-- All that is at a path; a dash stands for the input. -/
def readPath (path : String) : Program (Except SystemFault String) := do
  if path = "-" then readInput
  else
    let surroundings ← read
    match ← Machine.openFile surroundings.directory surroundings.descriptors .read path with
    | .error fault => pure (.error fault)
    | .ok channel => Machine.readAll channel

def writePath (opening : Opening) (path text : String) : Program (Except SystemFault Unit) := do
  let surroundings ← read
  match ← Machine.openFile surroundings.directory surroundings.descriptors opening path with
  | .error fault => pure (.error fault)
  | .ok channel => if text.isEmpty then pure (.ok ()) else Machine.write channel text

def entry (path : String) : Program (Except SystemFault (Location × FileEntry)) := do
  Machine.entry (← read).directory path

/-- What is at a path that is not followed if it is a link. -/
def ownEntry (path : String) : Program (Except SystemFault (Location × FileEntry)) := do
  let files := (← getThe Machine).files
  let full := Machine.absolute (← read).directory path
  if full.endsWith "/" then entry path
  else
    match files.place full with
    | .error fault => pure (.error fault)
    | .ok location =>
        match files.at? location with
        | some entry => pure (.ok (location, entry))
        | none => pure (.error .notFound)

/-- The location that the last name of a path has, whether or not something is there. -/
def locate (path : String) : Program (Except SystemFault Location) := do
  pure ((← getThe Machine).files.place (Machine.absolute (← read).directory path))

def changeFiles (change : FileTree → FileTree) : Program Unit :=
  modifyThe Machine (fun machine => { machine with files := change machine.files })

end Program

/-! ### Lines -/

/-- The lines of a text, each with what ends it. -/
def linesOf (text : String) : List String :=
  let (lines, last) := text.toList.foldl
    (fun (lines, current) c =>
      if c = '\n' then (String.ofList (c :: current).reverse :: lines, [])
      else (lines, c :: current))
    (([] : List String), ([] : List Char))
  (if last.isEmpty then lines else String.ofList last.reverse :: lines).reverse

def bareLine (line : String) : String :=
  if line.endsWith "\n" then String.ofList line.toList.dropLast else line

def textOfLines (lines : List String) : String :=
  String.join (lines.map (· ++ "\n"))

def inParts {α : Type} (size : Nat) : Nat → List α → List (List α)
  | 0, _ => []
  | _, [] => []
  | fuel + 1, items => items.take size ::
      inParts size fuel (items.drop size)

/-! ### Options -/

structure Options where
  flags : String := ""
  /-- Letters that a value follows. -/
  valued : String := ""
  /-- Long names, the letters that they stand for, and whether a value follows. -/
  words : List (String × Char × Bool) := []
  /-- Whether options end at the first operand. -/
  first : Bool := false

inductive OptionFault
  | unknown (letter : Char)
  | unknownWord (word : String)
  | noValue (letter : Char)
  | noWordValue (word : String)
  | ambiguous (word : String)
  | needless (word : String)
  deriving DecidableEq, Repr

def OptionFault.text : OptionFault → String
  | unknown letter => "invalid option -- '" ++ letter.toString ++ "'"
  | unknownWord word => "unrecognized option '" ++ word ++ "'"
  | noValue letter => "option requires an argument -- '" ++ letter.toString ++ "'"
  | noWordValue word => "option '--" ++ word ++ "' requires an argument"
  | ambiguous word => "option '" ++ word ++ "' is ambiguous"
  | needless word => "option '--" ++ word ++ "' doesn't allow an argument"

structure Given where
  options : List (Char × String) := []
  operands : List String := []

namespace Given

def has (given : Given) (letter : Char) : Bool := given.options.any (fun (c, _) => c = letter)

def value? (given : Given) (letter : Char) : Option String :=
  (given.options.reverse.find? (fun (c, _) => c = letter)).map Prod.snd

end Given

namespace Options

/-- The letters of one argument; the last one may take its value from the next argument. -/
def readLetters (options : Options) :
    List Char → Except OptionFault (List (Char × String) × Option Char)
  | [] => .ok ([], none)
  | c :: rest =>
      if options.flags.toList.contains c then do
        let (more, open?) ← readLetters options rest
        pure ((c, "") :: more, open?)
      else if options.valued.toList.contains c then
        if rest.isEmpty then .ok ([], some c) else .ok ([(c, String.ofList rest)], none)
      else .error (.unknown c)

/-- A long name, which may be shortened. -/
def findWord (options : Options) (argument name : String) :
    Except OptionFault (String × Char × Bool) :=
  match options.words.find? (fun (word, _, _) => word = name) with
  | some found => .ok found
  | none =>
      match options.words.filter (fun (word, _, _) => word.startsWith name) with
      | [found] => .ok found
      | [] => .error (.unknownWord argument)
      | _ => .error (.ambiguous argument)

def readFrom (options : Options) : Nat → List String → Except OptionFault Given
  | 0, _ => .ok {}
  | _, [] => .ok {}
  | fuel + 1, argument :: rest => do
      if argument = "--" then pure { operands := rest }
      else if argument.startsWith "--" then
        let text := String.ofList (argument.toList.drop 2)
        let name := String.ofList (text.toList.takeWhile (· ≠ '='))
        let (word, letter, valued) ← options.findWord argument name
        let joined := name.length < text.length
        if valued then
          if joined then
            let value := String.ofList (text.toList.drop (name.length + 1))
            let given ← readFrom options fuel rest
            pure { given with options := (letter, value) :: given.options }
          else
            match rest with
            | value :: rest =>
                let given ← readFrom options fuel rest
                pure { given with options := (letter, value) :: given.options }
            | [] => .error (.noWordValue word)
        else if joined then .error (.needless word)
        else
          let given ← readFrom options fuel rest
          pure { given with options := (letter, "") :: given.options }
      else if argument.startsWith "-" && argument ≠ "-" then
        let (letters, open?) ← options.readLetters (argument.toList.drop 1)
        match open?, rest with
        | some letter, value :: rest =>
            let given ← readFrom options fuel rest
            pure { given with options := letters ++ (letter, value) :: given.options }
        | some letter, [] => .error (.noValue letter)
        | none, _ =>
            let given ← readFrom options fuel rest
            pure { given with options := letters ++ given.options }
      else if options.first then pure { operands := argument :: rest }
      else
        let given ← readFrom options fuel rest
        pure { given with operands := argument :: given.operands }

def read (options : Options) (arguments : List String) : Except OptionFault Given :=
  options.readFrom (arguments.length + 1) arguments

end Options

namespace Program

def tryHelp : Program Unit := do
  complain ("Try '" ++ (← read).name ++ " --help' for more information.\n")

def misused (text : String) (status : Nat) : Program Nat := do
  report text
  tryHelp
  pure status

def withOptions (options : Options) (status : Nat) (body : Given → Program Nat) : Program Nat := do
  match options.read (← read).arguments with
  | .error fault => misused fault.text status
  | .ok given => body given

def quoted (text : String) : String := "'" ++ text ++ "'"

/-- Goes on with the text of each path; one that cannot be read is reported, and the program fails
in the end. -/
def eachText (paths : List String) (report : String → SystemFault → Program Unit)
    (body : String → String → Program Unit) : Program Nat := do
  paths.foldlM
    (fun status path => do
      match ← readPath path with
      | .ok text => do
          body path text
          pure status
      | .error fault => do
          report path fault
          pure 1)
    0

def unreadable (path : String) (fault : SystemFault) : Program Unit :=
  report (path ++ ": " ++ fault.text)

end Program

end AssociationCheck.Shell
