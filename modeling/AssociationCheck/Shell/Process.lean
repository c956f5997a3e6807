/-
A shell that runs.

A shell keeps variables, functions, options and descriptors while it carries out a script. It
shares the machine with the programs that it starts. Carrying out a command changes both, and may
come to a stop: the end of the shell, of a loop or of a function, or a fault that ends the shell
unless a command catches it.
-/

import AssociationCheck.Power
import AssociationCheck.Shell.Grammar
import AssociationCheck.Shell.Program

namespace AssociationCheck.Shell

inductive Shape
  | single
  /-- Items in the order of their numbers. -/
  | row
  /-- Items by their names. -/
  | table
  deriving DecidableEq, Repr

structure Variable where
  shape : Shape := .single
  value : Option String := none
  items : List (String × String) := []
  exported : Bool := false
  readOnly : Bool := false
  /-- Whether values are worked out. -/
  whole : Bool := false
  deriving DecidableEq, Repr

namespace Variable

/-- The place of a name in a table: a product over its characters, which are mixed in one after
the other, of which ten bits are kept. -/
def bucket (name : String) : Nat :=
  (name.toList.foldl (fun mixed c => (mixed * 16777619 % twoTo 32) ^^^ c.toNat) 2166136261) % 1024

def ordered (held : Variable) : List (String × String) :=
  match held.shape with
  | .single => (held.value.map (fun value => ("0", value))).toList
  | .row => held.items
  | .table =>
      held.items.mergeSort (fun first second => bucket first.1 ≤ bucket second.1)

/-- The name by which an item is kept. Numbers below zero count from the end of a row. -/
def key (held : Variable) (name : String) : String :=
  match held.shape, name.toInt? with
  | .table, _ => name
  | _, some number =>
      if number < 0 then
        let last := (held.ordered.getLast?.bind (fun item => item.1.toNat?)).getD 0
        toString (last + 1 + number)
      else toString number
  | _, none => name

def item? (held : Variable) (name : String) : Option String :=
  held.ordered.lookup (held.key name)

def first? (held : Variable) : Option String := held.item? "0"

def withItem (held : Variable) (name value : String) : Variable :=
  let key := held.key name
  match held.shape with
  | .table =>
      { held with items := (key, value) :: held.items.filter (fun (own, _) => own != key) }
  | _ =>
      let number := key.toNat?.getD 0
      let before := held.ordered.filter (fun (own, _) => own.toNat?.getD 0 < number)
      let after := held.ordered.filter (fun (own, _) => own.toNat?.getD 0 > number)
      { held with shape := .row, value := none, items := before ++ (key, value) :: after }

def withoutItem (held : Variable) (name : String) : Variable :=
  let key := held.key name
  { held with items := held.items.filter (fun (own, _) => own != key) }

/-- Adds items; those without a name follow the one before. -/
def withItems (held : Variable) (items : List (Option String × String)) : Variable :=
  let start := match held.shape with
    | .row => ((held.items.getLast?.bind (fun item => item.1.toNat?)).map (· + 1)).getD 0
    | _ => 0
  (items.foldl
    (fun (held, next) (name?, value) =>
      let name := name?.getD (toString next)
      (held.withItem name value, ((held.key name).toNat?.getD next) + 1))
    (held, start)).1

def emptied (held : Variable) : Variable :=
  { held with
    shape := if held.shape = .table then .table else .row, value := none, items := [] }

end Variable

structure Function where
  body : Command
  source : String

structure Process where
  dialect : Dialect := .standard
  /-- The number of the program that carries this out. -/
  number : Nat := 0
  /-- The number of the shell, also in what it sets apart. -/
  shell : Nat := 0
  starter : Nat := 0
  script : String := "sh"
  arguments : List String := []
  bindings : List (String × Variable) := []
  functions : List (String × Function) := []
  aliases : List (String × String) := []
  directory : Location := []
  /-- The path of the directory as it was reached. -/
  logical : String := "/"
  options : List Char := []
  /-- Switches of the larger language that are on. -/
  switches : List String := []
  /-- Directories to come back to, the last one first. -/
  back : List String := []
  status : Nat := 0
  lastAside : Option Nat := none
  asides : List (Nat × Nat) := []
  /-- What is done on a signal, by its number; zero stands for the end of the shell. -/
  traps : List (Nat × String) := []
  /-- Signals that were ignored when the shell was started. -/
  ignored : List Signal := []
  descriptors : List (Nat × Nat) := []
  line : Nat := 1
  /-- The line up to which the script has been read. -/
  lineRead : Nat := 1
  /-- The command that faults are reported for. -/
  blamed : Option String := none
  documents : List (Nat × Word) := []
  /-- The number of the next lines that a command takes from a script. -/
  nextDocument : Nat := 0
  /-- The variables that functions hide, the last call first. -/
  hidden : List (List (String × Option Variable)) := []
  /-- The functions and scripts that are being carried out, the last one first. -/
  frames : List (String × String) := []
  /-- How many shells have been set apart one inside of the other for their output. -/
  depth : Nat := 0
  /-- The statuses of the stages of the last pipeline. -/
  stages : List Nat := []
  loops : Nat := 0
  /-- How the last list of commands ended whose output was taken. -/
  outputStatus : Option Nat := none
  /-- The next argument and letter in which options are looked for. -/
  optionPlace : Nat := 1
  letterPlace : Nat := 1
  /-- The permissions that new files lack. -/
  mask : Nat := 18

inductive Stop
  | leave (status : Nat)
  | killed (signal : Signal)
  | breakLoop (count : Nat)
  | continueLoop (count : Nat)
  | returned (status : Nat)
  /-- A fault that has been reported. -/
  | fault (status : Nat)
  /-- The end of a program that has taken the place of the shell. -/
  | replaced (ended : ExitStatus)
  | exhausted
  deriving DecidableEq, Repr

structure ShellState where
  machine : Machine
  process : Process

abbrev Execution := ExceptT Stop (StateM ShellState)

/-- A piece of what the value of a word is made of. -/
inductive Glyph
  /-- A character, whether it was quoted, and whether the word is split at it if it separates. -/
  | char (c : Char) (quoted splits : Bool)
  /-- Quotes, which make a word even if nothing stands between them. -/
  | mark
  /-- The end of one word and the start of the next. -/
  | edge
  /-- No word at all, in spite of quotes. -/
  | void
  deriving DecidableEq, Repr

/-- How commands are carried out, and words take their value, inside of others. -/
structure Inner where
  /-- A command; one that is tested may fail. -/
  command : (tested : Bool) → Command → Execution Nat
  /-- A word, where several words may come of it or not, and whether its own text is split. -/
  glyphs : (several splits : Bool) → Word → Execution (List Glyph)
  /-- Starts the program at a path and waits for its end. -/
  start : String → Surroundings → Machine.Run (Except SystemFault ExitStatus)

def Process.source (process : Process) : String :=
  match process.dialect, process.frames with
  | .extended, (_, source) :: _ => source
  | _, _ => process.script

namespace Execution

def process : Execution Process := do pure (← getThe ShellState).process

def machine : Execution Machine := do pure (← getThe ShellState).machine

def setProcess (process : Process) : Execution Unit :=
  modifyThe ShellState (fun state => { state with process := process })

def changeProcess (change : Process → Process) : Execution Unit :=
  modifyThe ShellState (fun state => { state with process := change state.process })

def onMachine {α : Type} (run : Machine.Run α) : Execution α := do
  let state ← getThe ShellState
  let (value, machine) := run.run state.machine
  modifyThe ShellState (fun state => { state with machine := machine })
  pure value

def hasOption (letter : Char) : Execution Bool := do pure ((← process).options.contains letter)

def isExtended : Execution Bool := do pure ((← process).dialect == .extended)

def setStatus (status : Nat) : Execution Unit :=
  changeProcess (fun process => { process with status := status })

/-! ### Output and faults -/

def writeTo (descriptor : Nat) (text : String) : Execution Bool := do
  match (← process).descriptors.lookup descriptor with
  | none => pure false
  | some channel =>
      if text.isEmpty then pure true
      else
        match ← onMachine (Machine.write channel text) with
        | .ok () => pure true
        | .error _ => pure false

def writeError (text : String) : Execution Unit := do
  let _ ← writeTo 2 text
  pure ()

def reportFor (blamed : Option String) (text : String) : Execution Unit := do
  let process ← process
  let line := toString process.line
  let place :=
    match process.dialect with
    | .standard => line
    | .extended => "line " ++ line
  let blame :=
    match blamed with
    | some command => command ++ ": "
    | none => ""
  writeError (process.source ++ ": " ++ place ++ ": " ++ blame ++ text ++ "\n")

def report (text : String) : Execution Unit := do
  reportFor (← process).blamed text

def fail {α : Type} (text : String) : Execution α := do
  report text
  throw (.fault (if ← isExtended then 1 else 2))

def warn (status : Nat) (text : String) : Execution Nat := do
  report text
  pure status

/-! ### Variables -/

def held? (name : String) : Execution (Option Variable) := do
  pure ((← process).bindings.lookup name)

/-- The value of a variable, or that of its first item. -/
def value? (name : String) : Execution (Option String) := do
  pure ((← held? name).bind Variable.first?)

def putVariable (name : String) (held : Variable) : Execution Unit :=
  changeProcess (fun process =>
    let bindings :=
      if (process.bindings.lookup name).isSome then
        process.bindings.map (fun entry => if entry.1 == name then (name, held) else entry)
      else process.bindings ++ [(name, held)]
    { process with bindings := bindings })

def dropVariable (name : String) : Execution Unit :=
  changeProcess (fun process =>
    { process with bindings := process.bindings.filter (fun (own, _) => own != name) })

def changeable (name : String) : Execution Variable := do
  let found := (← held? name).getD {}
  if found.readOnly then
    fail (name ++ (if ← isExtended then ": readonly variable" else ": is read only"))
  else pure found

def give (name value : String) : Execution Unit := do
  let found ← changeable name
  let exported := found.exported || (← hasOption 'a')
  if name = "OPTIND" then
    changeProcess (fun process =>
      { process with optionPlace := value.toNat?.getD 1, letterPlace := 1 })
  match found.shape with
  | .single => putVariable name { found with value := some value, exported := exported }
  | _ => putVariable name (found.withItem "0" value)

def giveItem (name item value : String) : Execution Unit := do
  putVariable name ((← changeable name).withItem item value)

/-- Gives a name items, in the place of the old ones or in addition to them. -/
def giveItems (name : String) (adds : Bool) (items : List (Option String × String)) :
    Execution Unit := do
  let found ← changeable name
  let found :=
    if !adds then found.emptied
    else
      match found.shape, found.value with
      | .single, some value => found.emptied.withItem "0" value
      | .single, none => found.emptied
      | _, _ => found
  putVariable name (found.withItems items)

def giveRow (name : String) (values : List String) : Execution Unit :=
  giveItems name false (values.map (fun value => (none, value)))

def separators : Execution String := do
  match ← held? "IFS" with
  | some found => pure (found.value.getD " \t\n")
  | none => pure " \t\n"

def exported : Execution (List (String × String)) := do
  pure ((← process).bindings.filterMap (fun (name, held) =>
    if held.exported then held.value.map (fun value => (name, value)) else none))

/-! ### Descriptors -/

def setDescriptor (descriptor : Nat) (channel : Option Nat) : Execution Unit :=
  changeProcess (fun process =>
    let others := process.descriptors.filter (fun (own, _) => own ≠ descriptor)
    { process with
      descriptors :=
        match channel with
        | some channel => (descriptor, channel) :: others
        | none => others })

/-- Carries something out and puts back the descriptors that there were. -/
def restoring {α : Type} (descriptors : List (Nat × Nat)) (run : Execution α) : Execution α := do
  try
    let value ← run
    changeProcess (fun process => { process with descriptors := descriptors })
    pure value
  catch stop => do
    changeProcess (fun process => { process with descriptors := descriptors })
    throw stop

/-! ### Starting programs -/

def surroundings (name : String) (arguments : List String) (environment : List (String × String))
    (number : Nat) : Execution Surroundings := do
  let process ← process
  pure
    { name := name
      arguments := arguments
      environment := environment
      directory := process.directory
      descriptors := process.descriptors
      number := number
      starter := process.number
      ignored := process.ignored ++ process.traps.filterMap (fun (number, action) =>
        if action.isEmpty then some ⟨number⟩ else none) }

/-- Runs a program that needs nothing of the shell but its descriptors. -/
def program (name : String) (arguments : List String) (run : Program Nat) : Execution Nat := do
  let started ← surroundings name arguments [] 0
  onMachine (run.run started)

end Execution

end AssociationCheck.Shell
