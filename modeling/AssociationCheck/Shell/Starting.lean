/-
Starting programs.

The system starts a file that is executable: a program of its own, or a script whose first line
names the program that carries it out. Shells are programs too; their arguments say what they
carry out.
-/

import AssociationCheck.Shell.Evaluation
import AssociationCheck.Shell.Tool.Comparing
import AssociationCheck.Shell.Tool.Copying
import AssociationCheck.Shell.Tool.Editing
import AssociationCheck.Shell.Tool.Finding
import AssociationCheck.Shell.Tool.Searching
import AssociationCheck.Shell.Tool.Shaping
import AssociationCheck.Shell.Tool.Sorting
import AssociationCheck.Shell.Tool.Telling

namespace AssociationCheck.Shell

/-! ### Shells -/

inductive Source
  | text (text : String)
  | script (path : String)
  | input

namespace Execution

/-- Reads the options of a shell; gives the other arguments, and whether the first of them is a
text or the input is wanted. -/
def shellOptions : Nat → List String → Execution (List String × Bool × Bool)
  | 0, arguments => pure (arguments, false, false)
  | _, [] => pure ([], false, false)
  | fuel + 1, argument :: rest => do
      let letters := argument.toList.drop 1
      if argument = "--" || argument = "-" then pure (rest, false, false)
      else if (argument.startsWith "-" || argument.startsWith "+") && !letters.isEmpty then
        let on := argument.startsWith "-"
        let extended ← isExtended
        if extended && ["--norc", "--noprofile", "--posix", "--login"].contains argument then
          shellOptions fuel rest
        else
          let (rest, isText, isInput) ← letters.foldlM
            (fun (rest, isText, isInput) letter => do
              if letter = 'c' then pure (rest, true, isInput)
              else if letter = 's' then pure (rest, isText, true)
              else if letter = 'o' then
                match rest with
                | name :: others => do
                    setNamedOption name on
                    pure (others, isText, isInput)
                | [] => pure ([], isText, isInput)
              else if letter = 'l' ||
                  (optionLettersKnown (← process).dialect).contains letter then do
                setOption letter on
                pure (rest, isText, isInput)
              else if extended then do
                writeError ((← process).script ++ ": " ++ argument ++ ": invalid option\n")
                throw (.leave 2)
              else fail ("Illegal option " ++ (if on then "-" else "+") ++ letter.toString))
            (rest, false, false)
          let (others, laterText, laterInput) ← shellOptions fuel rest
          pure (others, isText || laterText, isInput || laterInput)
      else pure (argument :: rest, false, false)

def sourceOf (arguments : List String) : Execution Source := do
  let (rest, isText, isInput) ← shellOptions (arguments.length + 1) arguments
  let put (script : String) (arguments : List String) : Execution Unit :=
    changeProcess (fun process => { process with script := script, arguments := arguments })
  let name := (← process).script
  if isText then
    match rest with
    | [] =>
        if ← isExtended then do
          writeError (name ++ ": -c: option requires an argument\n")
          throw (.leave 2)
        else fail "-c requires an argument"
    | text :: rest => do
        put (rest.headD name) (rest.drop 1)
        pure (.text text)
  else
    match isInput, rest with
    | false, path :: arguments => do
        put path arguments
        pure (.script path)
    | _, arguments => do
        put name arguments
        pure .input

def scriptText (name path : String) : Execution String := do
  let process ← process
  match ← onMachine (Machine.openFile process.directory process.descriptors .read path) with
  | .error fault => do
      if process.dialect == .extended then do
        writeError (name ++ ": " ++ path ++ ": " ++ fault.text ++ "\n")
        throw (.leave 127)
      else do
        changeProcess (fun process => { process with script := name })
        fail ("cannot open " ++ path ++ ": " ++
          (if fault == .notFound || fault == .notDirectory then "No such file" else fault.text))
  | .ok channel => do
      match ← onMachine (Machine.readAll channel) with
      | .ok text => pure text
      | .error fault => do
          if process.dialect == .extended then do
            writeError (path ++ ": " ++ path ++ ": " ++ fault.text ++ "\n")
            throw (.leave 126)
          else pure ""

def main (inner : Inner) (name : String) (arguments : List String) : Execution Nat := do
  let source : SourceText ←
    match ← sourceOf arguments with
    | .text text => do
        if ← isExtended then setOption 'c' true
        pure { text := text, called := some "-c" }
    | .script path => do
        let text ← scriptText name path
        changeProcess (fun process => { process with frames := [("main", process.script)] })
        pure { text := text }
    | .input => do
        match (← process).descriptors.lookup 0 with
        | some channel => do
            pure { text := ((← onMachine (Machine.readAll channel)).toOption).getD "" }
        | none => pure { text := "" }
  changeProcess (fun process => { process with line := 1 })
  let status ← runSource inner false source
  receiveAll inner
  pure status

end Execution

def extendedVariables : List (String × String) :=
  [ ("PATH", "/usr/local/sbin:/usr/local/bin:/usr/sbin:/usr/bin:/sbin:/bin"),
    ("BASH", "/usr/bin/bash"), ("BASH_VERSION", "5.2.15(1)-release"), ("UID", "0"), ("EUID", "0"),
    ("OSTYPE", "linux-gnu"), ("HOSTTYPE", "x86_64"), ("MACHTYPE", "x86_64-pc-linux-gnu"),
    ("OPTERR", "1"), ("PS4", "+ ") ]

/-- The options and switches of the larger language that are on from the start. -/
def extendedOptions : List Char := ['h', 'B', '4']

def extendedSwitches : List String :=
  ["checkwinsize", "cmdhist", "complete_fullquote", "extquote", "force_fignore", "globasciiranges",
    "globskipdots", "hostcomplete", "interactive_comments", "patsub_replacement", "progcomp",
    "promptvars", "sourcepath"]

def Process.ofSurroundings (dialect : Dialect) (files : FileTree) (surroundings : Surroundings) :
    Process :=
  let imported := (surroundings.environment.filter (fun (name, _) => isName name)).map
    (fun (name, value) => (name, ({ value := some value, exported := true } : Variable)))
  let physical := Text.octetsOf (pathOf surroundings.directory)
  let given := (surroundings.environment.lookup "PWD").getD ""
  let logical :=
    match files.entry (Text.textOfOctets given) with
    | .ok (location, _) =>
        if given.startsWith "/" && location == surroundings.directory then given else physical
    | .error _ => physical
  let put (bindings : List (String × Variable)) (name value : String) (exported : Bool) :
      List (String × Variable) :=
    bindings.filter (fun (own, _) => own != name) ++
      [(name, { value := some value, exported := exported })]
  let bindings := put imported "PWD" logical true
  let bindings := put bindings "OPTIND" "1" false
  let bindings := put bindings "PPID" (toString surroundings.starter) false
  let bindings := put bindings "IFS" " \t\n" false
  let bindings :=
    match dialect with
    | .standard => bindings
    | .extended =>
        let level := ((surroundings.environment.lookup "SHLVL").bind String.toNat?).getD 0
        let usual := extendedVariables.filter (fun (name, _) => (bindings.lookup name).isNone)
        usual.foldl (fun bindings (name, value) => put bindings name value false)
          (put bindings "SHLVL" (toString (level + 1)) true)
  { dialect := dialect
    number := surroundings.number
    shell := surroundings.number
    starter := surroundings.starter
    script := surroundings.name
    bindings := bindings
    directory := surroundings.directory
    logical := logical
    ignored := surroundings.ignored
    options := match dialect with | .standard => [] | .extended => extendedOptions
    switches := match dialect with | .standard => [] | .extended => extendedSwitches
    descriptors := surroundings.descriptors
    line := 0 }

def shell (inner : Inner) (dialect : Dialect) : Program ExitStatus :=
  fun surroundings => do
    let machine ← get
    let process := Process.ofSurroundings dialect machine.files surroundings
    let run := Execution.toEnd inner (Execution.main inner surroundings.name surroundings.arguments)
    let (ended, state) := (run.run).run { machine := machine, process := process }
    set state.machine
    match ended with
    | .ok ended => pure ended
    | .error stop => pure (Execution.endOf stop).1

/-! ### Programs by their names -/

def tools : List (String × Program Nat) :=
  [ ("[", Tool.test), ("arch", Tool.tellLine "x86_64"), ("base64", Tool.base64),
    ("basename", Tool.basename), ("cat", Tool.cat), ("chgrp", Tool.paired),
    ("chmod", Tool.chmod), ("chown", Tool.paired),
    ("cmp", Tool.cmp), ("comm", Tool.comm), ("cp", Tool.cp), ("cut", Tool.cut),
    ("date", Tool.date), ("dd", Tool.dd), ("diff", Tool.diff), ("dirname", Tool.dirname),
    ("echo", Tool.echo), ("egrep", Tool.grepWith true false), ("expand", Tool.expand),
    ("expr", Tool.expr), ("factor", Tool.factor), ("false", pure 1),
    ("fgrep", Tool.grepWith false true), ("fold", Tool.fold), ("grep", Tool.grep),
    ("groups", Tool.groups), ("head", Tool.head), ("hostname", Tool.tellLine "localhost"),
    ("id", Tool.id), ("install", Tool.install), ("kill", Tool.kill), ("link", Tool.link),
    ("ln", Tool.ln), ("ls", Tool.ls), ("mkdir", Tool.mkdir), ("mktemp", Tool.mktemp),
    ("mv", Tool.mv), ("nl", Tool.nl), ("nproc", Tool.tellLine "1"), ("od", Tool.od),
    ("paste", Tool.paste), ("printenv", Tool.printenv), ("printf", Tool.printf),
    ("pwd", Tool.pwd), ("readlink", Tool.readlink), ("realpath", Tool.realpath), ("rm", Tool.rm),
    ("rmdir", Tool.rmdir), ("sed", Tool.sed), ("seq", Tool.seq), ("shuf", Tool.shuf),
    ("sleep", Tool.sleep), ("sort", Tool.sort), ("stat", Tool.stat), ("sync", pure 0),
    ("tac", Tool.tac), ("tail", Tool.tail), ("tee", Tool.tee), ("test", Tool.test),
    ("touch", Tool.touch), ("tr", Tool.tr), ("true", pure 0), ("truncate", Tool.truncate),
    ("tty", Tool.tty), ("uname", Tool.uname), ("unexpand", Tool.unexpand), ("uniq", Tool.uniq),
    ("unlink", Tool.unlink), ("wc", Tool.wc), ("which", Tool.which),
    ("whoami", Tool.tellLine Tool.userName), ("yes", Tool.yes) ]

def runSystem (inner : Inner) (name : String) : Program ExitStatus := do
  match name with
  | "sh" => shell inner .standard
  | "dash" => shell inner .standard
  | "bash" => shell inner .extended
  | "env" => Tool.env inner.start
  | "find" => do pure (.code (← Tool.find inner.start))
  | "nice" => Tool.nice inner.start
  | "nohup" => Tool.nohup inner.start
  | "stdbuf" => Tool.stdbuf inner.start
  | "timeout" => Tool.timeout inner.start
  | "xargs" => Tool.xargs inner.start
  | _ =>
      match tools.lookup name with
      | some tool => do pure (.code (← tool))
      | none => pure (.code 0)

/-! ### Files that are started -/

/-- The program and the argument that the first line of a script names. -/
def interpreterOf (bytes : List UInt8) : Option (String × Option String) :=
  let isBlank (c : Char) : Bool := c = ' ' || c = '\t'
  match (bytes.take 256).map (fun byte => Char.ofNat byte.toNat) with
  | '#' :: '!' :: rest =>
      let line := rest.takeWhile (fun c => c ≠ '\n')
      let ended := line.length < rest.length || bytes.length < 256
      let trimmed := ((line.dropWhile isBlank).reverse.dropWhile isBlank).reverse
      let trimmed := trimmed.takeWhile (fun c => c ≠ Char.ofNat 0)
      let name := trimmed.takeWhile (fun c => !isBlank c)
      let argument := (trimmed.drop name.length).dropWhile isBlank
      if name.isEmpty || (!ended && name.length = trimmed.length) then none
      else
        some (String.ofList name,
          if argument.isEmpty then none else some (String.ofList argument))
  | _ => none

/-- The number of scripts that may lead from one to the next. -/
def scriptLimit : Nat := 5

/-- Starts the file at a path; a script is started through its program. -/
def startFile (inner : Inner) : Nat → Starter
  | 0, _, _ => pure (.error .tooManyLinks)
  | scripts + 1, path, surroundings => do
      match ← Machine.entry surroundings.directory path with
      | .error fault => pure (.error fault)
      | .ok (_, entry) =>
          match entry with
          | .directory => pure (.error .permissionDenied)
          | .program name => do pure (.ok (← runSystem inner name surroundings))
          | .file file =>
              if !file.executable then pure (.error .permissionDenied)
              else
                match interpreterOf file.bytes with
                | none => pure (.error .notExecutable)
                | some (interpreter, argument) =>
                    startFile inner scripts interpreter
                      { surroundings with
                        name := interpreter
                        arguments := argument.toList ++ path :: surroundings.arguments }
          | _ => pure (.error .permissionDenied)

/-! ### The depth of it all -/

/-- How things are carried out, so many levels deep. -/
def levels : Nat → Inner
  | 0 =>
      { command := fun _ _ => throw .exhausted
        glyphs := fun _ _ _ => throw .exhausted
        start := fun _ _ => pure (.ok (.signal ⟨11⟩)) }
  | depth + 1 =>
      { command := fun tested command => Execution.carryOut (levels depth) tested command
        glyphs := fun several splits word =>
          Execution.wordGlyphs (levels depth) several splits word
        start := fun path surroundings =>
          startFile (levels depth) scriptLimit path surroundings }

def levelLimit : Nat := 8000

def start (path : String) (surroundings : Surroundings) :
    Machine.Run (Except SystemFault ExitStatus) :=
  (levels levelLimit).start path surroundings

end AssociationCheck.Shell
