/-
Simple commands.

A simple command takes the values of its words, its redirections and its assignments, and then
calls what its first word stands for: a function, a command of the shell itself, or a program.
-/

import AssociationCheck.Shell.Builtin
import AssociationCheck.Shell.Redirecting
import AssociationCheck.Shell.Tracing

namespace AssociationCheck.Shell

namespace Execution

/-! ### Assignments -/

/-- The key of an item: the text of a word for tables, and a number otherwise. -/
def itemKey (inner : Inner) (isTable : Bool) (word : Word) : Execution String := do
  let text ← textOf inner word
  if isTable then pure text else do pure (toString (← evaluateText text))

def listItems (inner : Inner) (isTable : Bool) (items : List (Option Word × Word)) :
    Execution (List (Option String × String)) := do
  let rows ← items.mapM (fun (key, word) => do
    match key with
    | some key => do
        let key ← itemKey inner isTable key
        pure [(some key, ← valueText inner word)]
    | none => do pure ((← fieldsOf inner word).map (fun field => (none, field))))
  pure rows.flatten

def newValue (held : Variable) (adds : Bool) (old text : String) : Execution String := do
  if held.whole then do
    pure (toString (← evaluateText (if adds then old ++ "+(" ++ text ++ ")" else text)))
  else pure (if adds then old ++ text else text)

def assign (inner : Inner) : Assignment → Execution String
  | .value name index adds word => do
      let text ← valueText inner word
      let held := (← held? name).getD {}
      let sign := if adds then "+" else ""
      let shown := shownAssignment (← isExtended) (name ++ sign) text
      if index.isEmpty then
        give name (← newValue held adds (held.first?.getD "") text)
        pure shown
      else
        let key ← itemKey inner (held.shape = .table) index
        giveItem name key (← newValue held adds ((held.item? key).getD "") text)
        pure (shownAssignment true (name ++ "[" ++ key ++ "]" ++ sign) text)
  | .list name adds items => do
      let held := (← held? name).getD {}
      let items ← listItems inner (held.shape = .table) items
      giveItems name adds items
      let shown := items.map (fun (key, value) =>
        ((key.map (fun key => "[" ++ key ++ "]=")).getD "") ++ shownText value)
      pure (name ++ (if adds then "+=(" else "=(") ++ String.intercalate " " shown ++ ")")

def assignedValues (inner : Inner) (assignments : List Assignment) :
    Execution (List (String × String)) :=
  assignments.filterMapM (fun assignment => do
    match assignment with
    | .value name _ adds word => do
        let text ← valueText inner word
        let old := (← value? name).getD ""
        pure (some (name, if adds then old ++ text else text))
    | .list _ _ _ => pure none)

def putBack (old : List (String × Option Variable)) : Execution Unit :=
  old.forM (fun (name, held) =>
    match held with
    | some held => putVariable name held
    | none => dropVariable name)

/-- Carries something out while names have other values, which programs see. -/
def withValues {α : Type} (values : List (String × String)) (run : Execution α) : Execution α := do
  let old ← (values.map Prod.fst).eraseDups.mapM (fun name => do pure (name, ← held? name))
  let extended ← isExtended
  values.forM (fun (name, value) => do
    try
      give name value
      let held := (← held? name).getD {}
      putVariable name { held with exported := true }
    catch stop =>
      match stop, extended with
      | .fault _, true => pure ()
      | stop, _ => throw stop)
  try
    let result ← run
    putBack old
    pure result
  catch stop => do
    putBack old
    throw stop

/-! ### Calls -/

def callFunction (inner : Inner) (tested : Bool) (name : String) (function : Function)
    (arguments : List String) : Execution Nat := do
  let old ← process
  if old.hidden.length ≥ 1000 then fail "Maximum function recursion depth (1000) reached"
  else
    changeProcess (fun process =>
      { process with
        arguments := arguments, hidden := [] :: process.hidden, loops := 0
        frames := (name, function.source) :: process.frames, blamed := none
        optionPlace := 1, letterPlace := 1 })
    let restore : Execution Unit := do
      let hidden := (← process).hidden
      putBack (hidden.headD [])
      changeProcess (fun process =>
        { process with
          arguments := old.arguments, hidden := hidden.drop 1, loops := old.loops
          frames := old.frames, blamed := old.blamed
          optionPlace := old.optionPlace, letterPlace := old.letterPlace })
    try
      let status ← inner.command tested function.body
      restore
      pure status
    catch stop => do
      restore
      match stop with
      | .returned status => pure status
      | stop => throw stop

/-- What is said of a program that cannot be started, and the status that it stands for. -/
def startingFault (extended : Bool) (name : String) (fault : SystemFault) : String × Nat :=
  let missing := fault == .notFound || fault == .notDirectory
  let status := if missing || fault == .nameTooLong || fault == .tooManyLinks then 127 else 126
  (name ++ ": " ++ (if missing && !extended then "not found" else fault.text), status)

def startProgram (inner : Inner) (name path : String) (arguments : List String) :
    Execution (Except SystemFault ExitStatus) := do
  let number ← onMachine Machine.newProgram
  let last := if ← isExtended then [("_", path)] else []
  let started ← surroundings name arguments ((← exported) ++ last) number
  match ← onMachine (inner.start path started) with
  | .error .notExecutable =>
      let shell := if ← isExtended then "/bin/bash" else "/bin/sh"
      onMachine (inner.start shell { started with name := shell, arguments := path :: arguments })
  | result => pure result

/-- The path of a program, or the status of a command that is none. -/
def programOr (path name : String) : Execution (Except Nat String) := do
  if name.toList.contains '/' then pure (.ok name)
  else
    match ← programPath? path name with
    | some path => pure (.ok path)
    | none => do
        if ← isExtended then pure (.error (← warn 127 (name ++ ": command not found")))
        else if name.isEmpty then pure (.error (← warn 127 ": Permission denied"))
        else pure (.error (← warn 127 (name ++ ": not found")))

def callProgram (inner : Inner) (path name : String) (arguments : List String) :
    Execution Nat := do
  match ← programOr path name with
  | .error status => pure status
  | .ok found => do
      match ← startProgram inner name found arguments with
      | .ok ended => do
          let status ← seen ended
          receiveAll inner
          pure status
      | .error fault => do
          let extended ← isExtended
          let isDirectory := (← machine).files.isDirectory
            (Machine.absolute (← process).directory found)
          let fault := if extended && isDirectory then .isDirectory else fault
          let (text, status) := startingFault extended name fault
          warn status text

def replaceBy (inner : Inner) (arguments : List String) : Execution Nat := do
  match arguments with
  | [] => pure 0
  | name :: arguments => do
      let path := (← value? "PATH").getD ""
      if (← isExtended) && (← programPath? path name).isNone then do
        report (name ++ ": not found")
        throw (.leave 127)
      match ← programOr path name with
      | .error status => throw (.leave status)
      | .ok found => do
          match ← startProgram inner name found arguments with
          | .ok ended => throw (.replaced ended)
          | .error fault => do
              let (text, status) := startingFault (← isExtended) name fault
              report text
              throw (.leave status)

def blaming {α : Type} (name : String) (run : Execution α) : Execution α := do
  let old := (← process).blamed
  let restore : Execution Unit :=
    changeProcess (fun process => { process with blamed := old })
  changeProcess (fun process => { process with blamed := some name })
  try
    let result ← run
    restore
    pure result
  catch stop => do
    restore
    throw stop

def caught (run : Execution Nat) : Execution Nat := do
  try run
  catch stop =>
    match stop with
    | .fault status => pure status
    | stop => throw stop

/-! ### Simple commands -/

def assignmentWord? (word : Word) : Option (String × Word) :=
  match word with
  | .text false chars :: rest =>
      let name := chars.toList.takeWhile isNamePart
      match chars.toList.drop name.length with
      | '=' :: value =>
          if isName (String.ofList name) then
            some (String.ofList name ++ "=",
              if value.isEmpty then rest else .text false (String.ofList value) :: rest)
          else none
      | _ => none
  | _ => none

/-- The words of a simple command. -/
def commandFields (inner : Inner) (words : List Word) : Execution (List String) := do
  let plain := words.map plainText?
  let name := if plain.head? == some (some "command") then (plain.drop 1).head? else plain.head?
  let declaring := ((name.bind id).map declares).getD false
  let fields ← words.mapM (fun word => do
    match declaring, assignmentWord? word with
    | true, some (start, value) => do pure [start ++ (← valueText inner value)]
    | _, _ => fieldsOf inner word)
  pure fields.flatten

/-- A call: what is called, with what, and whether functions and the effects of special commands
are left aside. -/
structure Call where
  name : String
  arguments : List String
  lists : List GivenList := []
  plain : Bool := false
  usualPath : Bool := false
  /-- Whether only a command of the shell itself is meant. -/
  builtinOnly : Bool := false

def callOf (extended : Bool) : Nat → Call → Option Call
  | 0, call => some call
  | fuel + 1, call =>
      if call.name = "builtin" && extended then
        match call.arguments with
        | name :: arguments =>
            callOf extended fuel
              { call with name := name, arguments := arguments, plain := true, builtinOnly := true }
        | [] => none
      else if call.name ≠ "command" then some call
      else
        let flags := call.arguments.takeWhile (fun text => text = "-p" || text = "--")
        match call.arguments.drop flags.length with
        | [] => none
        | name :: arguments =>
            if name = "-v" || name = "-V" then some call
            else
              callOf extended fuel
                { call with
                  name := name, arguments := arguments, plain := true
                  usualPath := call.usualPath || flags.contains "-p" }

def usualPath : String := "/usr/local/sbin:/usr/local/bin:/usr/sbin:/usr/bin:/sbin:/bin"

def dispatch (inner : Inner) (tested : Bool) (call : Call) (values : List (String × String)) :
    Execution Nat := do
  let extended ← isExtended
  let process ← process
  let special := specialBuiltins.contains call.name
  let function? := if call.plain then none else process.functions.lookup call.name
  match function? with
  | some function =>
      if special && !extended then runSpecial extended
      else withValues values (callFunction inner tested call.name function call.arguments)
  | none =>
      if special then runSpecial extended
      else if call.builtinOnly && !(regularBuiltins process.dialect).contains call.name then do
        reportFor (some "builtin") (call.name ++ ": not a shell builtin")
        pure 1
      else if call.name = "command" then
        withValues values (caught (blaming "command"
          (match call.arguments with
            | "-v" :: names => names.foldlM
                (fun status name => do pure (max status (← locateCommand name))) 0
            | _ :: names => names.foldlM
                (fun status name => do pure (max status (← describe name))) 0
            | [] => pure 0)))
      else if (regularBuiltins process.dialect).contains call.name then
        withValues values (caught (blaming call.name (do
          pure ((← builtin? inner call.name call.arguments call.lists).getD 0))))
      else
        withValues values (do
          let own := (← value? "PATH").getD ""
          let path := if call.usualPath then usualPath else own
          callProgram inner path call.name call.arguments)
where
  runSpecial (extended : Bool) : Execution Nat := do
    let body : Execution Nat := blaming call.name (do
      if call.name = "exec" then replaceBy inner call.arguments
      else pure ((← builtin? inner call.name call.arguments call.lists).getD 0))
    if extended then withValues values (caught body)
    else if call.plain then withValues values (caught body)
    else if call.name = "exec" && !call.arguments.isEmpty then withValues values body
    else do
      values.forM (fun (name, value) => give name value)
      body

/-- Assignments alone. In the larger language they are made even if a redirection fails. -/
def assignAll (inner : Inner) (assignments : List Assignment) (redirections : List Redirection) :
    Execution Nat := do
  let before := (← process).descriptors
  let redirected ← redirectAll inner redirections
  if redirected.isSome && !(← isExtended) then pure (redirected.getD 0)
  else
    let shown ← assignments.mapM (assign inner)
    if !shown.isEmpty then traceCommand before shown []
    let last := (← process).outputStatus.getD 0
    pure (redirected.getD last)

def givenLists (inner : Inner) (fields : List String) (lists : List Assignment) :
    Execution (List GivenList) :=
  lists.filterMapM (fun list => do
    match list with
    | .list name adds items => do
        let isTable := ((← held? name).map Variable.shape) == some .table ||
          fields.any (fun field => field.startsWith "-" && field.toList.contains 'A')
        pure (some ⟨name, adds, ← listItems inner isTable items⟩)
    | .value _ _ _ _ => pure none)

def simple (inner : Inner) (tested : Bool) (line : Nat) (assignments : List Assignment)
    (words : List Word) (lists : List Assignment) (redirections : List Redirection) :
    Execution Nat := do
  changeProcess (fun process => { process with line := line, outputStatus := none })
  let before := (← process).descriptors
  let extended ← isExtended
  let fields ← commandFields inner words
  match fields with
  | [] => restoring before (assignAll inner assignments redirections)
  | name :: arguments =>
      let lists ← givenLists inner fields lists
      let call : Call := { name := name, arguments := arguments, lists := lists }
      match callOf extended (fields.length + 1) call with
      | none => pure 0
      | some call => do
          let keeps := call.name = "exec" && call.arguments.isEmpty
          let body : Execution Nat := do
            match ← redirectAll inner redirections with
            | some status =>
                if specialBuiltins.contains call.name && !call.plain && !extended then
                  throw (.fault status)
                else pure status
            | none => do
                let values ← assignedValues inner assignments
                let assigned := values.map (fun (name, value) =>
                  shownAssignment extended name value)
                traceCommand before assigned fields
                if extended && (call.name = "export" || call.name = "readonly") then
                  traceCommand before (call.arguments.filterMap (fun text =>
                    let (name, value) := nameAndValue text
                    if isName name then value.map (shownAssignment true name) else none)) []
                dispatch inner tested call values
          if keeps then body else restoring before body

end Execution

end AssociationCheck.Shell
