/-
Signals: what is done when one comes, and sending them.
-/

import AssociationCheck.Shell.Builtin.Arguments

namespace AssociationCheck.Shell

namespace Execution

/-- Conditions of the larger language that are no signals: the one before each command, that a
command has failed, and the end of a function. -/
def furtherConditions : List (String × Nat) := [("DEBUG", 65), ("ERR", 66), ("RETURN", 67)]

/-- The number of a condition: a signal, or the end of the shell. -/
def condition? (name : String) : Option Nat :=
  if name = "EXIT" || name = "0" then some 0
  else if let some number := furtherConditions.lookup name then some number
  else if name.startsWith "SIG" then
    (Signal.ofName? (String.ofList (name.toList.drop 3))).map Signal.number
  else (Signal.ofWord? name).map Signal.number

/-- The condition by the standard rules, which know no longer names. -/
def conditionOf? (name : String) : Execution (Option Nat) := do
  let isFurther := name.startsWith "SIG" || (furtherConditions.lookup name).isSome
  if isFurther && !(← isExtended) then pure none else pure (condition? name)

def conditionName (extended : Bool) (number : Nat) : String :=
  if number = 0 then "EXIT"
  else
    match (furtherConditions.find? (fun (_, own) => own = number)).map Prod.fst with
    | some name => name
    | none =>
        match (⟨number⟩ : Signal).name? with
        | some name => (if extended then "SIG" else "") ++ name
        | none => toString number

def setTraps (arguments : List String) : Execution Nat := do
  let arguments := if arguments.head? == some "--" then arguments.drop 1 else arguments
  let arguments := if (← isExtended) && arguments.head? == some "-p" then [] else arguments
  match arguments with
  | [] => do
      let extended ← isExtended
      let traps := (← process).traps.mergeSort (fun first second => first.1 ≤ second.1)
      say (textOfLines (traps.map (fun (number, action) =>
        "trap -- " ++ requoted action ++ " " ++ conditionName extended number)))
  | first :: others => do
      let alone := others.isEmpty || (first.toNat?.isSome)
      let action := if alone then "-" else first
      let names := if alone then arguments else others
      names.foldlM
        (fun status name => do
          match ← conditionOf? name with
          | none => do
              if ← isExtended then warn 1 (name ++ ": invalid signal specification")
              else do
                writeError ("trap: " ++ name ++ ": bad trap\n")
                pure 1
          | some number => do
              changeProcess (fun process =>
                let rest := process.traps.filter (fun (own, _) => own ≠ number)
                { process with
                  traps := if action = "-" then rest else rest ++ [(number, action)] })
              pure status)
        0

def killUsage : String :=
  "Usage: kill [-s sigspec | -signum | -sigspec] [pid | job]... or\nkill -l [exitstatus]"

/-- The name of a signal, in the larger language also of one without a word for it. -/
def longName (number : Nat) : String :=
  match (⟨number⟩ : Signal).name? with
  | some name => "SIG" ++ name
  | none =>
      if number = 34 then "SIGRTMIN"
      else if number ≤ 49 then "SIGRTMIN+" ++ toString (number - 34)
      else if number < 64 then "SIGRTMAX-" ++ toString (64 - number)
      else "SIGRTMAX"

/-- The signals up to a number, five on a line. -/
def signalTable (greatest : Nat) : String :=
  let numbers :=
    ((List.range greatest).map (· + 1)).filter (fun number => number ≠ 32 && number ≠ 33)
  String.join (numbers.mapIdx (fun place number =>
    Directive.repeated (2 - (toString number).length) ' ' ++ toString number ++ ") " ++
      longName number ++ (if place % 5 = 4 || number = greatest then "\n" else "\t")))

/-- The names of signals, or the name of the one that ended something. -/
def listSignals (arguments : List String) : Execution Nat := do
  match arguments with
  | [] => do
      if ← isExtended then say (signalTable 64)
      else
        let names := (List.range 64).map (fun index =>
          ((⟨index + 1⟩ : Signal).name?).getD (toString (index + 1)))
        say (textOfLines ("0" :: names))
  | text :: rest => do
      let number ← numberArgument 0 text
      let number := if number > 128 then number - 128 else number
      if number > Signal.greatest then
        fail ("invalid signal number or exit status: " ++ text)
      else
        let status ← say (((⟨number⟩ : Signal).name?).getD (toString number) ++ "\n")
        if (← isExtended) && !rest.isEmpty then listSignals rest else pure status

def sendTo (signal : Signal) (target : String) : Execution Nat := do
  let extended ← isExtended
  let process ← process
  let known (number : Nat) : Bool :=
    number = process.number || number = process.shell || number = process.starter
  let send (number : Nat) : Execution Nat := do
    if signal.number ≠ 0 then onMachine (Machine.send number signal)
    pure 0
  match Condition.number? target with
  | none =>
      if extended then warn 1 (target ++ ": arguments must be process or job IDs")
      else fail ("Illegal number: " ++ target)
  | some value =>
      if value = 0 then send process.shell
      else if known value.toNat then send value.toNat
      else if (process.asides.lookup value.toNat).isSome then do
        changeProcess (fun process =>
          { process with asides := process.asides.map (fun (number, status) =>
              if number = value.toNat && signal.number ≠ 0 then (number, 128 + signal.number)
              else (number, status)) })
        pure 0
      else if extended then warn 1 ("(" ++ target ++ ") - No such process")
      else warn 1 "No such process\n"

def killPrograms (arguments : List String) : Execution Nat := do
  let extended ← isExtended
  let badSignal (text : String) : Execution Nat := do
    if extended then warn 1 (text ++ ": invalid signal specification")
    else fail ("invalid signal number or name: " ++ text)
  let sendAll (signal : Signal) (targets : List String) : Execution Nat := do
    let targets := if targets.head? == some "--" then targets.drop 1 else targets
    if targets.isEmpty then
      if extended then do
        showUsage
        pure 2
      else fail killUsage
    else
      targets.foldlM (fun status target => do pure (max status (← sendTo signal target))) 0
  let named? (text : String) : Option Signal :=
    if extended && text.startsWith "SIG" then
      Signal.ofName? (String.ofList (text.toList.drop 3))
    else Signal.ofWord? text
  match arguments with
  | "-l" :: rest => listSignals rest
  | "-n" :: name :: targets =>
      match if extended then named? name else none with
      | some signal => sendAll signal targets
      | none => badSignal name
  | "-s" :: name :: targets =>
      match named? name with
      | some signal => sendAll signal targets
      | none => badSignal name
  | first :: targets =>
      match first.toList with
      | '-' :: c :: letters =>
          let text := String.ofList (c :: letters)
          if text = "-" then sendAll ⟨15⟩ targets
          else
            match named? text with
            | some signal => sendAll signal targets
            | none => if extended then badSignal text else fail ("Illegal option -" ++ c.toString)
      | _ => sendAll ⟨15⟩ arguments
  | [] => sendAll ⟨15⟩ []

def waitFor (arguments : List String) : Execution Nat := do
  let process ← process
  match arguments.getLast? with
  | none => pure 0
  | some text =>
      match text.toNat?.bind (fun number => process.asides.lookup number) with
      | some status => do
          if status > 128 && !(← isExtended) then
            let _ ← seen (.signal ⟨status - 128⟩)
          pure status
      | none =>
          if ← isExtended then
            if text.toNat?.isSome then
              warn 127 ("pid " ++ text ++ " is not a child of this shell")
            else warn 1 (between text ++ ": not a pid or valid job spec")
          else pure 127

end Execution

end AssociationCheck.Shell
