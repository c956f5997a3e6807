/-
Commands that decide what is carried out next: they leave the shell, a function or a loop, or carry
out a text or a script.
-/

import AssociationCheck.Shell.Builtin.Arguments

namespace AssociationCheck.Shell

namespace Execution

def exitWith (arguments : List String) : Execution Nat := do
  match arguments with
  | [] => throw (.leave (← process).status)
  | text :: rest =>
      if ← isExtended then
        match Condition.number? text with
        | some value =>
            if rest.isEmpty then throw (.leave (value % 256).toNat)
            else warn 1 "too many arguments"
        | none => do
            report (text ++ ": numeric argument required")
            throw (.leave 2)
      else throw (.leave (← numberArgument 0 text))

def returnWith (arguments : List String) : Execution Nat := do
  let process ← process
  if process.dialect == .standard then
    match arguments with
    | [] => throw (.returned process.status)
    | text :: _ => throw (.returned (← numberArgument 0 text))
  else
    let isInside := process.frames.any (fun (name, _) => name != "main")
    let leave (status : Nat) : Execution Nat := do
      if isInside then throw (.returned status)
      else warn 2 ("can only " ++ between "return" ++ " from a function or sourced script")
    match arguments with
    | [] => leave process.status
    | [text] =>
        match Condition.number? text with
        | some value => leave (value % 256).toNat
        | none => do
            report (text ++ ": numeric argument required")
            leave 2
    | _ => fail "too many arguments"

/-- How many loops are left, or the status of a command that leaves none. -/
def loopCount (arguments : List String) : Execution (Except Nat Nat) := do
  let process ← process
  if process.dialect == .standard then
    let count ← match arguments with
      | [] => pure 1
      | text :: _ => numberArgument 1 text
    let count := min count process.loops
    pure (if count = 0 then .error 0 else .ok count)
  else if process.loops = 0 then do
    report ("only meaningful in a " ++ between "for" ++ ", " ++ between "while" ++ ", or " ++
      between "until" ++ " loop")
    pure (.error 0)
  else
    match arguments with
    | [] => pure (.ok 1)
    | text :: _ =>
        match Condition.number? text with
        | some value =>
            if value ≤ 0 then do
              report (text ++ ": loop count out of range")
              pure (.ok process.loops)
            else pure (.ok (min value.toNat process.loops))
        | none => do
            report (text ++ ": numeric argument required")
            throw (.leave 128)

def breakOff (arguments : List String) : Execution Nat := do
  match ← loopCount arguments with
  | .error status => pure status
  | .ok count => throw (.breakLoop count)

def continueOn (arguments : List String) : Execution Nat := do
  match ← loopCount arguments with
  | .error status => pure status
  | .ok count => throw (.continueLoop count)

def evalWords (inner : Inner) (arguments : List String) : Execution Nat := do
  let text := String.intercalate " " arguments
  if ← isExtended then
    runText inner false { text := text, called := some "eval", line := (← process).line }
  else runText inner false { text := text }

def scriptPath? (name : String) : Execution (Option String) := do
  if name.toList.contains '/' then pure (some name)
  else
    let directories := ((← value? "PATH").getD "").splitOn ":"
    let files := (← machine).files
    let own := (← process).directory
    let paths := directories.map (fun directory =>
      (if directory.isEmpty then "." else directory) ++ "/" ++ name)
    let paths := if ← isExtended then paths ++ [name] else paths
    pure (paths.find? (fun path => files.isFile (Machine.absolute own path)))

def source (inner : Inner) (arguments : List String) : Execution Nat := do
  match arguments with
  | [] => if ← isExtended then warn 2 "filename argument required" else pure 0
  | name :: others => do
      let extended ← isExtended
      match ← scriptPath? name with
      | none =>
          if extended then do
            reportFor none (name ++ ": No such file or directory")
            pure 1
          else fail (name ++ ": not found")
      | some path => do
          let process ← process
          let opened ← onMachine
            (Machine.openFile process.directory process.descriptors .read path)
          match opened with
          | .error fault =>
              if extended then do
                reportFor none (path ++ ": " ++ fault.text)
                pure 1
              else
                fail ("cannot open " ++ path ++ ": " ++
                  (if fault == .notFound || fault == .notDirectory then "No such file"
                    else fault.text))
          | .ok channel => do
              let text := ((← onMachine (Machine.readAll channel)).toOption).getD ""
              let arguments := process.arguments
              changeProcess (fun process =>
                { process with
                  blamed := if extended then none else some path
                  frames := ("source", path) :: process.frames
                  arguments := if extended && !others.isEmpty then others else arguments })
              let restore : Execution Unit :=
                changeProcess (fun process =>
                  { process with arguments := arguments, frames := process.frames.drop 1 })
              try
                let status ← runText inner false { text := text }
                restore
                pure status
              catch stop => do
                restore
                match stop with
                | .returned status => pure status
                | stop => throw stop

def shiftArguments (arguments : List String) : Execution Nat := do
  let count ← match arguments with
    | [] => pure 1
    | text :: _ => do
        if (← isExtended) && text.startsWith "-" && (Condition.number? text).isSome then
          fail (text ++ ": shift count out of range")
        else numberArgument 0 text
  let own := (← process).arguments
  if count > own.length then
    if ← isExtended then pure 1 else fail "can't shift that many"
  else do
    changeProcess (fun process =>
      { process with arguments := own.drop count, optionPlace := 1, letterPlace := 1 })
    pure 0

end Execution

end AssociationCheck.Shell
