/-
The directory of a shell, which is known both by its location and by the path that led to it.
-/

import AssociationCheck.Shell.Builtin.Arguments

namespace AssociationCheck.Shell

namespace Execution

def resolved (logical path : String) : String :=
  let start := if path.startsWith "/" then [] else (logical.splitOn "/").filter (!·.isEmpty)
  let names := (path.splitOn "/").foldl
    (fun names name =>
      if name.isEmpty || name = "." then names
      else if name = ".." then names.dropLast
      else names ++ [name])
    start
  "/" ++ String.intercalate "/" names

def changeDirectory (arguments : List String) : Execution Nat := do
  let extended ← isExtended
  let (flags, paths) ← flagsOf (if extended then "LPe@" else "LP") arguments
  let physical := flags.getLast? == some 'P'
  let process ← process
  if extended && paths.length > 1 then warn 1 "too many arguments"
  else
    let back := paths.head? == some "-"
    let unset (name : String) : Execution Nat := do
      if extended then warn 1 (name ++ " not set") else fail ("can't cd to ")
    let target ←
      match paths with
      | [] => value? "HOME"
      | "-" :: _ => value? "OLDPWD"
      | path :: _ => pure (some path)
    match target with
    | none => if back then unset "OLDPWD" else if extended then unset "HOME" else pure 0
    | some path => do
        let logical := resolved process.logical path
        let files := (← machine).files
        let found :=
          if path.isEmpty then files.entry (pathOf process.directory)
          else if physical then files.entry (Machine.absolute process.directory path)
          else
            match files.entry (Text.textOfOctets logical) with
            | .ok found => .ok found
            | .error _ => files.entry (Machine.absolute process.directory path)
        match found with
        | .ok (location, .directory) => do
            let reached :=
              if physical then Text.octetsOf (pathOf location)
              else if path.isEmpty then process.logical
              else logical
            changeProcess (fun process =>
              { process with directory := location, logical := reached })
            let old := (← value? "PWD").getD process.logical
            give "OLDPWD" old
            give "PWD" reached
            ["OLDPWD", "PWD"].forM (fun name => do
              let held := (← held? name).getD {}
              putVariable name { held with exported := true })
            if back then say (reached ++ "\n") else pure 0
        | .ok _ =>
            if extended then warn 1 (path ++ ": Not a directory") else fail ("can't cd to " ++ path)
        | .error fault =>
            if extended then warn 1 (path ++ ": " ++ fault.text)
            else fail ("can't cd to " ++ path)

/-! ### Directories to come back to -/

/-- A path as it is listed, with a tilde for the home directory. -/
def withTilde (home : Option String) (path : String) : String :=
  match home with
  | some home =>
      if path = home then "~"
      else if path.startsWith (home ++ "/") then
        "~" ++ String.ofList (path.toList.drop home.length)
      else path
  | none => path

def listDirectories (arguments : List String) : Execution Nat := do
  let process ← process
  if arguments.contains "-c" then do
    changeProcess (fun process => { process with back := [] })
    pure 0
  else
    let home ← value? "HOME"
    let paths := (process.logical :: process.back).map (fun path =>
      if arguments.contains "-l" then path else withTilde home path)
    if arguments.contains "-p" then say (textOfLines paths)
    else say (String.intercalate " " paths ++ "\n")

def enterDirectory (arguments : List String) : Execution Nat := do
  let process ← process
  let go (path : String) (back : List String) : Execution Nat := do
    let status ← changeDirectory [path]
    if status = 0 then
      changeProcess (fun process => { process with back := back })
      listDirectories []
    else pure status
  match arguments, process.back with
  | [], [] => warn 1 "no other directory"
  | [], top :: others => go top (process.logical :: others)
  | path :: _, back => go path (process.logical :: back)

def leaveDirectory : Execution Nat := do
  match (← process).back with
  | [] => warn 1 "directory stack empty"
  | path :: others => do
      let status ← changeDirectory [path]
      if status = 0 then
        changeProcess (fun process => { process with back := others })
        listDirectories []
      else pure status

def showDirectory (arguments : List String) : Execution Nat := do
  let (flags, _) ← flagsOf "LP" arguments
  let process ← process
  if flags.getLast? == some 'P' then say (Text.octetsOf (pathOf process.directory) ++ "\n")
  else say (process.logical ++ "\n")

end Execution

end AssociationCheck.Shell
