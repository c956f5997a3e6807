/-
What the names of commands stand for.
-/

import AssociationCheck.Shell.Builtin.Arguments

namespace AssociationCheck.Shell

namespace Execution

def specialBuiltins : List String :=
  [":", ".", "break", "continue", "eval", "exec", "exit", "export", "readonly", "return", "set",
    "shift", "times", "trap", "unset"]

def regularBuiltins (dialect : Dialect) : List String :=
  ["[", "alias", "bg", "cd", "command", "echo", "false", "fg", "getopts", "hash", "jobs", "kill",
    "local", "printf", "pwd", "read", "test", "true", "type", "ulimit", "umask", "unalias",
    "wait"] ++
    (match dialect with
      | .standard => ["chdir"]
      | .extended =>
          ["builtin", "declare", "dirs", "enable", "let", "mapfile", "popd", "pushd", "readarray",
            "shopt", "source", "typeset"])

inductive Meaning
  | keyword
  | alias (text : String)
  | special
  | function (function : Function)
  | builtin
  | program (path : String)

def programPath? (path : String) (name : String) : Execution (Option String) := do
  let files := (← machine).files
  let own := (← process).directory
  if name.toList.contains '/' then
    pure (if (files.entry (Machine.absolute own name)).toOption.isSome then some name else none)
  else
    let paths := (path.splitOn ":").map (fun directory =>
      if directory.isEmpty then name else directory ++ "/" ++ name)
    pure (if name.isEmpty then none
      else paths.find? (fun path => files.isFile (Machine.absolute own path)))

def meaning? (name : String) : Execution (Option Meaning) := do
  let process ← process
  let words :=
    keywords ++ (match process.dialect with | .standard => [] | .extended => extendedKeywords)
  if words.contains name then pure (some .keyword)
  else
    match process.aliases.lookup name with
    | some text => pure (some (.alias text))
    | none =>
        if specialBuiltins.contains name then pure (some .special)
        else
          match process.functions.lookup name with
          | some body => pure (some (.function body))
          | none =>
              if (regularBuiltins process.dialect).contains name then pure (some .builtin)
              else do
                let path := (← value? "PATH").getD ""
                pure ((← programPath? path name).map .program)

def describe (name : String) : Execution Nat := do
  let extended ← isExtended
  match ← meaning? name with
  | some .keyword => say (name ++ " is a shell keyword\n")
  | some (.alias text) =>
      if extended then say (name ++ " is aliased to " ++ between text ++ "\n")
      else say (name ++ " is an alias for " ++ text ++ "\n")
  | some .special =>
      say (name ++ (if extended then " is a shell builtin\n" else " is a special shell builtin\n"))
  | some (.function _) =>
      say (name ++ (if extended then " is a function\n" else " is a shell function\n"))
  | some .builtin => say (name ++ " is a shell builtin\n")
  | some (.program path) => say (name ++ " is " ++ path ++ "\n")
  | none =>
      if extended then warn 1 (name ++ ": not found")
      else do
        let _ ← say (name ++ ": not found\n")
        pure 127

/-- The one word for what a name stands for. -/
def kindText : Meaning → String
  | .keyword => "keyword"
  | .alias _ => "alias"
  | .special => "builtin"
  | .function _ => "function"
  | .builtin => "builtin"
  | .program _ => "file"

def describeAll (arguments : List String) : Execution Nat := do
  let extended ← isExtended
  let (flags, names) ← if extended then flagsOf "afptP" arguments
    else pure ([], arguments.filter (fun text => !text.startsWith "-" || text = "-"))
  let one (name : String) : Execution Nat := do
    if flags.contains 't' then
      match ← meaning? name with
      | some meaning => say (kindText meaning ++ "\n")
      | none => pure 1
    else if flags.contains 'p' || flags.contains 'P' then
      match ← meaning? name with
      | some (.program path) => say (path ++ "\n")
      | some _ => pure 0
      | none => pure 1
    else describe name
  names.foldlM (fun status name => do pure (max status (← one name))) 0

def locateCommand (name : String) : Execution Nat := do
  match ← meaning? name with
  | some (.alias text) => say ("alias " ++ name ++ "=" ++ requoted text ++ "\n")
  | some (.program path) => say (path ++ "\n")
  | some _ => say (name ++ "\n")
  | none => pure (if ← isExtended then 1 else 127)

def nameAliases (arguments : List String) : Execution Nat := do
  let extended ← isExtended
  let shown (name text : String) : String :=
    (if extended then "alias " else "") ++ name ++ "=" ++ requoted text
  if arguments.isEmpty then
    let lines := (← process).aliases.map (fun (name, text) => shown name text)
    say (textOfLines lines)
  else
    arguments.foldlM
      (fun status text => do
        let name := String.ofList (text.toList.takeWhile (· ≠ '='))
        if name.length < text.length then do
          let value := String.ofList (text.toList.drop (name.length + 1))
          changeProcess (fun process =>
            { process with
              aliases := process.aliases.filter (fun (own, _) => own != name) ++ [(name, value)] })
          pure status
        else
          match (← process).aliases.lookup name with
          | some value => do
              let _ ← say (shown name value ++ "\n")
              pure status
          | none =>
              if extended then warn 1 (name ++ ": not found")
              else do
                writeError ("alias: " ++ name ++ " not found\n")
                pure 1)
      0

def dropAliases (arguments : List String) : Execution Nat := do
  if arguments.contains "-a" then do
    changeProcess (fun process => { process with aliases := [] })
    pure 0
  else
    arguments.foldlM
      (fun status name => do
        if ((← process).aliases.lookup name).isSome then do
          changeProcess (fun process =>
            { process with aliases := process.aliases.filter (fun (own, _) => own != name) })
          pure status
        else if ← isExtended then warn 1 (name ++ ": not found")
        else do
          writeError ("unalias: " ++ name ++ " not found\n")
          pure 1)
      0

def rememberPaths (arguments : List String) : Execution Nat := do
  let names := arguments.filter (fun text => !text.startsWith "-")
  names.foldlM
    (fun status name => do
      match ← meaning? name with
      | some _ => pure status
      | none => warn 1 (name ++ ": not found"))
    0

end Execution

end AssociationCheck.Shell
