/-
Redirections.

Before a command is carried out, its descriptors are opened, copied or closed from left to right. A
redirection that cannot be made is a failure of the command.
-/

import AssociationCheck.Shell.Expansion

namespace AssociationCheck.Shell

namespace Execution

/-! ### Redirections -/

def openingFault (extended : Bool) (opening : Opening) (path : String) (fault : SystemFault) :
    String :=
  let missing := fault == .notFound || fault == .notDirectory
  if extended then path ++ ": " ++ fault.text
  else if opening == .read then
    "cannot open " ++ path ++ ": " ++ (if missing then "No such file" else fault.text)
  else "cannot create " ++ path ++ ": " ++ (if missing then "Directory nonexistent" else fault.text)

def redirectionStatus : Execution Nat := do pure (if ← isExtended then 1 else 2)

/-- Opens a file on a descriptor; gives a status if it cannot be opened. -/
def openOn (descriptor : Nat) (opening : Opening) (path : String) : Execution (Option Nat) := do
  let process ← process
  let extended := process.dialect == .extended
  let isThere := (← machine).files.isFile (Machine.absolute process.directory path)
  if opening == .write && process.options.contains 'C' && isThere then do
    report (if extended then path ++ ": cannot overwrite existing file"
      else "cannot create " ++ path ++ ": File exists")
    pure (some (← redirectionStatus))
  else
    match ← onMachine (Machine.openFile process.directory process.descriptors opening path) with
    | .ok channel => do
        setDescriptor descriptor (some channel)
        pure none
    | .error fault => do
        report (openingFault extended opening path fault)
        pure (some (← redirectionStatus))

def copyOn (descriptor : Nat) (source : String) : Execution (Option Nat) := do
  let extended ← isExtended
  if source = "-" then do
    setDescriptor descriptor none
    pure none
  else
    match source.toNat? with
    | some number =>
        if !extended && source.length > 1 then badNumber
        else
          match (← process).descriptors.lookup number with
          | some channel => do
              setDescriptor descriptor (some channel)
              pure none
          | none => do
              report (source ++ ": Bad file descriptor")
              pure (some (← redirectionStatus))
    | none =>
        if extended then do
          report (source ++ ": ambiguous redirect")
          pure (some 1)
        else badNumber
where
  badNumber : Execution (Option Nat) := do
    changeProcess (fun process => { process with line := process.lineRead })
    fail "Syntax error: Bad fd number"

def redirect (inner : Inner) : Redirection → Execution (Option Nat)
  | .file descriptor opening path => do openOn descriptor opening (← singleText inner path)
  | .both append path => do
      match ← openOn 1 (if append then .append else .write) (← singleText inner path) with
      | some status => pure (some status)
      | none => copyOn 2 "1"
  | .copy descriptor source => do copyOn descriptor (← singleText inner source)
  | .lines descriptor number => do
      let word := ((← process).documents.lookup number).getD []
      let text ← textOf inner word
      setDescriptor descriptor (some (← onMachine (Machine.add (.source text))))
      pure none
  | .word descriptor word => do
      let text ← singleText inner word
      setDescriptor descriptor (some (← onMachine (Machine.add (.source (text ++ "\n")))))
      pure none

/-- Makes redirections up to the first one that cannot be made. -/
def redirectAll (inner : Inner) : List Redirection → Execution (Option Nat)
  | [] => pure none
  | first :: rest => do
      match ← redirect inner first with
      | some status => pure (some status)
      | none => redirectAll inner rest

end Execution

end AssociationCheck.Shell
