/-
Loading a snapshot with a bootstrap script.

The script runs in its own directory, by itself or through an interpreter, and writes a snapshot
to its output. A script that is missing, cannot be started, fails, or writes something else yields
no snapshot but the reason why.
-/

import AssociationCheck.Mapping.Snapshot
import AssociationCheck.Shell.Starting
import AssociationCheck.Text.Blank

namespace AssociationCheck

inductive LoaderError
  | missingScript (script : String)
  | notStarted (script : String) (fault : SystemFault)
  | failed (script : String) (status : Shell.ExitStatus) (errors : String)
  | invalidOutput (script : String) (error : Json.DecodeError)
  deriving DecidableEq, Repr

def Json.DecodeError.message : Json.DecodeError → String
  | malformed => "invalid JSON"
  | data fault => fault.message

namespace LoaderError

def message : LoaderError → String
  | missingScript script => "object manager loader " ++ script ++ " does not exist"
  | notStarted script fault =>
      "failed to run object manager loader " ++ script ++ ": " ++ fault.message
  | failed script status errors =>
      "object manager loader " ++ script ++ " exited with " ++ status.message ++ ": " ++ errors
  | invalidOutput script error =>
      "object manager loader " ++ script ++ " printed invalid metadata: " ++ error.message

end LoaderError

structure Bootstrap where
  script : String
  interpreter : Option String := none
  deriving DecidableEq, Repr

namespace Bootstrap

open Shell (Machine Outcome Program Surroundings)

def usualVariables : List (String × String) :=
  [("PATH", "/usr/local/sbin:/usr/local/bin:/usr/sbin:/usr/bin:/sbin:/bin"), ("HOME", "/root")]

/-- The path of a program by its name, which is looked for in some directories unless it is a path
itself. What is there but cannot be started is passed over. -/
def programPath (files : FileTree) (directories : List String) (name : String) :
    Except SystemFault String :=
  if name.toList.contains (Char.ofNat 0) then .error .dataEndsEarly
  else if name.isEmpty then .error .notFound
  else if name.toList.contains '/' then .ok name
  else if name.utf8ByteSize > FileTree.nameLimit then .error .nameTooLong
  else
    let paths := directories.map (fun directory => directory ++ "/" ++ name)
    let canStart (path : String) : Bool :=
      match files.entry path with
      | .ok (_, .directory) => false
      | .ok (_, entry) => entry.isExecutable
      | .error _ => false
    match paths.find? canStart with
    | some path => .ok path
    | none =>
        if paths.any (fun path => (files.entry path).toOption.isSome) then .error .permissionDenied
        else .error .notFound

def invocation (bootstrap : Bootstrap) (files : FileTree) (environment : List (String × String))
    (script : Location) : Except SystemFault (String × Surroundings) := do
  let path := Text.octetsOf (Shell.pathOf script)
  let started (name : String) (arguments : List String) : Surroundings :=
    { name := name
      arguments := arguments
      environment := environment
      directory := script.dropLast }
  match bootstrap.interpreter with
  | none => pure (path, started path [])
  | some name =>
      let directories := ((environment.lookup "PATH").getD "").splitOn ":"
      let program ← programPath files directories name
      pure (Text.octetsOf program, started (Text.octetsOf name) [path])

def firstProgram : Nat := 1000

def outcomeOf (path : String) (surroundings : Surroundings) :
    Machine.Run (Except SystemFault Outcome) := do
  let input ← Machine.add (.device .nothing)
  let output ← Machine.add (.sink [])
  let errors ← Machine.add (.sink [])
  let number ← Machine.newProgram
  let started :=
    { surroundings with
      descriptors := [(0, input), (1, output), (2, errors)]
      number := number
      starter := number - 1 }
  match ← Shell.start path started with
  | .error fault => pure (.error fault)
  | .ok ended => do
      let outcome : Outcome :=
        { output := Text.bytesOfOctets (← Machine.collected output)
          errors := Text.bytesOfOctets (← Machine.collected errors)
          status := ended }
      pure (.ok outcome)

def interpret (bootstrap : Bootstrap) (outcome : Outcome) : Except LoaderError Snapshot :=
  if !outcome.status.succeeded then
    .error (.failed bootstrap.script outcome.status
      (Text.trimmed (Text.lenientText outcome.errors)))
  else
    match Json.Decode.text Snapshot.decode (Text.lenientText outcome.output) with
    | .ok snapshot => .ok snapshot
    | .error error => .error (.invalidOutput bootstrap.script error)

/-- Runs the script in its own directory, among some files that it may change, with some variables
beside the usual ones. -/
def load (bootstrap : Bootstrap) (environment : List (String × String)) :
    StateM FileTree (Except LoaderError Snapshot) := do
  let files ← get
  let others := usualVariables.filter (fun (name, _) => (environment.lookup name).isNone)
  match files.entry bootstrap.script with
  | .error _ => pure (.error (.missingScript bootstrap.script))
  | .ok (script, _) =>
      match bootstrap.invocation files (others ++ environment) script with
      | .error fault => pure (.error (.notStarted bootstrap.script fault))
      | .ok (path, surroundings) => do
          let machine : Machine := { files := files, lastProgram := firstProgram }
          let (result, machine) := (outcomeOf path surroundings).run machine
          match result with
          | .error fault => pure (.error (.notStarted bootstrap.script fault))
          | .ok outcome => do
              set machine.files
              pure (bootstrap.interpret outcome)

end Bootstrap

end AssociationCheck
