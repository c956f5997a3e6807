/-
The command.

The command gathers the files that its arguments name, carries out the run on them, prints the
result, and puts back what a bootstrap script has written. Everything else is decided by the
library.
-/

import AssociationCheck.Command.Program

namespace AssociationCheck.Main

def locationOf (path : String) : Location :=
  (path.splitOn "/").foldl
    (fun location name =>
      if name.isEmpty || name = "." then location
      else if name = ".." then location.dropLast
      else location ++ [name])
    []

/-- A script that names its program is taken to be executable. -/
def fileOf (bytes : List UInt8) : File := ⟨bytes, bytes.take 2 == Text.bytesOf "#!"⟩

partial def gather (files : FileTree) (path : String) : IO FileTree := do
  let place := (← IO.currentDir) / path
  if !(← place.pathExists) then pure files
  else if ← place.isDir then
    let mut gathered := files.add (locationOf path) .directory
    for entry in ← place.readDir do
      gathered ← gather gathered (Path.join path entry.fileName)
    pure gathered
  else
    let bytes ← IO.FS.readBinFile place
    pure (files.add (locationOf path) (.file (fileOf bytes.toList)))

def putBack (before after : FileTree) : IO Unit := do
  for (location, entry) in after.entries do
    match entry with
    | .file file =>
        if before.at? location != some (.file file) then
          IO.FS.writeBinFile (Shell.pathOf location) ⟨file.bytes.toArray⟩
    | _ => pure ()

def filesOf (arguments : Arguments) (directory : String) : IO FileTree := do
  let empty : FileTree := FileTree.add ⟨[]⟩ (locationOf directory) .directory
  let named := (arguments.config.toList ++ [Settings.usualFile]) ++ arguments.paths
  let files ← (named.map (Path.join directory)).foldlM gather empty
  match (Settings.resolve arguments files directory).toOption.bind Settings.bootstrap? with
  | some bootstrap =>
      match Path.parent? bootstrap.script with
      | some above => gather files above
      | none => pure files
  | none => pure files

def usage : String :=
  "Checks that ORM association mappings agree with declared property types\n\n" ++
    "Usage: ormcheck [OPTIONS] <PATHS>..."

def carryOut (arguments : Arguments) : IO Nat := do
  let directory := (← IO.currentDir).toString
  let files ← filesOf arguments directory
  let (result, changed) := (runIn arguments directory []).run files
  putBack files changed
  match result with
  | .ok found =>
      let output ← IO.getStdout
      let colour := !arguments.noColour && (← output.isTty)
      output.putStr (found.printed arguments.outputFormat colour)
  | .error error => IO.eprintln ("error: " ++ error.message)
  pure (exitCode result)

end AssociationCheck.Main

def main (arguments : List String) : IO UInt32 := do
  match AssociationCheck.Arguments.parse arguments with
  | .ok parsed => pure (UInt32.ofNat (← AssociationCheck.Main.carryOut parsed))
  | .error error =>
      if error.exitCode = 0 then IO.println AssociationCheck.Main.usage
      else IO.eprintln ("error: the arguments cannot be used\n\n" ++ AssociationCheck.Main.usage)
      pure (UInt32.ofNat error.exitCode)
