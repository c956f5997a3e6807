/-
The commands of a shell itself.

They change the shell, or answer from what it knows. A fault in one of the special ones ends a
shell that reads a script; a fault in one of the others is a failure like any other.
-/

import AssociationCheck.Shell.Builtin.Directories
import AssociationCheck.Shell.Builtin.Flow
import AssociationCheck.Shell.Builtin.Names
import AssociationCheck.Shell.Builtin.Options
import AssociationCheck.Shell.Builtin.Permissions
import AssociationCheck.Shell.Builtin.Reading
import AssociationCheck.Shell.Builtin.Signals
import AssociationCheck.Shell.Builtin.Texts

namespace AssociationCheck.Shell

namespace Execution

def noJobs : Execution Nat := do
  fail (if ← isExtended then "no job control" else "No current job")

def builtin? (inner : Inner) (name : String) (arguments : List String)
    (lists : List GivenList) : Execution (Option Nat) := do
  let known := specialBuiltins ++ regularBuiltins (← process).dialect
  if !known.contains name then pure none
  else
    let status ←
      match name with
      | ":" => pure 0
      | "true" => pure 0
      | "false" => pure 1
      | "." => source inner arguments
      | "source" => source inner arguments
      | "break" => breakOff arguments
      | "continue" => continueOn arguments
      | "eval" => evalWords inner arguments
      | "exit" => exitWith arguments
      | "return" => returnWith arguments
      | "export" => exportNames lists arguments
      | "readonly" => protectNames lists arguments
      | "set" => setArguments arguments
      | "shift" => shiftArguments arguments
      | "times" => say "0m0.000000s 0m0.000000s\n0m0.000000s 0m0.000000s\n"
      | "trap" => setTraps arguments
      | "unset" => unsetNames arguments
      | "[" => testWords name arguments
      | "test" => testWords name arguments
      | "alias" => nameAliases arguments
      | "unalias" => dropAliases arguments
      | "bg" => noJobs
      | "fg" => noJobs
      | "jobs" => pure 0
      | "cd" => changeDirectory arguments
      | "chdir" => changeDirectory arguments
      | "echo" => echoWords arguments
      | "getopts" => readOption arguments
      | "hash" => rememberPaths arguments
      | "kill" => killPrograms arguments
      | "local" => hideNames lists arguments
      | "declare" => do declareNames [] (!(← process).hidden.isEmpty) lists arguments
      | "typeset" => do declareNames [] (!(← process).hidden.isEmpty) lists arguments
      | "mapfile" => readRow arguments
      | "readarray" => readRow arguments
      | "shopt" => setSwitches arguments
      | "pushd" => enterDirectory arguments
      | "popd" => leaveDirectory
      | "dirs" => listDirectories arguments
      | "let" => computeAll arguments
      | "printf" => printFormatted arguments
      | "pwd" => showDirectory arguments
      | "read" => readNames arguments
      | "type" => describeAll arguments
      | "ulimit" => setLimit arguments
      | "umask" => setMask arguments
      | "wait" => waitFor arguments
      | _ => pure 0
    pure (some status)

end Execution

end AssociationCheck.Shell
