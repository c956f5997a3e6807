/-
The program.

A run finds its input files, reads them in order, and analyses what they hold. Its result is
printed as text or as JSON; the exit code says whether there are errors, or that the run could not
be carried out.
-/

import AssociationCheck.Analysis.Report
import AssociationCheck.Analysis.Run
import AssociationCheck.Command.Settings

namespace AssociationCheck

/-! ### Input files -/

/-- The input files that a path stands for: all files below a directory whose names end in
`.json`, in order, or the file itself. -/
def FileTree.discover (files : FileTree) (directory path : String) :
    Except RunError (List String) :=
  let path := Path.join directory path
  match files.entry path with
  | .ok (location, .directory) =>
      let ways := (files.filesBelow location).filter (fun way =>
        match way.getLast? with
        | some name => Path.hasExtension name "json"
        | none => false)
      .ok (ways.map (fun way => way.foldl Path.join path))
  | .ok (_, .file _) => .ok [path]
  | .ok (_, .program _) => .ok [path]
  | _ => .error (.missingInput path)

def FileTree.discoverAll (files : FileTree) (directory : String) :
    List String → Except RunError (List String)
  | [] => .ok []
  | path :: others => do
      let first ← files.discover directory path
      let rest ← files.discoverAll directory others
      pure (first ++ rest)

def FileTree.readInputs (files : FileTree) : List String → Except RunError AnalysisInput
  | [] => .ok {}
  | path :: others => do
      let first ← files.decode path AnalysisInput.decode
      let rest ← files.readInputs others
      pure (first.append rest)

/-! ### Runs -/

structure RunResult where
  analysis : AnalysisResult
  filesRead : List String
  deriving DecidableEq, Repr

def noSnapshot : StateM FileTree (Except LoaderError Snapshot) :=
  pure (.error (.missingScript ""))

/-- Carries out a run in a directory, with the variables that its bootstrap script sees. -/
def runIn (arguments : Arguments) (directory : String) (environment : List (String × String)) :
    StateM FileTree (Except RunError RunResult) := do
  let files ← get
  let prepared : Except RunError (Settings × List String × AnalysisInput) := do
    let settings ← Settings.resolve arguments files directory
    let paths ← files.discoverAll directory arguments.paths
    let input ← files.readInputs paths
    pure (settings, paths, input)
  match prepared with
  | .error error => pure (.error error)
  | .ok (settings, paths, input) =>
      let (analysis, _) ←
        match settings.bootstrap? with
        | some bootstrap => analyse (bootstrap.load environment) settings.options input (.live {})
        | none => analyse noSnapshot settings.options input (.static {})
      pure (.ok ⟨analysis, paths⟩)

/-! ### The printed result -/

def RunResult.printed (result : RunResult) (format : OutputFormat) (colour : Bool) : String :=
  let diagnostics := result.analysis.diagnostics
  match format with
  | .json => Report.json diagnostics ++ "\n"
  | .text =>
      (if diagnostics.isEmpty then "" else Report.text colour diagnostics ++ "\n\n") ++
        Report.summary colour diagnostics.length result.analysis.classesChecked ++ "\n"

def exitCode : Except RunError RunResult → Nat
  | .ok result => if result.analysis.diagnostics.isEmpty then 0 else 1
  | .error _ => 2

def ArgumentError.exitCode : ArgumentError → Nat
  | help => 0
  | version => 0
  | _ => 2

end AssociationCheck
