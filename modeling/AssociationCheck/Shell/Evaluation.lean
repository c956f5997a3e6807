/-
Carrying out commands.

Commands are carried out by what they are made of: pipelines, loops, branches, groups and
functions. Commands inside of others are carried out one level deeper.
-/

import AssociationCheck.Shell.Asking

namespace AssociationCheck.Shell

namespace Execution

/-! ### Pipelines -/

/-- Carries out the stages of a pipeline one after the other, each on what the one before it has
written; gives their statuses. -/
def runStages (inner : Inner) (tested : Bool) : Option Nat → List Command → Execution (List Nat)
  | _, [] => pure []
  | input, [last] => do
      let status ← separately inner (do
        if input.isSome then setDescriptor 0 input
        inner.command tested last)
      pure [status]
  | input, stage :: rest => do
      let channel ← onMachine (Machine.add (.sink []))
      let status ← separately inner (do
        if input.isSome then setDescriptor 0 input
        setDescriptor 1 (some channel)
        inner.command tested stage)
      let text ← onMachine (Machine.collected channel)
      let next ← onMachine (Machine.add (.source text))
      pure (status :: (← runStages inner tested (some next) rest))

/-- The status of a pipeline: that of its last stage, or of the last one that failed. -/
def pipelineStatus (inner : Inner) (tested : Bool) (stages : List Command) : Execution Nat := do
  let statuses ← runStages inner tested none stages
  changeProcess (fun process => { process with stages := statuses })
  let last := statuses.getLastD 0
  if ← hasOption 'q' then pure ((statuses.reverse.find? (· ≠ 0)).getD 0) else pure last

/-- Carries out a command aside, which here has ended when the next one begins. -/
def runAside (inner : Inner) (body : Command) : Execution Nat := do
  let (number, ended) ← apart inner (do
    let channel ← onMachine (Machine.add (.device .nothing))
    setDescriptor 0 (some channel)
    inner.command false body)
  changeProcess (fun process =>
    { process with
      lastAside := some number, asides := (number, ended.seen) :: process.asides })
  pure 0

/-! ### Loops -/

def roundLimit : Nat := 1000000

inductive Round
  | on (status : Nat)
  | off (status : Nat)

def runRound (inner : Inner) (tested : Bool) (body : Command) : Execution Round := do
  let loops := (← process).loops
  try
    pure (.on (← inner.command tested body))
  catch stop => do
    changeProcess (fun process => { process with loops := loops })
    match stop with
    | .breakLoop count => if count ≤ 1 then pure (.off 0) else throw (.breakLoop (count - 1))
    | .continueLoop count => if count ≤ 1 then pure (.on 0) else throw (.continueLoop (count - 1))
    | stop => throw stop

/-- Carries out a loop, inside of which loops can be left. -/
def insideLoop (run : Execution Nat) : Execution Nat := do
  changeProcess (fun process => { process with loops := process.loops + 1 })
  let leave : Execution Unit :=
    changeProcess (fun process => { process with loops := process.loops - 1 })
  try
    let status ← run
    leave
    pure status
  catch stop => do
    leave
    throw stop

def loopFrom (inner : Inner) (tested whileTrue : Bool) (test body : Command) :
    Nat → Nat → Execution Nat
  | 0, _ => throw .exhausted
  | rounds + 1, status => do
      match ← runRound inner true test with
      | .off status => pure status
      | .on answer =>
          if (answer = 0) != whileTrue then pure status
          else
            match ← runRound inner tested body with
            | .off status => pure status
            | .on status => loopFrom inner tested whileTrue test body rounds status

def eachFrom (inner : Inner) (tested : Bool) (head name : String) (body : Command) :
    List String → Nat → Execution Nat
  | [], status => pure status
  | value :: rest, _ => do
      traceHead head
      give name value
      match ← runRound inner tested body with
      | .off status => pure status
      | .on status => eachFrom inner tested head name body rest status

def compute (inner : Inner) (expression : Word) : Execution Int := do
  let text ← textOf inner expression
  traceHead ("(( " ++ text ++ " ))")
  blaming "((" (evaluateText text)

def countFrom (inner : Inner) (tested : Bool) (test step : Word) (body : Command) :
    Nat → Nat → Execution Nat
  | 0, _ => throw .exhausted
  | rounds + 1, status => do
      let text ← textOf inner test
      let goes ← if text.toList.all FormatArgument.isSpace then pure true
        else do pure (decide ((← compute inner test) ≠ 0))
      if !goes then pure status
      else
        match ← runRound inner tested body with
        | .off status => pure status
        | .on status => do
            let _ ← compute inner step
            countFrom inner tested test step body rounds status


/-! ### Commands -/

def failed (inner : Inner) (status : Nat) : Execution Unit := do
  let process ← process
  let inFunction := !process.hidden.isEmpty && !process.options.contains 'E'
  match process.traps.lookup 66 with
  | some action =>
      if !inFunction && !action.isEmpty then do
        setStatus status
        let others := process.traps.filter (fun (number, _) => number ≠ 66)
        changeProcess (fun process => { process with traps := others })
        runTrap inner action process.line
        changeProcess (fun process => { process with traps := process.traps ++ [(66, action)] })
  | none => pure ()

/-- Leaves a shell in which a failure is not expected. -/
def checked (inner : Inner) (tested : Bool) (status : Nat) : Execution Nat := do
  if status ≠ 0 && !tested then do
    failed inner status
    if ← hasOption 'e' then do
      setStatus status
      throw (.leave status)
    else pure status
  else pure status

def onLine (line : Nat) : Execution Unit :=
  changeProcess (fun process => { process with line := line })

def sequence (inner : Inner) (tested : Bool) : List Command → Nat → Execution Nat
  | [], status => pure status
  | command :: rest, _ => do
      let status ← inner.command tested command
      sequence inner tested rest status

def perform (inner : Inner) (tested : Bool) : Command → Execution Nat
  | .simple line assignments words lists redirections => do
      let status ← simple inner tested line assignments words lists redirections
      changeProcess (fun process => { process with stages := [status] })
      checked inner tested status
  | .pipeline stages => do checked inner tested (← pipelineStatus inner tested stages)
  | .negated body => do
      let status ← inner.command true body
      pure (if status = 0 then 1 else 0)
  | .both first second => do
      let status ← inner.command true first
      if status = 0 then inner.command tested second else pure status
  | .either first second => do
      let status ← inner.command true first
      if status = 0 then pure status else inner.command tested second
  | .sequence commands => sequence inner tested commands 0
  | .aside body => runAside inner body
  | .separate line body => do
      onLine line
      checked inner tested (← separately inner (inner.command tested body))
  | .redirected line body redirections => do
      if line ≠ 0 then onLine line
      restoring (← process).descriptors (do
        match ← redirectAll inner redirections with
        | some status => checked inner tested status
        | none => inner.command tested body)
  | .branch test body otherwise => do
      let status ← inner.command true test
      if status = 0 then inner.command tested body else inner.command tested otherwise
  | .loop whileTrue test body =>
      insideLoop (loopFrom inner tested whileTrue test body roundLimit 0)
  | .each line name words body => do
      onLine line
      if !isName name then warn 1 (between name ++ ": not a valid identifier")
      else
        let values ← match words with
          | some words => allFields inner words
          | none => do pure (← process).arguments
        let shown := match words with
          | some words => String.intercalate " " (words.map sourceText)
          | none => "\"$@\""
        insideLoop (eachFrom inner tested ("for " ++ name ++ " in " ++ shown) name body values 0)
  | .choice line subject arms => do
      onLine line
      traceHead ("case " ++ sourceText subject ++ " in")
      let text ← singleText inner subject
      chooseFrom inner tested text false 0 arms
  | .define name body => do
      let source := (← process).source
      changeProcess (fun process =>
        { process with
          functions := (name, ⟨body, source⟩) ::
            process.functions.filter (fun (own, _) => own != name) })
      pure 0
  | .question line question => do
      onLine line
      let value ← ask inner question
      checked inner tested (if value then 0 else 1)
  | .compute line expression => do
      onLine line
      let run : Execution Nat := do pure (if (← compute inner expression) = 0 then 1 else 0)
      checked inner tested (← caught run)
  | .count line start test step body => do
      onLine line
      let _ ← compute inner start
      insideLoop (countFrom inner tested test step body roundLimit 0)

/-- Carries out a command, keeps its status, and receives the signals that have come. -/
def carryOut (inner : Inner) (tested : Bool) (command : Command) : Execution Nat := do
  if ← hasOption 'n' then pure 0
  else
    let status ← perform inner tested command
    setStatus status
    receiveAll inner
    pure status

end Execution

end AssociationCheck.Shell
