/-
Carrying out texts, and shells inside of shells.

A text is carried out line by line as it is read, so that what stands before a fault has been
done. Signals reach a shell between commands. Some commands are carried out by a shell of their
own, which has all that its shell has, but whose changes are lost when it ends.
-/

import AssociationCheck.Shell.Process

namespace AssociationCheck.Shell

namespace Execution

/-! ### Faults in texts -/

/-- What is said of a fault in a text by the standard rules. -/
def standardFaultText : ReadingFault → String
  | .unexpected token expected =>
      token ++ " unexpected" ++
        (match expected with
          | some text => " (expecting " ++ text ++ ")"
          | none => "")
  | .openQuote quote =>
      if quote = '"' then "Unterminated quoted string" else "Unterminated quoted string"
  | .openBackquote => "EOF in backquote substitution"
  | .openBrace => "Missing '\x7d'"
  | .openArithmetic => "Missing '))'"
  | .openBracket => "end of file unexpected"
  | .badQuestion _ near => near ++ " unexpected"
  | .badName => "Bad function name"
  | .badLoopVariable => "Bad for loop variable"
  | .tooDeep => "too deeply nested"

def between (text : String) : String := backquote.toString ++ text ++ "'"

/-- The lines in which the larger language reports a fault on a line of a text. -/
def extendedFaultTexts (line : String) : ReadingFault → List String
  | .unexpected token _ =>
      if token = "end of file" then ["syntax error: unexpected end of file"]
      else ["syntax error near unexpected token " ++ between token, between line]
  | .badQuestion reason near =>
      reason.toList ++ ["syntax error near " ++ between near, between line]
  | .openQuote quote => ["unexpected EOF while looking for matching " ++ between quote.toString]
  | .openBackquote =>
      ["unexpected EOF while looking for matching " ++ between backquote.toString]
  | .openBrace => ["unexpected EOF while looking for matching " ++ between "\x7d"]
  | .openArithmetic => ["unexpected EOF while looking for matching " ++ between ")"]
  | .openBracket => ["unexpected EOF while looking for matching " ++ between ")"]
  | .badName => ["syntax error near unexpected token " ++ between "("]
  | .badLoopVariable => ["syntax error: bad for loop variable"]
  | .tooDeep => ["syntax error: too deeply nested"]

/-- A text that is carried out, what it is called if it is no script, and the number of its first
line. -/
structure SourceText where
  text : String
  called : Option String := none
  line : Nat := 1

def failReading {α : Type} (source : SourceText) (line : Nat) (fault : ReadingFault) :
    Execution α := do
  changeProcess (fun process => { process with line := line })
  if ← isExtended then
    let called := (source.called.map (fun name => ": " ++ name)).getD ""
    let place := (← process).source ++ called ++ ": line " ++ toString line ++ ": "
    let shown := ((source.text.splitOn "\n")[line - source.line]?).getD ""
    (extendedFaultTexts shown fault).forM (fun text => writeError (place ++ text ++ "\n"))
    throw (.fault 2)
  else fail ("Syntax error: " ++ standardFaultText fault)

def warnUnended (line : Nat) (awaited : Awaited) : Execution Unit := do
  let process ← process
  if process.dialect == .extended then
    writeError (process.source ++ ": line " ++ toString line ++
      ": warning: here-document at line " ++ toString awaited.line ++
      " delimited by end-of-file (wanted " ++ between awaited.ending ++ ")\n")

/-! ### Texts -/

/-- A line of commands, whose faults end the line only in the larger language. -/
def runLine (inner : Inner) (tested : Bool) (command : Command) : Execution Nat := do
  try inner.command tested command
  catch stop => do
    match stop, ← isExtended with
    | .fault status, true => do
        setStatus status
        pure status
    | stop, _ => throw stop

/-- Carries out what remains of a text; without commands the status stays. -/
def runFrom (inner : Inner) (tested : Bool) (source : SourceText) :
    Nat → Reader → Nat → Execution Nat
  | 0, _, status => pure status
  | fuel + 1, reader, status => do
      let process ← process
      let reader :=
        { reader with
          documents := process.documents, nextDocument := process.nextDocument, unended := [] }
      match readLine.run reader with
      | .error (line, fault) => failReading source line fault
      | .ok (none, _) => pure status
      | .ok (some command, reader) => do
          reader.unended.forM (fun (line, awaited) => warnUnended line awaited)
          changeProcess (fun process =>
            { process with
              documents := reader.documents
              nextDocument := reader.nextDocument
              lineRead := reader.line })
          let status ←
            match command with
            | .sequence [] => pure status
            | _ => runLine inner tested command
          runFrom inner tested source fuel reader status

/-- Carries out a text. The larger language ends its last line. -/
def runSource (inner : Inner) (tested : Bool) (source : SourceText) : Execution Nat := do
  let dialect := (← process).dialect
  let chars := source.text.toList
  let lacksEnd := dialect == .extended &&
    (match chars.getLast? with
      | some c => c ≠ '\n' && c ≠ '\\'
      | none => false)
  let rest := if lacksEnd then chars ++ ['\n'] else chars
  let reader : Reader := { dialect := dialect, rest := rest, line := source.line }
  runFrom inner tested source (rest.length + 1) reader 0

def runText (inner : Inner) (tested : Bool) (source : SourceText) : Execution Nat := do
  let old ← process
  let restore : Execution Unit :=
    changeProcess (fun process => { process with depth := old.depth, blamed := old.blamed })
  changeProcess (fun process =>
    { process with
      depth := old.depth + 1
      blamed := if old.dialect == .extended then none else old.blamed })
  try
    let status ← runSource inner tested source
    restore
    pure status
  catch stop => do
    restore
    throw stop

/-! ### Signals -/

/-- Does what is to be done on a signal, as the text of a line; the status stays. -/
def runTrap (inner : Inner) (action : String) (line : Nat) : Execution Unit := do
  let status := (← process).status
  let _ ← runText inner false { text := action, line := line }
  setStatus status

def receive (inner : Inner) (signal : Signal) : Execution Unit := do
  let process ← process
  match process.traps.lookup signal.number with
  | some action => if action.isEmpty then pure () else runTrap inner action 1
  | none =>
      if signal.isHarmless || process.ignored.contains signal then pure ()
      else throw (.killed signal)

def receiveAll (inner : Inner) : Execution Unit := do
  let process ← process
  let signals ← onMachine (Machine.received process.number)
  signals.forM (receive inner)

/-! ### Ends -/

/-- The end of a shell that has come to a stop, and whether it is left at once. -/
def endOf : Stop → ExitStatus × Bool
  | .leave status => (.code status, false)
  | .killed signal => (.signal signal, true)
  | .replaced ended => (ended, true)
  | .returned status => (.code status, false)
  | .fault status => (.code status, false)
  | .breakLoop _ => (.code 0, false)
  | .continueLoop _ => (.code 0, false)
  | .exhausted => (.signal ⟨11⟩, true)

def finish (inner : Inner) (status : Nat) : Execution Nat := do
  match (← process).traps.lookup 0 with
  | none => pure status
  | some action => do
      changeProcess (fun process =>
        { process with
          traps := process.traps.filter (fun (number, _) => number ≠ 0), status := status })
      if action.isEmpty then pure status
      else
        try
          let _ ← runText inner false { text := action }
          pure status
        catch stop =>
          match stop with
          | .leave status => pure status
          | stop => throw stop

def ending (run : Execution Nat) : Execution (ExitStatus × Bool) := do
  try
    let status ← run
    pure (.code status, false)
  catch stop => pure (endOf stop)

def toEnd (inner : Inner) (run : Execution Nat) : Execution ExitStatus := do
  let (ended, atOnce) ← ending run
  match ended, atOnce with
  | .code status, false => do
      match ← ending (finish inner status) with
      | (.code status, _) => pure (.code (status % 256))
      | (ended, _) => pure ended
  | .signal signal, _ => do
      if (← isExtended) && [1, 2, 15].contains signal.number then
        let _ ← ending (finish inner ended.seen)
      pure ended
  | ended, _ => pure ended

/-- The status by which a shell sees the end of a program; what a signal ended is reported. -/
def seen (ended : ExitStatus) : Execution Nat := do
  match ended with
  | .code status => pure status
  | .signal signal => do
      if signal.number ≠ 2 && signal.number ≠ 13 && !(← isExtended) then
        writeError (signal.report ++ "\n")
      pure ended.seen

/-- Carries out commands in a shell of their own; gives its number and how it ends. -/
def apart (inner : Inner) (run : Execution Nat) : Execution (Nat × ExitStatus) := do
  let kept ← process
  let number ← onMachine Machine.newProgram
  changeProcess (fun process =>
    { process with
      number := number
      traps := process.traps.filter (fun (_, action) => action.isEmpty) })
  let ended ← toEnd inner (do
    let status ← run
    receiveAll inner
    pure status)
  setProcess kept
  pure (number, ended)

def separately (inner : Inner) (run : Execution Nat) : Execution Nat := do
  let (_, ended) ← apart inner run
  let status ← seen ended
  receiveAll inner
  pure status

end Execution

end AssociationCheck.Shell
