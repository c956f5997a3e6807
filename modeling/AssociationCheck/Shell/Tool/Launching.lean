/-
Programs that start others.

They change what a program is started with, or make its arguments of what they read.
-/

import AssociationCheck.Shell.Tool.Words

namespace AssociationCheck.Shell

abbrev Starter := String → Surroundings → Machine.Run (Except SystemFault ExitStatus)

namespace Tool

open Program

/-! ### Programs that start others -/

def pathOf? (path : String) (name : String) : Program (Option String) := do
  if name.toList.contains '/' then pure (some name)
  else
    let files := (← getThe Machine).files
    let own := (← surroundings).directory
    let paths := (path.splitOn ":").map (fun directory =>
      if directory.isEmpty then name else directory ++ "/" ++ name)
    pure (if name.isEmpty then none
      else paths.find? (fun path => files.isFile (Machine.absolute own path)))

def startWith (start : Starter) (name : String) (arguments : List String)
    (environment : List (String × String)) : Program (Except SystemFault ExitStatus) := do
  let surroundings ← surroundings
  let path := (environment.lookup "PATH").getD "/bin:/usr/bin"
  match ← pathOf? path name with
  | none => pure (.error .notFound)
  | some found => do
      let started :=
        { surroundings with name := name, arguments := arguments, environment := environment }
      match ← start found started with
      | .error .notExecutable =>
          start "/bin/sh" { started with name := "/bin/sh", arguments := found :: arguments }
      | result => pure result

def notStarted (name : String) (fault : SystemFault) : Program ExitStatus := do
  report (quoted name ++ ": " ++ fault.text)
  pure (.code (if fault == .notFound then 127 else 126))

/-- The words of a text, which quotes hold together. -/
def wordsIn : Nat → List Char → Option Char → Option (List Char) → List String
  | 0, _, _, current => (current.map (fun chars => String.ofList chars.reverse)).toList
  | _, [], _, current => (current.map (fun chars => String.ofList chars.reverse)).toList
  | fuel + 1, c :: rest, quote, current =>
      let more (c : Char) : Option (List Char) := some (c :: current.getD [])
      match quote with
      | some mark =>
          if c = mark then wordsIn fuel rest none (some (current.getD []))
          else wordsIn fuel rest quote (more c)
      | none =>
          if c = '\'' || c = '"' then wordsIn fuel rest (some c) (some (current.getD []))
          else if c = '\\' then
            match rest with
            | d :: rest => wordsIn fuel rest none (some (d :: current.getD []))
            | [] => wordsIn fuel [] none current
          else if c = ' ' || c = '\t' || c = '\n' then
            (current.map (fun chars => String.ofList chars.reverse)).toList ++
              wordsIn fuel rest none none
          else wordsIn fuel rest none (more c)

structure Wanted where
  environment : List (String × String)
  words : List String := []
  fault : Option OptionFault := none

def setVariable (environment : List (String × String)) (name value : String) :
    List (String × String) :=
  if (environment.lookup name).isSome then
    environment.map (fun entry => if entry.1 == name then (name, value) else entry)
  else environment ++ [(name, value)]

def wantedFrom : Nat → List String → Wanted → Wanted
  | 0, _, wanted => wanted
  | _, [], wanted => wanted
  | fuel + 1, argument :: rest, wanted =>
      let without (name : String) : Wanted :=
        { wanted with environment := wanted.environment.filter (fun (own, _) => own != name) }
      let split (text : String) (rest : List String) : Wanted :=
        wantedFrom fuel (wordsIn (text.length + 1) text.toList none none ++ rest) wanted
      match argument, rest with
      | "-i", _ => wantedFrom fuel rest { wanted with environment := [] }
      | "-", _ => wantedFrom fuel rest { wanted with environment := [] }
      | "--ignore-environment", _ => wantedFrom fuel rest { wanted with environment := [] }
      | "--", _ => assignments rest wanted
      | "-u", name :: rest => wantedFrom fuel rest (without name)
      | "-S", text :: rest => split text rest
      | _, _ =>
          match argument.toList with
          | '-' :: 'S' :: text => split (String.ofList text) rest
          | '-' :: 'u' :: name => wantedFrom fuel rest (without (String.ofList name))
          | '-' :: c :: _ =>
              { wanted with
                fault := some (if c = '-' then .unknownWord argument
                  else if c = 'u' || c = 'S' then .noValue c else .unknown c) }
          | _ => assignments (argument :: rest) wanted
where
  assignments (words : List String) (wanted : Wanted) : Wanted :=
    match words with
    | word :: rest =>
        let name := String.ofList (word.toList.takeWhile (· ≠ '='))
        if name.length < word.length && !name.isEmpty then
          assignments rest
            { wanted with
              environment := setVariable wanted.environment name
                (String.ofList (word.toList.drop (name.length + 1))) }
        else { wanted with words := words }
    | [] => wanted

def env (start : Starter) : Program ExitStatus := do
  let surroundings ← surroundings
  let size := (surroundings.arguments.map String.length).foldl (· + ·) 0
  let wanted := wantedFrom (size + surroundings.arguments.length + 1) surroundings.arguments
    { environment := surroundings.environment }
  match wanted.fault, wanted.words with
  | some fault, _ => do pure (.code (← misused fault.text 125))
  | none, [] => do
      pure (.code (← print (textOfLines (wanted.environment.map (fun (name, value) =>
        name ++ "=" ++ value))) 0))
  | none, name :: arguments => do
      match ← startWith start name arguments wanted.environment with
      | .ok ended => pure ended
      | .error fault => do
          let ended ← notStarted name fault
          if name.toList.contains ' ' then
            complain ("env: use -[v]S to pass options in shebang lines\n")
          pure ended

def printenv : Program Nat := do
  let surroundings ← surroundings
  match surroundings.arguments with
  | [] => print (textOfLines (surroundings.environment.map (fun (name, value) =>
      name ++ "=" ++ value))) 0
  | names => do
      let found := names.filterMap (fun name => surroundings.environment.lookup name)
      print (textOfLines found) (if found.length = names.length then 0 else 1)

def passOn (start : Starter) (blame : String) (words : List String)
    (missing : Program Nat) : Program ExitStatus := do
  match words with
  | [] => do pure (.code (← missing))
  | name :: arguments => do
      match ← startWith start name arguments (← surroundings).environment with
      | .ok ended => pure ended
      | .error fault => do
          report (blame ++ quoted name ++ ": " ++ fault.text)
          pure (.code (if fault == .notFound then 127 else 126))

def notRun : String := "failed to run command "

/-- Starts a program at another rank, which changes nothing here. -/
def nice (start : Starter) : Program ExitStatus := do
  let words := (← surroundings).arguments
  let words :=
    match words with
    | "-n" :: _ :: rest => rest
    | first :: rest => if first.startsWith "-" then rest else words
    | [] => []
  passOn start "" words (print "0\n" 0)

def nohup (start : Starter) : Program ExitStatus := do
  passOn start notRun (← surroundings).arguments (misused "missing operand" 125)

/-- Starts a program with other buffers, which changes nothing here. -/
def stdbuf (start : Starter) : Program ExitStatus := do
  let words := (← surroundings).arguments
  let rest := words.dropWhile (·.startsWith "-")
  if rest.length = words.length then
    pure (.code (← misused "you must specify a buffering mode option" 125))
  else passOn start notRun rest (misused "missing operand" 125)

def duration? (text : String) : Option Nat :=
  let chars := text.toList
  let (chars, unit) :=
    match chars.getLast? with
    | some 's' => (chars.dropLast, 1)
    | some 'm' => (chars.dropLast, 60)
    | some 'h' => (chars.dropLast, 3600)
    | some 'd' => (chars.dropLast, 86400)
    | _ => (chars, 1)
  match decimal? (String.ofList chars) with
  | some (value, places) =>
      if value < 0 then none else some (1000 * unit * value.toNat / tenTo places)
  | none => none

def withoutFlags : List String → List String
  | "-s" :: _ :: rest => withoutFlags rest
  | "-k" :: _ :: rest => withoutFlags rest
  | word :: rest => if word.startsWith "-" then withoutFlags rest else word :: rest
  | [] => []

/-- Starts a program that may take so long. Only waiting takes time here. -/
def timeout (start : Starter) : Program ExitStatus := do
  let missing : Program Nat := do
    tryHelp
    pure 125
  match withoutFlags (← surroundings).arguments with
  | limit :: name :: rest =>
      match duration? limit with
      | none => do pure (.code (← misused ("invalid time interval " ++ quoted limit) 125))
      | some limit =>
          let taken := ((rest.filterMap duration?).foldl (· + ·) 0)
          let waits :=
            lastComponent name = "sleep" && rest.all (fun word => (duration? word).isSome)
          if waits && limit ≠ 0 && limit < taken then pure (.code 124)
          else passOn start notRun (name :: rest) missing
  | _ => do pure (.code (← missing))

def kill : Program Nat := do
  let usage : Program Nat := do
    complain "\nUsage:\n kill [options] <pid> [...]\n"
    pure 1
  let sendAll (signal : Signal) (targets : List String) : Program Nat := do
    let last := (← getThe Machine).lastProgram
    targets.foldlM
      (fun status target => do
        match target.toNat? with
        | none => do
            report ("failed to parse argument: " ++ quoted target)
            pure 1
        | some number =>
            if number > last then do
              report ("(" ++ target ++ "): No such process")
              pure 1
            else do
              if signal.number ≠ 0 then Machine.send number signal
              pure status)
      0
  let named? (name : String) : Option Signal :=
    if name.startsWith "SIG" then Signal.ofName? (String.ofList (name.toList.drop 3))
    else Signal.ofWord? name
  match (← surroundings).arguments with
  | [] => usage
  | "-s" :: name :: targets =>
      match named? name with
      | some signal => sendAll signal targets
      | none => usage
  | first :: targets =>
      match first.toList with
      | '-' :: name =>
          match named? (String.ofList name) with
          | some signal => sendAll signal targets
          | none => usage
      | _ => sendAll ⟨15⟩ (first :: targets)

def xargs (start : Starter) : Program ExitStatus := do
  let surroundings ← surroundings
  match { flags := "0rtx", valued := "nILdPs", first := true, words := [("null", '0', false),
      ("no-run-if-empty", 'r', false), ("max-args", 'n', true)] : Options }.read
      surroundings.arguments with
  | .error fault => do pure (.code (← misused fault.text 1))
  | .ok given => do
      let text := ((← readInput).toOption).getD ""
      let replaced := given.value? 'I'
      let items :=
        if given.has '0' then (text.splitOn (Char.ofNat 0).toString).filter (!·.isEmpty)
        else
          match replaced, given.value? 'd' with
          | some _, _ => (linesOf text).map (fun line =>
              String.ofList ((bareLine line).toList.dropWhile (fun c => c = ' ' || c = '\t')))
          | none, some mark =>
              let mark := if mark = "\\n" then "\n" else mark
              let pieces := text.splitOn mark
              if text.endsWith mark then pieces.dropLast else pieces
          | none, none => wordsIn (text.length + 1) text.toList none none
      let words := if given.operands.isEmpty then ["echo"] else given.operands
      let calls : List (List String) :=
        match replaced with
        | some mark => (items.filter (!·.isEmpty)).map (fun item =>
            words.map (fun word => word.replace mark item))
        | none =>
            let size := ((given.value? 'n').bind String.toNat?).getD (items.length + 1)
            let groups := inParts (max 1 size) (items.length + 1) items
            let groups := if groups.isEmpty && !given.has 'r' then [[]] else groups
            groups.map (fun group => words ++ group)
      let status ← calls.foldlM
        (fun status call => do
          match call with
          | [] => pure status
          | name :: arguments => do
              if status = 127 || status = 126 || status = 124 then pure status
              else
                match ← startWith start name arguments surroundings.environment with
                | .ok (.code 0) => pure status
                | .ok (.code 255) => pure 124
                | .ok (.code _) => pure 123
                | .ok (.signal _) => pure 125
                | .error fault => do
                    report (name ++ ": " ++ fault.text)
                    pure (if fault == .notFound then 127 else 126))
        0
      pure (.code status)

end Tool

end AssociationCheck.Shell
