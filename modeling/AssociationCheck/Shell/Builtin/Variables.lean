/-
Commands that give names values, mark them, hide them in functions, or take them away.

The arguments of these commands may give lists to names. Such a list has been worked out already,
and is kept beside the arguments under the name that it is given to.
-/

import AssociationCheck.Shell.Builtin.Arguments

namespace AssociationCheck.Shell

structure GivenList where
  name : String
  adds : Bool
  items : List (Option String × String)

def Variable.letters (held : Variable) : List Char :=
  (match held.shape with
    | .single => []
    | .row => ['a']
    | .table => ['A']) ++
  (if held.whole then ['i'] else []) ++ (if held.readOnly then ['r'] else []) ++
  (if held.exported then ['x'] else [])

namespace Execution

def orderedVariables : Execution (List (String × Variable)) := do
  pure ((← process).bindings.mergeSort (fun first second => !decide (second.1 < first.1)))

/-! ### The standard commands -/

/-- The name in an argument that may give it a value, and the value. -/
def nameAndValue (text : String) : String × Option String :=
  let name := text.toList.takeWhile (· ≠ '=')
  (String.ofList name,
    if name.length < text.length then some (String.ofList (text.toList.drop (name.length + 1)))
    else none)

def markNames (command : String) (shown : Variable → Bool) (mark : Variable → Variable)
    (arguments : List String) : Execution Nat := do
  let (flags, names) ← flagsOf "p" arguments
  if names.isEmpty || flags.contains 'p' then
    let lines := (← orderedVariables).filterMap (fun (name, held) =>
      if shown held then
        some (command ++ " " ++ name ++ (match held.value with
          | some value => "=" ++ requoted value
          | none => ""))
      else none)
    say (textOfLines lines)
  else do
    names.forM (fun text => do
      let (name, value) := nameAndValue text
      if !isName name then fail (text ++ ": bad variable name")
      value.forM (give name)
      let found := (← held? name).getD {}
      putVariable name (mark found))
    pure 0

/-- Keeps what a name stood for, to be put back at the end of the function. -/
def hideName (name : String) : Execution Unit := do
  let old ← held? name
  changeProcess (fun process =>
    match process.hidden with
    | names :: others =>
        if (names.lookup name).isSome then process
        else { process with hidden := ((name, old) :: names) :: others }
    | [] => process)

def localNames (arguments : List String) : Execution Nat := do
  if (← process).hidden.isEmpty then fail "not in a function"
  else do
    arguments.forM (fun text => do
      let (name, value) := nameAndValue text
      if !isName name then fail (text ++ ": bad variable name")
      hideName name
      value.forM (give name))
    pure 0

/-! ### Declarations of the larger language -/

def doubleQuoted (text : String) : String :=
  if text.any (fun c => c.toNat < 32 || c.toNat = 127) then FormatStyle.hidden text
  else
    "\"" ++ String.join (text.toList.map (fun c =>
      if ['"', '\\', '$', backquote].contains c then "\\" ++ c.toString else c.toString)) ++ "\""

/-- A declaration from which a variable can be made again. -/
def declaration (name : String) (held : Variable) : String :=
  let letters := String.ofList held.letters
  let value :=
    match held.shape, held.value with
    | .single, some value => "=" ++ doubleQuoted value
    | .single, none => ""
    | .row, _ =>
        let items := held.ordered.map (fun (key, value) =>
          "[" ++ key ++ "]=" ++ doubleQuoted value)
        "=(" ++ String.intercalate " " items ++ ")"
    | .table, _ =>
        let items := held.ordered.map (fun (key, value) =>
          "[" ++ key ++ "]=" ++ doubleQuoted value ++ " ")
        "=(" ++ String.join items ++ ")"
  "declare -" ++ (if letters.isEmpty then "-" else letters) ++ " " ++ name ++ value

structure Marks where
  set : List Char := []
  cleared : List Char := []

def Marks.apply (marks : Marks) (held : Variable) : Variable :=
  let flag (letter : Char) (old : Bool) : Bool :=
    (old || marks.set.contains letter) && !marks.cleared.contains letter
  { held with
    exported := flag 'x' held.exported
    readOnly := flag 'r' held.readOnly
    whole := flag 'i' held.whole }

def marksIn : List String → Execution (Marks × List String)
  | [] => pure ({}, [])
  | argument :: rest => do
      match argument.toList with
      | sign :: c :: letters =>
          if argument = "--" then pure ({}, rest)
          else if sign = '-' || sign = '+' then
            match (c :: letters).find? (fun c => !"aAfFgiIlnrtuxp".toList.contains c) with
            | some c => misuse (sign.toString ++ c.toString ++ ": invalid option")
            | none => do
                let (marks, names) ← marksIn rest
                let letters := c :: letters
                pure (if sign = '-' then { marks with set := letters ++ marks.set }
                  else { marks with cleared := letters ++ marks.cleared }, names)
          else pure ({}, argument :: rest)
      | _ => pure ({}, argument :: rest)

def declareName (marks : Marks) (isLocal : Bool) (lists : List GivenList) (text : String) :
    Execution Unit := do
  let (written, value) := nameAndValue text
  let adds := value.isSome && written.endsWith "+"
  let name := if adds then String.ofList written.toList.dropLast else written
  if !isName name then fail (between text ++ ": not a valid identifier")
  let isHidden := (((← process).hidden.headD []).lookup name).isSome
  if isLocal && !isHidden then
    hideName name
    let old ← changeable name
    putVariable name { exported := old.exported }
  let found := (← held? name).getD {}
  let shape :=
    if marks.set.contains 'A' then Shape.table
    else if marks.set.contains 'a' || found.shape = .row then Shape.row
    else found.shape
  let found := if shape = found.shape then found else { found.emptied with shape := shape }
  let unlocked := { marks with set := marks.set.filter (· ≠ 'r') }
  putVariable name (unlocked.apply found)
  match lists.find? (fun list => list.name == name), value with
  | some list, _ => giveItems name list.adds list.items
  | none, some value => do
      let old ← if adds then do pure ((← value? name).getD "") else pure ""
      let value ← if unlocked.apply found |>.whole then do
          pure (toString (← evaluateText (if adds then old ++ "+(" ++ value ++ ")" else value)))
        else pure (old ++ value)
      give name value
  | none, none => pure ()
  let found := (← held? name).getD {}
  putVariable name (marks.apply found)

/-- Declares names; `preset` holds for all of them. -/
def declareNames (preset : List Char) (isLocal : Bool) (lists : List GivenList)
    (arguments : List String) : Execution Nat := do
  let (marks, names) ← marksIn arguments
  let shown (held : Variable) : Bool := preset.all held.letters.contains
  if marks.set.contains 'f' || marks.set.contains 'F' then do
    let functions := (← process).functions
    pure (if names.all (fun name => (functions.lookup name).isSome) then 0 else 1)
  else if names.isEmpty then
    let lines := (← orderedVariables).filter (fun (_, held) => shown held)
    say (textOfLines (lines.map (fun (name, held) => declaration name held)))
  else if marks.set.contains 'p' then
    names.foldlM
      (fun status name => do
        match ← held? name with
        | some held => do
            let _ ← say (declaration name held ++ "\n")
            pure status
        | none => warn 1 (name ++ ": not found"))
      0
  else do
    let cleared := if preset.contains 'x' && marks.set.contains 'n' then ['x'] else []
    let marks := { set := preset ++ marks.set, cleared := cleared ++ marks.cleared : Marks }
    names.foldlM
      (fun status text => do
        try
          declareName marks (isLocal && !marks.set.contains 'g') lists text
          pure status
        catch stop =>
          match stop with
          | .fault _ => pure 1
          | stop => throw stop)
      0

/-! ### Both -/

def exportNames (lists : List GivenList) (arguments : List String) : Execution Nat := do
  if ← isExtended then declareNames ['x'] false lists arguments
  else
    markNames "export" Variable.exported (fun held => { held with exported := true }) arguments

def protectNames (lists : List GivenList) (arguments : List String) : Execution Nat := do
  if ← isExtended then declareNames ['r'] false lists arguments
  else
    markNames "readonly" Variable.readOnly (fun held => { held with readOnly := true }) arguments

def hideNames (lists : List GivenList) (arguments : List String) : Execution Nat := do
  if ← isExtended then
    if (← process).hidden.isEmpty then warn 1 "can only be used in a function"
    else declareNames [] true lists arguments
  else localNames arguments

def unsetName (functionsOnly : Bool) (name : String) : Execution Unit := do
  let extended ← isExtended
  let dropFunction : Execution Unit :=
    changeProcess (fun process =>
      { process with functions := process.functions.filter (fun (own, _) => own != name) })
  if functionsOnly then dropFunction
  else if !isName name then
    match itemName? name with
    | some (list, item) => if extended then do
        let held ← changeable list
        let item ← if held.shape = .table then pure item
          else do pure (toString (← evaluateText item))
        putVariable list (held.withoutItem item)
    | none =>
        if extended then fail (between name ++ ": not a valid identifier")
        else fail (name ++ ": bad variable name")
  else
    match ← held? name with
    | some held =>
        if held.readOnly then
          fail (name ++
            (if extended then ": cannot unset: readonly variable" else ": is read only"))
        else dropVariable name
    | none => if extended then dropFunction

def unsetNames (arguments : List String) : Execution Nat := do
  let (flags, names) ← flagsOf (if ← isExtended then "fvn" else "fv") arguments
  names.forM (unsetName (flags.contains 'f'))
  pure 0

def computeAll (arguments : List String) : Execution Nat := do
  if arguments.isEmpty then warn 1 "expression expected"
  else
    let values ← arguments.mapM evaluateText
    pure (if values.getLast?.getD 0 = 0 then 1 else 0)

end Execution

end AssociationCheck.Shell
