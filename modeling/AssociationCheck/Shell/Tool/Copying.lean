/-
Programs that copy parts of files and change their sizes.

They copy blocks from one file to another, cut files off or fill them up with zeros, and give a
file a second name.
-/

import AssociationCheck.Shell.Tool.Filing
import AssociationCheck.Shell.Tool.Reading

namespace AssociationCheck.Shell

namespace Tool

open Program

/-! ### Sizes -/

def zeroText (count : Nat) : String := Directive.repeated count (Char.ofNat 0)

/-- A new size: as it is given, or by how much it differs from the old one. -/
def newSize? (text : String) (old : Nat) : Option Nat :=
  match text.toList with
  | '+' :: rest => (sizedNumber? (String.ofList rest)).map (old + ·)
  | '-' :: rest => (sizedNumber? (String.ofList rest)).map (old - ·)
  | '<' :: rest => (sizedNumber? (String.ofList rest)).map (min old)
  | '>' :: rest => (sizedNumber? (String.ofList rest)).map (max old)
  | _ => sizedNumber? text

def truncate : Program Nat :=
  withOptions { flags := "co", valued := "sr", words := [("size", 's', true),
    ("reference", 'r', true), ("no-create", 'c', false)] } 1 (fun given => do
    match given.value? 's', given.value? 'r' with
    | none, none => misused "you must specify either '--size' or '--reference'" 1
    | size, reference =>
        if given.operands.isEmpty then misused "missing file operand" 1
        else
          let wanted ← match size, reference with
            | none, some path => do pure ((← readPath path).toOption.map (fun text =>
                toString text.length))
            | size, _ => pure size
          match wanted with
          | none => do
              report ("cannot stat " ++ quoted (reference.getD "") ++ ": No such file or directory")
              pure 1
          | some wanted =>
              if (newSize? wanted 0).isNone then do
                report ("Invalid number: " ++ quoted wanted)
                pure 1
              else
                given.operands.foldlM
                  (fun status path => do
                    let old := ((← readPath path).toOption).getD ""
                    let isThere := (← entry path).toOption.isSome
                    if !isThere && given.has 'c' then pure status
                    else
                      let size := (newSize? wanted old.length).getD 0
                      let kept := String.ofList (old.toList.take size)
                      match ← writePath .write path (kept ++ zeroText (size - kept.length)) with
                      | .ok () => pure status
                      | .error fault => do
                          report ("cannot open " ++ quoted path ++ " for writing: " ++ fault.text)
                          pure 1)
                  0)

/-! ### Owners and second names -/

/-- Does nothing with two operands or more: all files have one owner here. -/
def paired : Program Nat :=
  withOptions { flags := "Rvcfh" } 1 (fun given => do
    match given.operands with
    | [] => misused "missing operand" 1
    | [only] => misused ("missing operand after " ++ quoted only) 1
    | _ => pure 0)

def link : Program Nat :=
  withOptions {} 1 (fun given => do
    match given.operands with
    | [] => misused "missing operand" 1
    | [only] => misused ("missing operand after " ++ quoted only) 1
    | _ :: _ :: extra :: _ => misused ("extra operand " ++ quoted extra) 1
    | [source, target] => do
        let fail (fault : SystemFault) : Program Nat := do
          report ("cannot create link " ++ quoted target ++ " to " ++ quoted source ++ ": " ++
            fault.text)
          pure 1
        match ← ownEntry source, ← newLocation target with
        | .error fault, _ => fail fault
        | _, .error fault => fail fault
        | .ok (_, found), .ok there =>
            if ((← getThe Machine).files.at? there).isSome then fail .alreadyExists
            else do
              changeFiles (fun files => files.set there found)
              pure 0)

def install : Program Nat :=
  withOptions { flags := "bcCdDpsTv", valued := "mogt", words := [("directory", 'd', false),
    ("mode", 'm', true), ("target-directory", 't', true)] } 1 (fun given => do
    if given.has 'd' then
      if given.operands.isEmpty then misused "missing file operand" 1
      else
        given.operands.foldlM
          (fun status path => do
            match ← makeAll (stepsTo path) with
            | .ok () => pure status
            | .error (path, fault) => do
                report ("cannot create directory " ++ quoted path ++ ": " ++ fault.text)
                pure 1)
          0
    else
      withTargets given (fun targets =>
        targets.sources.foldlM
          (fun status source => do
            match ← entry source with
            | .error fault => do
                report ("cannot stat " ++ quoted source ++ ": " ++ fault.text)
                pure 1
            | .ok (_, .directory) => do
                report ("omitting directory " ++ quoted source)
                pure 1
            | .ok (_, found) => do
                let target := destination targets source
                let executable :=
                  match (given.value? 'm').bind executableBy? with
                  | some (some executable) => executable
                  | _ => (given.value? 'm').isNone
                match ← newLocation target with
                | .error fault => do
                    report ("cannot create regular file " ++ quoted target ++ ": " ++ fault.text)
                    pure 1
                | .ok there => do
                    changeFiles (fun files =>
                      files.set there (.file ⟨found.bytes, executable⟩))
                    pure status)
          0))

/-! ### Blocks -/

def blockOperands : List String :=
  ["if", "of", "bs", "ibs", "obs", "count", "skip", "seek", "iseek", "oseek", "conv", "status",
    "iflag", "oflag", "cbs"]

def nameAndRest (operand : String) : String × Option String :=
  let name := String.ofList (operand.toList.takeWhile (· ≠ '='))
  (name, if name.length < operand.length then
    some (String.ofList (operand.toList.drop (name.length + 1))) else none)

def blockCounts (size length : Nat) : String :=
  toString (length / size) ++ "+" ++ (if length % size = 0 then "0" else "1")

def dd : Program Nat := do
  let operands := (← read).arguments.map (fun operand => (operand, nameAndRest operand))
  let isKnown (name : String) (value : Option String) : Bool :=
    blockOperands.contains name && value.isSome
  match operands.find? (fun (_, name, value) => !isKnown name value) with
  | some (operand, _) => misused ("unrecognized operand " ++ quoted operand) 1
  | none => do
      let given := operands.filterMap (fun (_, name, value) => value.map (name, ·))
      let value? (name : String) : Option String := given.reverse.lookup name
      let numbers := ["bs", "ibs", "obs", "count", "skip", "seek"]
      let wrong := given.find? (fun (name, value) =>
        numbers.contains name && (sizedNumber? value).isNone)
      match wrong with
      | some (_, value) => do
          report ("invalid number: " ++ quoted value)
          pure 1
      | none => do
          let number (name : String) (default : Nat) : Nat :=
            ((value? name).bind sizedNumber?).getD default
          let size := max 1 (number "bs" (number "ibs" 512))
          let input ← match value? "if" with
            | some path => readPath path
            | none => readInput
          match input with
          | .error fault => do
              report ((match value? "if" with
                | some path => "failed to open " ++ quoted path
                | none => "error reading 'standard input'") ++ ": " ++ fault.text)
              pure 1
          | .ok text => do
              let chars := text.toList.drop (size * number "skip" 0)
              let chars :=
                match (value? "count").bind sizedNumber? with
                | some count => chars.take (size * count)
                | none => chars
              let conversions := ((value? "conv").getD "").splitOn ","
              let chars :=
                if conversions.contains "ucase" then chars.map Char.toUpper
                else if conversions.contains "lcase" then chars.map Char.toLower
                else chars
              let copied := String.ofList chars
              let written ← match value? "of" with
                | none => writeTo 1 copied
                | some path => do
                    let found := ((← readPath path).toOption).getD ""
                    let old :=
                      if conversions.contains "notrunc" || (value? "seek").isSome then found
                      else ""
                    let start := size * number "seek" 0
                    let before := String.ofList (old.toList.take start)
                    let after :=
                      if conversions.contains "notrunc" then
                        String.ofList (old.toList.drop (start + copied.length))
                      else ""
                    writePath .write path
                      (before ++ zeroText (start - before.length) ++ copied ++ after)
              match written with
              | .error fault => do
                  report ((match value? "of" with
                    | some path => "failed to open " ++ quoted path
                    | none => "error writing 'standard output'") ++ ": " ++ fault.text)
                  pure 1
              | .ok () => do
                  if value? "status" ≠ some "none" then do
                    let counts := blockCounts size copied.length
                    complain (counts ++ " records in\n" ++ counts ++ " records out\n")
                  pure 0

end Tool

end AssociationCheck.Shell
