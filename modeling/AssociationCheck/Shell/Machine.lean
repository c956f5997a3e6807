/-
The machine that programs run on.

Programs see files and descriptors. A descriptor is a number of a program that leads to a channel
of the machine: to bytes that are waiting to be read, to bytes that are collected, to a place in a
file, or to a device. Descriptors that lead to one channel share its place. Texts of programs have
one character for each byte.
-/

import AssociationCheck.Files.Tree
import AssociationCheck.Shell.Script
import AssociationCheck.Shell.Signal
import AssociationCheck.Text.Octets

namespace AssociationCheck.Shell

inductive Channel
  /-- What is still to be read. -/
  | source (rest : String)
  /-- What has been written, the last part first. -/
  | sink (written : List String)
  /-- A place in a file; what is appended goes to its end instead. -/
  | file (location : Location) (place : Nat) (append : Bool)
  | device (device : Device)
  deriving DecidableEq, Repr, Inhabited

structure Machine where
  files : FileTree
  channels : Array Channel := #[]
  /-- The number of the last program that was started. -/
  lastProgram : Nat := 0
  /-- Signals that have been sent and not yet received, by program. -/
  sent : List (Nat × Signal) := []

structure Surroundings where
  name : String
  arguments : List String := []
  environment : List (String × String) := []
  directory : Location := []
  descriptors : List (Nat × Nat) := []
  number : Nat := 0
  /-- The program that started this one. -/
  starter : Nat := 0
  ignored : List Signal := []

def pathOf (location : Location) : String := "/" ++ String.intercalate "/" location

namespace Machine

abbrev Run := StateM Machine

def add (channel : Channel) : Run Nat := do
  let machine ← get
  set { machine with channels := machine.channels.push channel }
  pure machine.channels.size

def setChannel (number : Nat) (channel : Channel) : Run Unit :=
  modify (fun machine => { machine with channels := machine.channels.setIfInBounds number channel })

def collected (number : Nat) : Run String := do
  match (← get).channels[number]? with
  | some (.sink written) => pure (String.join written.reverse)
  | _ => pure ""

def bytesFrom (machine : Machine) (location : Location) (place : Nat) : List UInt8 :=
  match machine.files.at? location with
  | some entry => entry.bytes.drop place
  | none => []

/-- The number of zeros after which those without an end are cut. -/
def zerosLimit : Nat := 2000000

def readAll (number : Nat) : Run (Except SystemFault String) := do
  let machine ← get
  match machine.channels[number]? with
  | some (.source rest) =>
      setChannel number (.source "")
      pure (.ok rest)
  | some (.file location place append) =>
      if machine.files.at? location == some .directory then pure (.error .isDirectory)
      else
        let bytes := machine.bytesFrom location place
        setChannel number (.file location (place + bytes.length) append)
        pure (.ok (Text.octets bytes))
  | some (.device .zeros) =>
      pure (.ok (String.ofList (List.replicate zerosLimit (Char.ofNat 0))))
  | some (.device _) => pure (.ok "")
  | some (.sink _) => pure (.ok "")
  | none => pure (.error .badDescriptor)

/-- Gives back what has been read too much; a source keeps it only if it is asked to. -/
def giveBack (number : Nat) (text : String) (toSource : Bool) : Run Unit := do
  match (← get).channels[number]? with
  | some (.source rest) => if toSource then setChannel number (.source (text ++ rest))
  | some (.file location place append) =>
      setChannel number (.file location (place - text.length) append)
  | _ => pure ()

/-- Bytes with others written over them from a place on; zeros fill the gap. -/
def written (bytes new : List UInt8) (place : Nat) : List UInt8 :=
  let before := bytes.take place
  before ++ List.replicate (place - before.length) 0 ++ new ++ bytes.drop (place + new.length)

/-- The most that a channel collects; a program that writes more comes to its end. -/
def collectionLimit : Nat := 4000000

def write (number : Nat) (text : String) : Run (Except SystemFault Unit) := do
  let machine ← get
  match machine.channels[number]? with
  | some (.sink parts) =>
      setChannel number (.sink (text :: parts))
      pure (.ok ())
  | some (.file location place append) =>
      match machine.files.at? location with
      | some (.file file) =>
          let new := Text.bytesOfOctets text
          let start := if append then file.bytes.length else place
          let bytes := written file.bytes new start
          set { machine with
            files := machine.files.set location (.file { file with bytes := bytes }) }
          setChannel number (.file location (start + new.length) append)
          pure (.ok ())
      | some .directory => pure (.error .badDescriptor)
      | _ => pure (.ok ())
  | some (.device .full) => pure (.error .noSpace)
  | some (.device _) => pure (.ok ())
  | some (.source _) => pure (.error .badDescriptor)
  | none => pure (.error .badDescriptor)

def send (program : Nat) (signal : Signal) : Run Unit :=
  modify (fun machine => { machine with sent := machine.sent ++ [(program, signal)] })

/-- Takes the signals that have been sent to a program. -/
def received (program : Nat) : Run (List Signal) := do
  let machine ← get
  let (mine, others) := machine.sent.partition (fun (number, _) => number = program)
  set { machine with sent := others }
  pure (mine.map Prod.snd)

def newProgram : Run Nat := do
  let machine ← get
  set { machine with lastProgram := machine.lastProgram + 1 }
  pure (machine.lastProgram + 1)

/-! ### Paths -/

def absolute (directory : Location) (path : String) : String :=
  if path.isEmpty then "" else Path.join (pathOf directory) (Text.textOfOctets path)

def entry (directory : Location) (path : String) :
    Run (Except SystemFault (Location × FileEntry)) := do
  pure ((← get).files.entry (absolute directory path))

/-- The descriptor that a path of a device stands for. -/
def descriptorPath? (path : String) : Option Nat :=
  match path with
  | "/dev/stdin" => some 0
  | "/dev/stdout" => some 1
  | "/dev/stderr" => some 2
  | _ =>
      if path.startsWith "/dev/fd/" then (String.ofList (path.toList.drop 8)).toNat?
      else if path.startsWith "/proc/self/fd/" then (String.ofList (path.toList.drop 14)).toNat?
      else none

/-- Where a file that is not yet there is to stand, behind the links that lead to it. -/
def newPlace (files : FileTree) : Nat → String → Except SystemFault Location
  | 0, _ => .error .tooManyLinks
  | links + 1, path => do
      let place ← files.place path
      match files.at? place with
      | some (.link target) => newPlace files links (Path.join (pathOf place.dropLast) target)
      | _ => pure place

def openFile (directory : Location) (descriptors : List (Nat × Nat)) (opening : Opening)
    (path : String) : Run (Except SystemFault Nat) := do
  match descriptorPath? path with
  | some descriptor =>
      match descriptors.lookup descriptor with
      | some number => pure (.ok number)
      | none => pure (.error .notFound)
  | none =>
      let machine ← get
      let full := absolute directory path
      match machine.files.entry full with
      | .ok (location, entry) =>
          match entry, opening with
          | .device device, _ => do pure (.ok (← add (.device device)))
          | _, .read => do pure (.ok (← add (.file location 0 false)))
          | .directory, _ => pure (.error .isDirectory)
          | .file file, .write | .file file, .rewrite => do
              set { machine with
                files := machine.files.set location (.file { file with bytes := [] }) }
              pure (.ok (← add (.file location 0 false)))
          | _, .append => do pure (.ok (← add (.file location 0 true)))
          | _, _ => do pure (.ok (← add (.file location 0 false)))
      | .error .notFound =>
          match opening with
          | .read => pure (.error .notFound)
          | _ =>
              match newPlace machine.files FileTree.linkLimit full with
              | .error fault => pure (.error fault)
              | .ok location =>
                  if full.endsWith "/" then pure (.error .isDirectory)
                  else
                    set { machine with files := machine.files.set location (.file ⟨[], false⟩) }
                    pure (.ok (← add (.file location 0 (opening == .append))))
      | .error fault => pure (.error fault)

end Machine

end AssociationCheck.Shell
