/-
A tree of files.

Directories, files and links are kept by their location, which is the list of names that lead to
them from the root. A path is looked up component by component, as the system does: through
directories only, with a point for the directory itself, two for the one above, and links leading
on to where they point. Beside what is kept in the tree, some directories, devices and programs
are always there.
-/

import AssociationCheck.Files.Path
import AssociationCheck.Files.Standing
import AssociationCheck.Text.Utf8

namespace AssociationCheck

structure FileTree where
  entries : List (Location × FileEntry)
  deriving DecidableEq, Repr

inductive SystemFault
  | notFound
  | permissionDenied
  | notExecutable
  | alreadyExists
  | notDirectory
  | isDirectory
  | nameTooLong
  | tooManyLinks
  | notEmpty
  | noSpace
  | invalidArgument
  | badDescriptor
  /-- The path has a character that ends every path. -/
  | endsEarly
  /-- The same of what a program is started with. -/
  | dataEndsEarly
  /-- The bytes of a file are not a text. -/
  | notText
  deriving DecidableEq, Repr

namespace SystemFault

def text : SystemFault → String
  | notFound => "No such file or directory"
  | permissionDenied => "Permission denied"
  | notExecutable => "Exec format error"
  | alreadyExists => "File exists"
  | notDirectory => "Not a directory"
  | isDirectory => "Is a directory"
  | nameTooLong => "File name too long"
  | tooManyLinks => "Too many levels of symbolic links"
  | notEmpty => "Directory not empty"
  | noSpace => "No space left on device"
  | invalidArgument => "Invalid argument"
  | badDescriptor => "Bad file descriptor"
  | endsEarly => "file name contained an unexpected NUL byte"
  | dataEndsEarly => "nul byte found in provided data"
  | notText => "stream did not contain valid UTF-8"

def number? : SystemFault → Option Nat
  | notFound => some 2
  | permissionDenied => some 13
  | notExecutable => some 8
  | badDescriptor => some 9
  | alreadyExists => some 17
  | notDirectory => some 20
  | isDirectory => some 21
  | invalidArgument => some 22
  | noSpace => some 28
  | nameTooLong => some 36
  | notEmpty => some 39
  | tooManyLinks => some 40
  | _ => none

def message (fault : SystemFault) : String :=
  match fault.number? with
  | some number => fault.text ++ " (os error " ++ toString number ++ ")"
  | none => fault.text

end SystemFault

namespace FileTree

def at? (tree : FileTree) : Location → Option FileEntry
  | [] => some .directory
  | location => (tree.entries.lookup location).or (standing? location)

def set (tree : FileTree) (location : Location) (entry : FileEntry) : FileTree :=
  if (tree.entries.lookup location).isSome then
    ⟨tree.entries.map (fun old => if old.1 = location then (location, entry) else old)⟩
  else ⟨tree.entries ++ [(location, entry)]⟩

def makeDirectories (tree : FileTree) (location : Location) : FileTree :=
  (List.range (location.length + 1)).foldl
    (fun tree count =>
      let above := location.take count
      if (tree.at? above).isSome then tree else tree.set above .directory)
    tree

def add (tree : FileTree) (location : Location) (entry : FileEntry) : FileTree :=
  (tree.makeDirectories location.dropLast).set location entry

/-- Writes an entry over what is at a location; a file that was executable stays so. -/
def overwrite (tree : FileTree) (location : Location) (entry : FileEntry) : FileTree :=
  match tree.at? location, entry with
  | some (.file old), .file new =>
      tree.set location (.file { new with executable := new.executable || old.executable })
  | _, _ => tree.add location entry

def below? : Location → Location → Option Location
  | [], rest => some rest
  | name :: above, first :: rest => if name = first then below? above rest else none
  | _ :: _, [] => none

def remove (tree : FileTree) (location : Location) : FileTree :=
  ⟨tree.entries.filter (fun (there, _) => (below? location there).isNone)⟩

def branch (tree : FileTree) (location : Location) : List (Location × FileEntry) :=
  tree.entries.filterMap (fun (there, entry) =>
    (below? location there).map (fun way => (way, entry)))

def namesIn (tree : FileTree) (location : Location) : List String :=
  tree.entries.filterMap (fun (there, _) =>
    match below? location there with
    | some [name] => some name
    | _ => none)

/-! ### Looking up -/

def nameLimit : Nat := 255

/-- The number of bytes from which on a path is too long. -/
def pathLimit : Nat := 4096

/-- The greatest number of links that lead on to other links. -/
def linkLimit : Nat := 40

/-- Goes along components from a location; `follow` goes along those of a link. -/
def walkWith (tree : FileTree)
    (follow : Location → List String → Except SystemFault Location) :
    Location → List String → Except SystemFault Location
  | here, [] => .ok here
  | here, component :: rest =>
      match tree.at? here with
      | some .directory =>
          if component.isEmpty || component = "." then tree.walkWith follow here rest
          else if component = ".." then tree.walkWith follow here.dropLast rest
          else if component.utf8ByteSize > nameLimit then .error .nameTooLong
          else
            let next := here ++ [component]
            match tree.at? next with
            | none => .error .notFound
            | some (.link target) =>
                let start := if Path.isAbsolute target then [] else here
                match follow start (target.splitOn "/") with
                | .ok there => tree.walkWith follow there rest
                | .error fault => .error fault
            | some _ => tree.walkWith follow next rest
      | some _ => .error .notDirectory
      | none => .error .notFound

def walk (tree : FileTree) : Nat → Location → List String → Except SystemFault Location
  | 0 => fun _ _ => .error .tooManyLinks
  | links + 1 => tree.walkWith (tree.walk links)

def usable (path : String) : Except SystemFault Unit :=
  if path.toList.contains (Char.ofNat 0) then .error .endsEarly
  else if path.isEmpty then .error .notFound
  else if path.utf8ByteSize ≥ pathLimit then .error .nameTooLong
  else .ok ()

def locate (tree : FileTree) (path : String) : Except SystemFault Location := do
  usable path
  tree.walk linkLimit [] (path.splitOn "/")

def entry (tree : FileTree) (path : String) : Except SystemFault (Location × FileEntry) := do
  let location ← tree.locate path
  match tree.at? location with
  | some entry => pure (location, entry)
  | none => .error .notFound

/-- The location of the name that a path ends in, whether or not there is something; a link there
is not followed. -/
def place (tree : FileTree) (path : String) : Except SystemFault Location := do
  usable path
  let components := (path.splitOn "/").reverse.dropWhile (fun name => name.isEmpty || name = ".")
  match components with
  | [] => pure []
  | name :: above =>
      let here ← tree.walk linkLimit [] above.reverse
      match tree.at? here with
      | some .directory =>
          if name = ".." then pure here.dropLast
          else if name.utf8ByteSize > nameLimit then .error .nameTooLong
          else pure (here ++ [name])
      | some _ => .error .notDirectory
      | none => .error .notFound

def isDirectory (tree : FileTree) (path : String) : Bool :=
  match tree.entry path with
  | .ok (_, .directory) => true
  | _ => false

/-- Whether a path leads to a file that can be read to an end; devices are none. -/
def isFile (tree : FileTree) (path : String) : Bool :=
  match tree.entry path with
  | .ok (_, .file _) => true
  | .ok (_, .program _) => true
  | _ => false

/-! ### Reading -/

def readBytes (tree : FileTree) (path : String) : Except SystemFault (List UInt8) := do
  match ← tree.entry path with
  | (_, .directory) => .error .isDirectory
  | (_, entry) => pure entry.bytes

def readText (tree : FileTree) (path : String) : Except SystemFault String := do
  match Text.textOf? (← tree.readBytes path) with
  | some text => pure text
  | none => .error .notText

def precedes : Location → Location → Bool
  | [], _ => true
  | _ :: _, [] => false
  | first :: firstRest, second :: secondRest =>
      if first = second then precedes firstRest secondRest else decide (first < second)

def filesBelow (tree : FileTree) (location : Location) : List Location :=
  let ways := (tree.branch location).filterMap (fun (way, entry) =>
    match entry with
    | .file _ => some way
    | _ => none)
  ways.mergeSort precedes

end FileTree

end AssociationCheck
