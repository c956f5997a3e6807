/-
Looking through directories.

All entries below some paths are visited, a directory before what is in it. An expression says of
each entry whether it is wanted, and what is done with it.
-/

import AssociationCheck.Shell.Pattern
import AssociationCheck.Shell.Tool.Filing
import AssociationCheck.Shell.Tool.Launching

namespace AssociationCheck.Shell.Tool

open Program

inductive FindPart
  | name (pattern : Pattern) (folded : Bool)
  | path (pattern : Pattern)
  | kind (letter : Char)
  | empty
  | print (ending : String)
  | delete
  | run (words : List String)
  | runAll (words : List String)
  | not (body : FindPart)
  | both (first second : FindPart)
  | either (first second : FindPart)
  | always (value : Bool)

abbrev FindReading := StateT (List String) (Except String)

/-- Reads an expression; the level says how strongly its parts hold together. -/
def readFind : Nat → Nat → FindReading FindPart
  | 0, _ => throw "expected an expression"
  | fuel + 1, 0 => do
      let first ← readFind fuel 1
      match ← get with
      | word :: rest =>
          if word = "-o" || word = "-or" then do
            set rest
            pure (.either first (← readFind fuel 0))
          else pure first
      | [] => pure first
  | fuel + 1, 1 => do
      let first ← readFind fuel 2
      match ← get with
      | word :: rest =>
          if word = "-a" || word = "-and" then do
            set rest
            pure (.both first (← readFind fuel 1))
          else if word = "-o" || word = "-or" || word = ")" then pure first
          else do pure (.both first (← readFind fuel 1))
      | [] => pure first
  | fuel + 1, _ => do
      match ← get with
      | [] => pure (.always true)
      | word :: rest => do
          set rest
          let value : FindReading String := do
            match ← get with
            | value :: rest => do
                set rest
                pure value
            | [] => throw ("missing argument to '" ++ word ++ "'")
          match word with
          | "!" => do pure (.not (← readFind fuel 2))
          | "-not" => do pure (.not (← readFind fuel 2))
          | "(" => do
              let body ← readFind fuel 0
              match ← get with
              | ")" :: rest => do
                  set rest
                  pure body
              | _ => throw "invalid expression; expected to find a ')' but didn't see one."
          | "-name" => do pure (.name (Pattern.ofText (← value)) false)
          | "-iname" => do pure (.name (Pattern.ofText ((← value).map Char.toLower)) true)
          | "-path" => do pure (.path (Pattern.ofText (← value)))
          | "-type" => do pure (.kind ((← value).toList.headD 'f'))
          | "-empty" => pure .empty
          | "-print" => pure (.print "\n")
          | "-print0" => pure (.print (Char.ofNat 0).toString)
          | "-delete" => pure .delete
          | "-true" => pure (.always true)
          | "-false" => pure (.always false)
          | "-exec" => do
              let words := (← get).takeWhile (fun word => word ≠ ";" && word ≠ "+")
              let rest := (← get).drop words.length
              match rest with
              | [] => throw "missing argument to '-exec'"
              | ending :: rest => do
                  set rest
                  pure (if ending = "+" then .runAll words.dropLast else .run words)
          | _ => throw ("unknown predicate '" ++ word ++ "'")

def FindPart.acts : FindPart → Bool
  | .print _ => true
  | .delete => true
  | .run _ => true
  | .runAll _ => true
  | .not body => body.acts
  | .both first second => first.acts || second.acts
  | .either first second => first.acts || second.acts
  | _ => false

structure Visit where
  path : String
  location : Location
  entry : FileEntry
  depth : Nat

/-- Whether an entry is wanted; what is collected for one program is carried along. -/
def wanted (start : Starter) (visit : Visit) : FindPart → List (List String × String) →
    Program (Bool × List (List String × String))
  | .name pattern folded, collected =>
      let name := lastComponent visit.path
      let name := if folded then name.map Char.toLower else name
      pure (pattern.holds name.toList, collected)
  | .path pattern, collected => pure (pattern.holds visit.path.toList, collected)
  | .kind letter, collected =>
      pure (match letter, visit.entry with
        | 'd', .directory => true
        | 'l', .link _ => true
        | 'f', .file _ => true
        | 'f', .program _ => true
        | 'c', .device _ => true
        | _, _ => false, collected)
  | .empty, collected => do
      match visit.entry with
      | .directory => do
          let names := (← getThe Machine).files.namesIn visit.location
          pure (names.isEmpty, collected)
      | .file file => pure (file.bytes.isEmpty, collected)
      | _ => pure (false, collected)
  | .print ending, collected => do
      let _ ← writeTo 1 (visit.path ++ ending)
      pure (true, collected)
  | .delete, collected => do
      changeFiles (fun files => files.remove visit.location)
      pure (true, collected)
  | .run words, collected => do
      match words.map (fun word => word.replace "\x7b\x7d" visit.path) with
      | [] => pure (true, collected)
      | name :: arguments => do
          let environment := (← surroundings).environment
          match ← startWith start name arguments environment with
          | .ok ended => pure (ended.succeeded, collected)
          | .error fault => do
              report (quoted name ++ ": " ++ fault.text)
              pure (false, collected)
  | .runAll words, collected => pure (true, collected ++ [(words, visit.path)])
  | .not body, collected => do
      let (value, collected) ← wanted start visit body collected
      pure (!value, collected)
  | .both first second, collected => do
      let (value, collected) ← wanted start visit first collected
      if value then wanted start visit second collected else pure (false, collected)
  | .either first second, collected => do
      let (value, collected) ← wanted start visit first collected
      if value then pure (true, collected) else wanted start visit second collected
  | .always value, collected => pure (value, collected)

def depthsOf : List String → Nat × Option Nat × List String
  | [] => (0, none, [])
  | [word] => (0, none, [word])
  | word :: value :: rest =>
      if word = "-mindepth" then
        let (_, greatest, words) := depthsOf rest
        (value.toNat?.getD 0, greatest, words)
      else if word = "-maxdepth" then
        let (least, _, words) := depthsOf rest
        (least, value.toNat?, words)
      else
        let (least, greatest, words) := depthsOf (value :: rest)
        (least, greatest, word :: words)

def visits (files : FileTree) (path : String) (location : Location) (entry : FileEntry) :
    List Visit :=
  let below := (files.branch location).filter (fun (way, _) => !way.isEmpty)
  let ordered := below.mergeSort (fun first second => FileTree.precedes first.1 second.1)
  ⟨path, location, entry, 0⟩ :: ordered.map (fun (way, entry) =>
    { path := way.foldl (fun path name =>
        (if path.endsWith "/" then path else path ++ "/") ++ Text.octetsOf name) path
      location := location ++ way
      entry := entry
      depth := way.length })

def find (start : Starter) : Program Nat := do
  let words := (← surroundings).arguments
  let paths := words.takeWhile (fun word => !(word.startsWith "-" || word = "!" || word = "("))
  let (least, greatest, expression) := depthsOf (words.drop paths.length)
  let paths := if paths.isEmpty then ["."] else paths
  match (readFind (10 * expression.length + 10) 0).run expression with
  | .error text => do
      report text
      pure 1
  | .ok (_, extra :: _) => do
      report ("unknown predicate " ++ quoted extra)
      pure 1
  | .ok (part, []) => do
      let part := if part.acts then part else .both part (.print "\n")
      let (status, collected) ← paths.foldlM
        (fun (status, collected) path => do
          match ← ownEntry path with
          | .error fault => do
              report (quoted path ++ ": " ++ fault.text)
              pure (1, collected)
          | .ok (location, entry) => do
              let files := (← getThe Machine).files
              let all := (visits files path location entry).filter (fun visit =>
                least ≤ visit.depth && greatest.all (visit.depth ≤ ·))
              let collected ← all.foldlM
                (fun collected visit => do
                  let (_, collected) ← wanted start visit part collected
                  pure collected)
                collected
              pure (status, collected))
        (0, ([] : List (List String × String)))
      match collected with
      | [] => pure status
      | (words, _) :: _ => do
          match words ++ collected.map Prod.snd with
          | [] => pure status
          | name :: arguments => do
              let environment := (← surroundings).environment
              match ← startWith start name arguments environment with
              | .ok _ => pure status
              | .error fault => do
                  report (quoted name ++ ": " ++ fault.text)
                  pure status

end AssociationCheck.Shell.Tool
