/-
Programs that compare texts.

They say where two texts part, or how lines of the one become those of the other: which lines go,
which come, and which change.
-/

import AssociationCheck.Shell.Tool.Words

namespace AssociationCheck.Shell

namespace Tool

open Program

/-! ### Byte by byte -/

def cmp : Program Nat :=
  withOptions { flags := "slb", words := [("silent", 's', false), ("quiet", 's', false)] } 2
    (fun given => do
    match given.operands with
    | first :: others => do
        let second := others.headD "-"
        match ← readPath first, ← readPath second with
        | .error fault, _ => do
            unreadable first fault
            pure 2
        | _, .error fault => do
            unreadable second fault
            pure 2
        | .ok one, .ok other =>
            if one == other then pure 0
            else
              let same := ((one.toList.zip other.toList).takeWhile (fun (c, d) => c = d)).length
              let line := ((one.toList.take same).filter (· = '\n')).length + 1
              if given.has 's' then pure 1
              else if same = one.length || same = other.length then do
                let shorter := if same = one.length then first else second
                let place :=
                  if same = 0 then " which is empty"
                  else
                    " after byte " ++ toString same ++ ", line " ++ toString line
                report ("EOF on " ++ shorter ++ place)
                pure 1
              else
                print (first ++ " " ++ second ++ " differ: byte " ++ toString (same + 1) ++
                  ", line " ++ toString line ++ "\n") 1
    | [] => misused "missing operand after 'cmp'" 2)

/-! ### Line by line -/

inductive LineChange
  | keep (line : String)
  | drop (line : String)
  | add (line : String)

/-- For each tail of some lines, how many lines it has in common with other lines at most: with
these lines before the other ones, from the counts without them. -/
def commonCounts (line : String) : List String → List Nat → List Nat
  | other :: others, count :: counts =>
      let rest := commonCounts line others counts
      let here := if line == other then counts.headD 0 + 1 else max count (rest.headD 0)
      here :: rest
  | _, _ => [0]

/-- The counts for all tails of the first lines, the longest tail first. -/
def countTable (others : List String) : List String → List (List Nat)
  | [] => [List.replicate (others.length + 1) 0]
  | line :: lines =>
      let table := countTable others lines
      commonCounts line others (table.headD []) :: table

/-- Goes through both texts, and drops lines before it adds others. -/
def lineChanges : Nat → List String → List String → List (List Nat) → List LineChange
  | 0, _, _, _ => []
  | fuel + 1, line :: lines, other :: others, table =>
      let here := table.headD []
      let below := table.drop 1
      if line == other then
        .keep line :: lineChanges fuel lines others (below.map (List.drop 1))
      else
        let dropped := (below.headD []).headD 0
        let added := (here.drop 1).headD 0
        if dropped ≥ added then .drop line :: lineChanges fuel lines (other :: others) below
        else .add other :: lineChanges fuel (line :: lines) others (table.map (List.drop 1))
  | _, lines, others, _ => lines.map .drop ++ others.map .add

/-- Lines that change together, behind so many lines of each text. -/
structure Hunk where
  oldStart : Nat
  newStart : Nat
  dropped : List String := []
  added : List String := []

/-- Puts edits that follow each other together; the last hunk comes first. -/
def hunksOf (edits : List LineChange) : List Hunk :=
  let step (state : List Hunk × Nat × Nat × Bool) (edit : LineChange) :
      List Hunk × Nat × Nat × Bool :=
    let (hunks, old, new, isOpen) := state
    let change (old new : Nat) (change : Hunk → Hunk) : List Hunk × Nat × Nat × Bool :=
      match hunks, isOpen with
      | hunk :: rest, true => (change hunk :: rest, old, new, true)
      | hunks, _ =>
          let fresh : Hunk := { oldStart := state.2.1, newStart := state.2.2.1 }
          (change fresh :: hunks, old, new, true)
    match edit with
    | .keep _ => (hunks, old + 1, new + 1, false)
    | .drop line =>
        change (old + 1) new (fun hunk => { hunk with dropped := hunk.dropped ++ [line] })
    | .add line => change old (new + 1) (fun hunk => { hunk with added := hunk.added ++ [line] })
  (edits.foldl step ([], 0, 0, false)).1.reverse

def lineRange (start count : Nat) : String :=
  if count = 0 then toString start
  else if count = 1 then toString (start + 1)
  else toString (start + 1) ++ "," ++ toString (start + count)

/-- Lines behind a mark; one that does not end says so. -/
def markedLines (mark : String) (lines : List String) : String :=
  String.join (lines.map (fun line =>
    mark ++ " " ++ line ++
      (if line.endsWith "\n" then "" else "\n\\ No newline at end of file\n")))

def hunkText (hunk : Hunk) : String :=
  let kind := if hunk.dropped.isEmpty then "a" else if hunk.added.isEmpty then "d" else "c"
  lineRange hunk.oldStart hunk.dropped.length ++ kind ++
    lineRange hunk.newStart hunk.added.length ++ "\n" ++ markedLines "<" hunk.dropped ++
    (if kind = "c" then "---\n" else "") ++ markedLines ">" hunk.added

def diff : Program Nat :=
  let options : Options :=
    { flags := "qsuabBwirNy"
      words := [("brief", 'q', false), ("report-identical-files", 's', false)] }
  let misuse (text : String) : Program Nat := do
    report text
    report "Try 'diff --help' for more information."
    pure 2
  fun surroundings =>
    (match options.read surroundings.arguments with
    | .error fault => misuse fault.text
    | .ok given =>
        match given.operands with
        | [] => misuse "missing operand after 'diff'"
        | [only] => misuse ("missing operand after " ++ quoted only)
        | _ :: _ :: extra :: _ => misuse ("extra operand " ++ quoted extra)
        | [first, second] => do
            match ← readPath first, ← readPath second with
            | .error fault, other => do
                unreadable first fault
                match other with
                | .error fault => unreadable second fault
                | .ok _ => pure ()
                pure 2
            | _, .error fault => do
                unreadable second fault
                pure 2
            | .ok one, .ok other =>
                if one == other then
                  print (if given.has 's' then
                    "Files " ++ first ++ " and " ++ second ++ " are identical\n" else "") 0
                else if given.has 'q' then
                  print ("Files " ++ first ++ " and " ++ second ++ " differ\n") 1
                else
                  let old := linesOf one
                  let new := linesOf other
                  let changes :=
                    lineChanges (old.length + new.length + 1) old new (countTable new old)
                  print (String.join ((hunksOf changes).map hunkText)) 1) surroundings

end Tool

end AssociationCheck.Shell
