/-
Looking for lines.

Lines are kept if one of some expressions matches them. What is written is the lines, the parts
that match, the number of lines, or the paths.
-/

import AssociationCheck.Shell.Regex
import AssociationCheck.Shell.Tool.Reading

namespace AssociationCheck.Shell.Tool

open Program

structure Search where
  regexes : List Regex
  folded : Bool
  wholeLine : Bool
  wholeWord : Bool
  inverted : Bool

namespace Search

def isWord (found : Regex.Found) : Bool :=
  let letter (c : Option Char) : Bool := Regex.Place.isWordChar c
  !letter found.before.getLast? && !letter found.after.head?

/-- The leftmost match of any of the expressions, the longest of those. -/
def find? (search : Search) (line : String) : Option Regex.Found :=
  (search.regexes.filterMap (fun regex => regex.find? search.folded line)).foldl
    (fun best found =>
      match best with
      | none => some found
      | some kept =>
          if found.before.length < kept.before.length ||
              (found.before.length = kept.before.length && found.text.length > kept.text.length)
          then some found
          else best)
    none

def matchesLine (search : Search) (line : String) : Bool :=
  search.regexes.any (fun regex =>
    if search.wholeLine then
      (regex.ways search.folded { before := none, rest := line.toList }).any (fun place =>
        place.rest.isEmpty)
    else if search.wholeWord then
      ((List.range (line.length + 1)).any (fun start =>
        let before := line.toList.take start
        (regex.ways search.folded
          { before := before.getLast?, rest := line.toList.drop start }).any (fun place =>
            isWord ⟨before, place.taken.reverse, place.rest, []⟩)))
    else (regex.find? search.folded line).isSome)

def keeps (search : Search) (line : String) : Bool := search.matchesLine line != search.inverted

def parts (search : Search) : Nat → String → List String
  | 0, _ => []
  | fuel + 1, line =>
      match search.find? line with
      | none => []
      | some found =>
          if found.text.isEmpty then
            match found.after with
            | [] => []
            | _ :: rest => parts search fuel (String.ofList rest)
          else String.ofList found.text :: parts search fuel (String.ofList found.after)

end Search

def around (before after : Nat) (kept : List Nat) (number : Nat) : Bool :=
  kept.any (fun line => number ≤ line + after && line ≤ number + before)

def searched (given : Given) (search : Search) (label : Option String) (text : String) :
    String × Bool :=
  let lines := (linesOf text).map bareLine
  let numbered := lines.mapIdx (fun index line => (index + 1, line))
  let limit := (given.value? 'm').bind String.toNat?
  let hits := numbered.filter (fun (_, line) => search.keeps line)
  let hits := match limit with | some count => hits.take count | none => hits
  let name := label.map (· ++ ":")
  let number (letter : Char) : Nat := ((given.value? letter).bind String.toNat?).getD 0
  let before := max (number 'B') (number 'C')
  let after := max (number 'A') (number 'C')
  let shown (mark : String) (line : Nat) (text : String) : String :=
    (label.map (· ++ mark)).getD "" ++
      (if given.has 'n' then toString line ++ mark else "") ++ text ++ "\n"
  let output :=
    if given.has 'c' then name.getD "" ++ toString hits.length ++ "\n"
    else if given.has 'o' then
      if search.inverted then ""
      else String.join (hits.flatMap (fun (line, text) =>
        (search.parts (text.length + 1) text).map (shown ":" line)))
    else if before + after > 0 then
      let kept := hits.map Prod.fst
      let (texts, _) := (numbered.filter (fun (line, _) => around before after kept line)).foldl
        (fun (texts, last) (line, text) =>
          let gap := if last ≠ 0 && last + 1 ≠ line then ["--\n"] else []
          let mark := if kept.contains line then ":" else "-"
          (texts ++ gap ++ [shown mark line text], line))
        (([] : List String), 0)
      String.join texts
    else String.join (hits.map (fun (line, text) => shown ":" line text))
  (output, !hits.isEmpty)

def filesBelow (files : FileTree) (directory : Location) (path : String) : List String :=
  match files.entry (Machine.absolute directory path) with
  | .ok (location, .directory) =>
      (files.filesBelow location).map (fun way =>
        way.foldl (fun path name =>
          (if path.endsWith "/" then path else path ++ "/") ++ Text.octetsOf name) path)
  | _ => [path]

def grepWith (extended fixed : Bool) : Program Nat :=
  withOptions { flags := "EFGivcnlLqsowxhHraRzU", valued := "efmABC", words := [
    ("extended-regexp", 'E', false), ("fixed-strings", 'F', false), ("ignore-case", 'i', false),
    ("invert-match", 'v', false), ("count", 'c', false), ("line-number", 'n', false),
    ("files-with-matches", 'l', false), ("quiet", 'q', false), ("silent", 'q', false),
    ("no-messages", 's', false), ("only-matching", 'o', false), ("word-regexp", 'w', false),
    ("line-regexp", 'x', false), ("regexp", 'e', true), ("no-filename", 'h', false),
    ("with-filename", 'H', false), ("recursive", 'r', false), ("max-count", 'm', true)] } 2
    (fun given => do
    let own := given.options.filterMap (fun (c, value) => if c = 'e' then some value else none)
    let patternFile := given.value? 'f'
    let fromFile : List String ←
      match patternFile with
      | some path => do
          match ← readPath path with
          | .ok text => pure ((linesOf text).map bareLine)
          | .error fault => do
              unreadable path fault
              pure []
      | none => pure []
    let named := !own.isEmpty || patternFile.isSome
    match named, given.operands with
    | false, [] => do
        complain "Usage: grep [OPTION]... PATTERNS [FILE]...\n"
        complain "Try 'grep --help' for more information.\n"
        pure 2
    | _, operands => do
        let patterns := if named then own ++ fromFile else operands.take 1
        let paths := if named then operands else operands.drop 1
        let patterns := patterns.flatMap (·.splitOn "\n")
        let isFixed := fixed || given.has 'F'
        let isExtended := extended || given.has 'E'
        let read := patterns.mapM (fun pattern =>
          if isFixed then .ok (Regex.literal pattern) else Regex.ofText isExtended pattern)
        match read with
        | .error fault => do
            report (match fault with
              | .openBracket => "Unmatched [, [^, [:, [., or [="
              | fault => fault.text isExtended)
            pure 2
        | .ok regexes => do
            let search : Search :=
              { regexes := regexes
                folded := given.has 'i'
                wholeLine := given.has 'x'
                wholeWord := given.has 'w'
                inverted := given.has 'v' }
            let deep := given.has 'r' || given.has 'R'
            let surroundings ← Program.surroundings
            let files := (← getThe Machine).files
            let wanted := if paths.isEmpty then (if deep then ["."] else ["-"]) else paths
            let wanted :=
              if deep then wanted.flatMap (filesBelow files surroundings.directory) else wanted
            let labelled := given.has 'H' || ((paths.length > 1 || deep) && !given.has 'h')
            let (found, failed) ← wanted.foldlM
              (fun (found, failed) path => do
                let shownPath := if path = "-" then "(standard input)" else path
                match ← readPath path with
                | .error fault => do
                    if !given.has 's' then unreadable path fault
                    pure (found, true)
                | .ok text => do
                    let (output, hit) :=
                      searched given search (if labelled then some shownPath else none) text
                    let output :=
                      if given.has 'q' then ""
                      else if given.has 'l' then (if hit then shownPath ++ "\n" else "")
                      else if given.has 'L' then (if hit then "" else shownPath ++ "\n")
                      else output
                    let _ ← writeTo 1 output
                    pure (found || hit, failed))
              (false, false)
            pure (if failed && !(given.has 'q' && found) then 2 else if found then 0 else 1))

def grep : Program Nat := grepWith false false

end AssociationCheck.Shell.Tool
