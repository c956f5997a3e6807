/-
Showing commands before they are carried out.

If asked to, a shell writes each command to the error output as it stands after its words have
taken their values, behind a mark. The larger language puts words between quotes where they would
be read as something else, and shows the heads of loops and choices too.
-/

import AssociationCheck.Shell.Expansion

namespace AssociationCheck.Shell

namespace Execution

def shownText (text : String) : String :=
  let isMeant (c : Char) : Bool := FormatStyle.isMeant c && c ≠ ','
  if text.isEmpty then "''"
  else if text.any isMeant || text.startsWith "#" || text.startsWith "~" then
    "'" ++ text.replace "'" "'\\''" ++ "'"
  else text

def sourceText (word : Word) : String :=
  String.join (word.map (fun piece =>
    match piece with
    | .text false chars => chars
    | .text true chars => "\"" ++ chars ++ "\""
    | .parameter quoted name _ _ => if quoted then "\"$" ++ name ++ "\"" else "$" ++ name
    | .output _ _ => "$(...)"
    | .arithmetic _ _ => "$((...))"
    | .outputFile _ => "<(...)"))

/-- The mark before what is shown. In the larger language its first character tells how deep the
command is. -/
def traceMark : Execution String := do
  let mark := (← value? "PS4").getD "+ "
  let process ← process
  match process.dialect, mark.toList with
  | .extended, c :: rest => pure (String.ofList (List.replicate (process.depth + 1) c ++ rest))
  | _, _ => pure mark

def traceLine (descriptors : List (Nat × Nat)) (text : String) : Execution Unit := do
  if ← hasOption 'x' then
    match descriptors.lookup 2 with
    | some channel =>
        let _ ← onMachine (Machine.write channel ((← traceMark) ++ text ++ "\n"))
    | none => pure ()

/-- Shows the head of a loop or a choice, which only the larger language does. -/
def traceHead (text : String) : Execution Unit := do
  if ← isExtended then traceLine (← process).descriptors text

def shownAssignment (extended : Bool) (name value : String) : String :=
  name ++ "=" ++
    (if extended && !value.isEmpty then shownText value else value)

def traceCommand (descriptors : List (Nat × Nat)) (assignments words : List String) :
    Execution Unit := do
  if ← isExtended then do
    assignments.forM (traceLine descriptors)
    if !words.isEmpty then
      traceLine descriptors (String.intercalate " " (words.map shownText))
  else traceLine descriptors (String.intercalate " " (assignments ++ words))

end Execution

end AssociationCheck.Shell
