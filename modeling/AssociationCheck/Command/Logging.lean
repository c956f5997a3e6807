/-
Logging that the environment asks for.

The directives come from the variable of the program or else from the general one. The layout is
named by a word; an unknown word means plain text.
-/

import AssociationCheck.Text.Ascii
import AssociationCheck.Text.Blank

namespace AssociationCheck

inductive LogFormat
  | text
  | tree
  | json
  deriving DecidableEq, Repr

def LogFormat.ofText (word : String) : LogFormat :=
  match Text.foldCase (Text.trimmed word) with
  | "tree" => tree
  | "json" => json
  | _ => text

structure LogSettings where
  directives : String
  format : LogFormat
  deriving DecidableEq, Repr

def LogSettings.ofVariables? (own general format : Option String) : Option LogSettings :=
  (own.or general).map (fun directives =>
    ⟨directives, (format.map LogFormat.ofText).getD .text⟩)

end AssociationCheck
