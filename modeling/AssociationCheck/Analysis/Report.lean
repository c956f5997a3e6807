/-
Reports.

A report lists diagnostics as lines, each with its place, or as JSON, and sums up how many errors
there are in how many classes. Colours are optional and written with the usual escapes.
-/

import AssociationCheck.Diagnostic
import AssociationCheck.Json.Value

namespace AssociationCheck.Report

/-! ### Colours -/

def plainEscape : List Char := [Char.ofNat 27, '[', '0', 'm']

def colourEscape (number : String) : String := (Char.ofNat 27).toString ++ "[" ++ number ++ "m"

/-- A text in a colour. Where the text itself ends a colour, this one starts again. -/
def coloured (number text : String) : String :=
  let start := colourEscape number
  start ++
    String.ofList (replaceFrom plainEscape (plainEscape ++ start.toList) 0 text.toList) ++
    String.ofList plainEscape

def colouredIf (colour : Bool) (number text : String) : String :=
  if colour then coloured number text else text

def cyan : String := "36"
def green : String := "32"
def boldRed : String := "1;31"

/-! ### Text -/

def line (colour : Bool) (diagnostic : Diagnostic) : String :=
  let file := if diagnostic.file.isEmpty then "<unknown>" else diagnostic.file
  colouredIf colour cyan (file ++ ":" ++ toString diagnostic.line) ++ ": " ++ diagnostic.text

def text (colour : Bool) (diagnostics : List Diagnostic) : String :=
  String.intercalate "\n" (diagnostics.map (line colour))

def counted (count : Nat) (one many : String) : String :=
  toString count ++ " " ++ (if count = 1 then one else many)

def summary (colour : Bool) (errors classes : Nat) : String :=
  let classes := counted classes "class" "classes"
  if errors = 0 then colouredIf colour green ("No errors in " ++ classes ++ ".")
  else
    colouredIf colour boldRed
      ("Found " ++ counted errors "error" "errors" ++ " in " ++ classes ++ ".")

/-! ### JSON -/

def entry (diagnostic : Diagnostic) : Json :=
  .object
    [ ("file", .string diagnostic.file),
      ("line", .ofNat diagnostic.line),
      ("message", .string diagnostic.text),
      ("identifier", .string diagnostic.identifier) ]

def json (diagnostics : List Diagnostic) : String :=
  (Json.array (diagnostics.map entry)).pretty

end AssociationCheck.Report
