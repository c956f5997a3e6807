/-
Diagnostics.

A diagnostic is a finding at a line of a file. Its text comes from the template of its code, in
which numbered places are filled by arguments, one place after the other over the whole text.
-/

namespace AssociationCheck

inductive Severity
  | warning
  | error
  | message
  deriving DecidableEq, Repr

def Severity.word : Severity → String
  | warning => "warning"
  | error => "error"
  | message => "message"

/-- What all diagnostics of one code have in common. -/
structure DiagnosticKind where
  code : Nat
  severity : Severity
  identifier : String
  template : String
  deriving DecidableEq, Repr

structure Diagnostic where
  file : String
  line : Nat
  text : String
  severity : Severity
  code : Nat
  identifier : String
  deriving DecidableEq, Repr

/-! ### Templates -/

/-- Puts a replacement for every occurrence of a pattern, from left to right; a number of
characters at the start belong to an occurrence already replaced. -/
def replaceFrom (pattern replacement : List Char) : Nat → List Char → List Char
  | _, [] => []
  | skipped + 1, _ :: rest => replaceFrom pattern replacement skipped rest
  | 0, c :: rest =>
      if pattern.isPrefixOf (c :: rest) then
        replacement ++ replaceFrom pattern replacement (pattern.length - 1) rest
      else c :: replaceFrom pattern replacement 0 rest

def place (number : Nat) : List Char := '\x7b' :: (toString number).toList ++ ['\x7d']

def fillFrom (number : Nat) (text : List Char) : List String → List Char
  | [] => text
  | argument :: rest =>
      fillFrom (number + 1) (replaceFrom (place number) argument.toList 0 text) rest

def fillTemplate (template : String) (arguments : List String) : String :=
  String.ofList (fillFrom 0 template.toList arguments)

/-! ### Kinds -/

namespace DiagnosticKind

/-- The identifier of every mismatch of an association. -/
def associationType : String := "doctrine.associationType"

/-- The mapping allows values that the declared type of the property does not. -/
def databaseCanContain : DiagnosticKind where
  code := 9001
  severity := .error
  identifier := associationType
  template := "Property \x7b0\x7d::$\x7b1\x7d type mapping mismatch: " ++
    "database can contain \x7b2\x7d but property expects \x7b3\x7d."

/-- The declared type of the property allows values that the mapping does not. -/
def propertyCanContain : DiagnosticKind where
  code := 9002
  severity := .error
  identifier := associationType
  template := "Property \x7b0\x7d::$\x7b1\x7d type mapping mismatch: " ++
    "property can contain \x7b2\x7d but database expects \x7b3\x7d."

def all : List DiagnosticKind := [databaseCanContain, propertyCanContain]

def ofCode? (code : Nat) : Option DiagnosticKind := all.find? (fun kind => kind.code == code)

def diagnose (kind : DiagnosticKind) (file : String) (line : Nat) (arguments : List String) :
    Diagnostic where
  file := file
  line := line
  text := fillTemplate kind.template arguments
  severity := kind.severity
  code := kind.code
  identifier := kind.identifier

end DiagnosticKind

namespace Diagnostic

def error (file : String) (line : Nat) (text : String) (code : Nat) : Diagnostic where
  file := file
  line := line
  text := text
  severity := .error
  code := code
  identifier :=
    ((DiagnosticKind.ofCode? code).map DiagnosticKind.identifier).getD
      DiagnosticKind.associationType

def ofTemplate? (file : String) (line code : Nat) (arguments : List String) : Option Diagnostic :=
  (DiagnosticKind.ofCode? code).map (fun kind => kind.diagnose file line arguments)

end Diagnostic

end AssociationCheck
