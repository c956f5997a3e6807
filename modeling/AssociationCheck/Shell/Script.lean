/-
Scripts.

A script is a series of commands. A simple command is a list of words with assignments before them
and redirections among them; other commands are made of commands: pipelines, lists, branches,
loops, groups and functions. A word is a series of pieces, some of which have a value only when the
script runs.
-/

namespace AssociationCheck.Shell

/-- How scripts are read and run: by the standard rules, or by those of a larger language. -/
inductive Dialect
  | standard
  | extended
  deriving DecidableEq, Repr

/-- What a parameter stands for in the place of its value. -/
inductive Fallback
  /-- A word instead of no value. -/
  | value
  /-- A word instead of no value, which the parameter then keeps. -/
  | assigned
  /-- A word instead of a value. -/
  | alternative
  /-- The end of the script instead of no value. -/
  | fault
  deriving DecidableEq, Repr

inductive ArmEnd
  | leave
  /-- The next arm, whatever its patterns. -/
  | goOn
  /-- The next arm whose patterns match. -/
  | tryNext
  deriving DecidableEq, Repr

inductive Opening
  | read
  | write
  /-- Writing that no option forbids. -/
  | rewrite
  | append
  | readWrite
  deriving DecidableEq, Repr

inductive Question (α : Type) where
  | filled (word : α)
  | unary (operator : String) (word : α)
  | binary (operator : String) (left right : α)
  | not (body : Question α)
  | both (first second : Question α)
  | either (first second : Question α)
  deriving Repr

mutual

/-- A piece of a word. What is quoted is taken as it is. -/
inductive Piece where
  | text (quoted : Bool) (chars : String)
  | parameter (quoted : Bool) (name : String) (index : List Piece) (change : Change)
  /-- What a script writes. -/
  | output (quoted : Bool) (body : Command)
  | arithmetic (quoted : Bool) (expression : List Piece)
  /-- The path of a file with what a script writes. -/
  | outputFile (body : Command)

inductive Change where
  | none
  | size
  | fallback (kind : Fallback) (orEmpty : Bool) (word : List Piece)
  | trim (atEnd : Bool) (longest : Bool) (pattern : List Piece)
  | replace (all : Bool) (place : Option Bool) (pattern : List Piece) (word : List Piece)
  | slice (start : List Piece) (count : Option (List Piece))
  | upper (all : Bool)
  | lower (all : Bool)
  /-- The value of the parameter that the value names. -/
  | indirect
  /-- The places of a list. -/
  | places
  /-- A change that there is not. -/
  | unknown (shown : String)

inductive Assignment where
  | value (name : String) (index : List Piece) (adds : Bool) (word : List Piece)
  /-- Items, some of them with a place of their own. -/
  | list (name : String) (adds : Bool) (items : List (Option (List Piece) × List Piece))

inductive Redirection where
  | file (descriptor : Nat) (opening : Opening) (path : List Piece)
  /-- To both outputs. -/
  | both (append : Bool) (path : List Piece)
  | copy (descriptor : Nat) (source : List Piece)
  /-- Lines of the script, kept under a number while it is read. -/
  | lines (descriptor : Nat) (number : Nat)
  | word (descriptor : Nat) (word : List Piece)

inductive Command where
  /-- Words, with assignments before them and lists that are given to names among them. -/
  | simple (line : Nat) (assignments : List Assignment) (words : List (List Piece))
      (lists : List Assignment) (redirections : List Redirection)
  | pipeline (stages : List Command)
  | negated (body : Command)
  | both (first second : Command)
  | either (first second : Command)
  | sequence (commands : List Command)
  | aside (body : Command)
  | separate (line : Nat) (body : Command)
  | redirected (line : Nat) (body : Command) (redirections : List Redirection)
  | branch (test body otherwise : Command)
  | loop (whileTrue : Bool) (test body : Command)
  | each (line : Nat) (name : String) (words : Option (List (List Piece))) (body : Command)
  | choice (line : Nat) (subject : List Piece)
      (arms : List (List (List Piece) × Command × ArmEnd))
  | define (name : String) (body : Command)
  | question (line : Nat) (question : Question (List Piece))
  /-- Arithmetic of the larger language, which succeeds unless it comes to zero. -/
  | compute (line : Nat) (expression : List Piece)
  /-- A loop of the larger language that counts. -/
  | count (line : Nat) (start test step : List Piece) (body : Command)

end

abbrev Word := List Piece

instance : Inhabited Command := ⟨.sequence []⟩

def Command.nothing : Command := .sequence []

/-- The characters of a word that has neither quotes nor values. -/
def plainText? : Word → Option String
  | [] => some ""
  | .text false chars :: rest => (plainText? rest).map (chars ++ ·)
  | _ :: _ => none

end AssociationCheck.Shell
