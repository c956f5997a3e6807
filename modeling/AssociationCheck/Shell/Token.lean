/-
The tokens of a script.

A script is read character by character. What has been read and what is still to be read is kept
in a reader, together with the lines that commands take from the script itself: they begin on the
line after the command, and are read when that line is reached.
-/

import AssociationCheck.Shell.Script

namespace AssociationCheck.Shell

inductive Redirector
  | read
  | write
  | rewrite
  | append
  | readWrite
  | copyInput
  | copyOutput
  | lines (withoutTabs : Bool)
  | word
  | both (append : Bool)
  deriving DecidableEq, Repr

inductive Token
  | ending
  | newline
  | semicolon
  | ampersand
  | both
  | either
  | pipe
  | pipeBoth
  | opening
  | closing
  | armEnd (ending : ArmEnd)
  | redirection (descriptor : Option Nat) (redirector : Redirector)
  | word (word : Word)

/-- Lines that a command takes from the script, before they are read. -/
structure Awaited where
  number : Nat
  ending : String
  /-- The line on which they are asked for. -/
  line : Nat
  quoted : Bool
  withoutTabs : Bool
  deriving DecidableEq, Repr

/-- Why a script cannot be read. -/
inductive ReadingFault
  /-- A token that does not belong here, and the one that does. -/
  | unexpected (token : String) (expected : Option String)
  | openQuote (quote : Char)
  | openBackquote
  | openBrace
  | openArithmetic
  /-- Commands or items without the closing bracket. -/
  | openBracket
  /-- A question that makes no sense: why, and the last token that was read. -/
  | badQuestion (reason : Option String) (near : String)
  | badName
  | badLoopVariable
  | tooDeep
  deriving DecidableEq, Repr

structure Reader where
  dialect : Dialect
  rest : List Char
  line : Nat := 1
  pushed : Option Token := none
  awaited : List Awaited := []
  documents : List (Nat × Word) := []
  nextDocument : Nat := 0
  /-- Lines that a command takes and that have no ending. -/
  unended : List (Nat × Awaited) := []

/-- Reading, which may come to a fault on a line. -/
abbrev Reading := StateT Reader (Except (Nat × ReadingFault))

namespace Reader

def fail {α : Type} (fault : ReadingFault) : Reading α := do
  throw ((← get).line, fault)

def peek : Reading (Option Char) := do
  pure (← get).rest.head?

/-- Passes over some characters, none of which ends a line. -/
def skip (count : Nat) : Reading Unit :=
  modify (fun reader => { reader with rest := reader.rest.drop count })

def next : Reading (Option Char) := do
  match (← get).rest with
  | [] => pure none
  | c :: rest =>
      modify (fun reader =>
        { reader with rest := rest, line := if c = '\n' then reader.line + 1 else reader.line })
      pure (some c)

/-- Passes over line ends that a backslash hides. -/
def skipHiddenEnds : Reading Unit := do
  let reader ← get
  set (go reader reader.rest)
where
  go (reader : Reader) : List Char → Reader
    | '\\' :: '\n' :: rest => go { reader with rest := rest, line := reader.line + 1 } rest
    | _ => reader

def isExtended : Reading Bool := do
  pure ((← get).dialect == .extended)

end Reader

/-! ### Characters -/

def isNameStart (c : Char) : Bool := c.isAlpha || c = '_'

def isNamePart (c : Char) : Bool := c.isAlphanum || c = '_'

def isName (text : String) : Bool :=
  match text.toList with
  | [] => false
  | c :: rest => isNameStart c && rest.all isNamePart

def backquote : Char := Char.ofNat 96

def endsWord (c : Char) : Bool :=
  [' ', '\t', '\n', ';', '&', '|', '<', '>', '(', ')'].contains c

def isSpecial (c : Char) : Bool :=
  ['@', '*', '#', '?', '-', '$', '!', '0', '1', '2', '3', '4', '5', '6', '7', '8', '9'].contains c

/-! ### Words that are being read -/

/-- A word that is being read, its last piece and last character first. -/
structure OpenWord where
  pieces : List Piece := []
  quoted : Bool := false
  chars : List Char := []

namespace OpenWord

def flush (word : OpenWord) : OpenWord :=
  if word.chars.isEmpty then word
  else
    { word with
      pieces := .text word.quoted (String.ofList word.chars.reverse) :: word.pieces
      chars := [] }

def push (word : OpenWord) (quoted : Bool) (c : Char) : OpenWord :=
  if word.quoted == quoted then { word with chars := c :: word.chars }
  else { word.flush with quoted := quoted, chars := [c] }

def pushAll (word : OpenWord) (quoted : Bool) (chars : List Char) : OpenWord :=
  chars.foldl (fun word c => word.push quoted c) word

def add (word : OpenWord) (piece : Piece) : OpenWord :=
  let flushed := word.flush
  { flushed with pieces := piece :: flushed.pieces }

/-- Marks that there is a word even if nothing stands between the quotes. -/
def mark (word : OpenWord) : OpenWord := word.add (.text true "")

def close (word : OpenWord) : Word := word.flush.pieces.reverse

end OpenWord

/-! ### Words of the language -/

def keywords : List String :=
  ["!", "case", "do", "done", "elif", "else", "esac", "fi", "for", "if", "in", "then", "until",
    "while", "\x7b", "\x7d"]

def extendedKeywords : List String := ["[[", "]]", "function", "select", "time", "coproc"]

def Token.keyword? (dialect : Dialect) : Token → Option String
  | .word pieces =>
      match plainText? pieces with
      | some text =>
          if keywords.contains text ||
              (dialect == .extended && extendedKeywords.contains text) then some text
          else none
      | none => none
  | _ => none

/-- A token as faults show it: its kind, or its text between quotes. -/
def Token.shown (dialect : Dialect) (token : Token) : String :=
  let between (text : String) : String :=
    match dialect with
    | .standard => "\"" ++ text ++ "\""
    | .extended => text
  match token with
  | .ending => "end of file"
  | .newline => "newline"
  | .semicolon => between ";"
  | .ampersand => between "&"
  | .both => between "&&"
  | .either => between "||"
  | .pipe => between "|"
  | .pipeBoth => between "|&"
  | .opening => between "("
  | .closing => between ")"
  | .armEnd .leave => between ";;"
  | .armEnd .goOn => between ";&"
  | .armEnd .tryNext => between ";;&"
  | .redirection _ redirector =>
      match dialect with
      | .standard => "redirection"
      | .extended =>
          match redirector with
          | .read => "<"
          | .write => ">"
          | .rewrite => ">|"
          | .append => ">>"
          | .readWrite => "<>"
          | .copyInput => "<&"
          | .copyOutput => ">&"
          | .lines false => "<<"
          | .lines true => "<<-"
          | .word => "<<<"
          | .both false => "&>"
          | .both true => "&>>"
  | .word pieces =>
      match token.keyword? dialect with
      | some text => between text
      | none =>
          match dialect with
          | .standard => "word"
          | .extended => (plainText? pieces).getD "word"

def Token.closes (dialect : Dialect) (token : Token) : Bool :=
  match token with
  | .ending => true
  | .closing => true
  | .armEnd _ => true
  | _ =>
      match token.keyword? dialect with
      | some text =>
          ["do", "done", "elif", "else", "esac", "fi", "then", "\x7d"].contains text
      | none => false

end AssociationCheck.Shell
