/-
Tokens of a type expression.

A type expression is cut into names, which are the longest runs of name characters, and single
marks. Blanks only separate. Every token knows how many bytes of the text stand before it.
-/

import AssociationCheck.Text.Blank
import AssociationCheck.Text.Letters

namespace AssociationCheck

inductive Mark
  | less
  | greater
  | comma
  | bar
  | ampersand
  | question
  | openGroup
  | closeGroup
  | openBracket
  | closeBracket
  deriving DecidableEq, Repr

namespace Mark

def char : Mark → Char
  | less => '<'
  | greater => '>'
  | comma => ','
  | bar => '|'
  | ampersand => '&'
  | question => '?'
  | openGroup => '('
  | closeGroup => ')'
  | openBracket => '['
  | closeBracket => ']'

def ofChar? : Char → Option Mark
  | '<' => some less
  | '>' => some greater
  | ',' => some comma
  | '|' => some bar
  | '&' => some ampersand
  | '?' => some question
  | '(' => some openGroup
  | ')' => some closeGroup
  | '[' => some openBracket
  | ']' => some closeBracket
  | _ => none

theorem ofChar?_char (mark : Mark) : ofChar? mark.char = some mark := by
  cases mark <;> rfl

end Mark

inductive Token
  | name (text : String)
  | mark (mark : Mark)
  deriving DecidableEq, Repr

namespace Token

def text : Token → String
  | name text => text
  | mark m => m.char.toString

def isNameChar (c : Char) : Bool :=
  Text.isLetterOrDigit c || c == '_' || c == '\\' || c == '-'

end Token

/-- A token and the number of bytes before it. -/
structure PlacedToken where
  offset : Nat
  token : Token
  deriving DecidableEq, Repr

structure StrayChar where
  offset : Nat
  char : Char
  deriving DecidableEq, Repr

namespace PlacedToken

/-- A name that is being read: where it starts, and its characters, the last one first. -/
abbrev OpenName := Option (Nat × List Char)

def OpenName.extend (offset : Nat) (c : Char) : OpenName → OpenName
  | none => some (offset, [c])
  | some (start, reversed) => some (start, c :: reversed)

def OpenName.close (following : List PlacedToken) : OpenName → List PlacedToken
  | none => following
  | some (start, reversed) => ⟨start, .name (String.ofList reversed.reverse)⟩ :: following

def ofChars (offset : Nat) (current : OpenName) : List Char → Except StrayChar (List PlacedToken)
  | [] => .ok (current.close [])
  | c :: rest =>
      let next := offset + c.utf8Size
      if Token.isNameChar c then
        ofChars next (current.extend offset c) rest
      else if Text.isBlank c then
        (ofChars next none rest).map current.close
      else
        match Mark.ofChar? c with
        | some mark =>
            (ofChars next none rest).map
              (fun following => current.close (⟨offset, .mark mark⟩ :: following))
        | none => .error ⟨offset, c⟩

def ofText (text : String) : Except StrayChar (List PlacedToken) :=
  ofChars 0 none text.toList

end PlacedToken

end AssociationCheck
