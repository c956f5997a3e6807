/-
JSON values and their text.

An object keeps its members in the order they are given. A value is written compactly, or over
several lines with two blanks for each level.
-/

import AssociationCheck.Text.Quoted
import AssociationCheck.Json.Number

namespace AssociationCheck

inductive Json
  | null
  | bool (value : Bool)
  | number (written : Json.Number)
  | string (text : String)
  | array (items : List Json)
  | object (members : List (String × Json))
  deriving Repr

namespace Json

def ofNat (value : Nat) : Json := .number (.ofNat value)

def ofString? : Option String → Json
  | some text => .string text
  | none => .null

def strings (texts : List String) : Json := .array (texts.map .string)

def get? : Json → String → Option Json
  | object members, key => members.lookup key
  | _, _ => none

/-! ### Writing -/

def writtenChar (c : Char) : String :=
  if c = '"' then "\\\""
  else if c = '\\' then "\\\\"
  else if c = '\n' then "\\n"
  else if c = '\r' then "\\r"
  else if c = '\t' then "\\t"
  else if c.toNat = 8 then "\\b"
  else if c.toNat = 12 then "\\f"
  else if c.toNat < 16 then "\\u000" ++ Text.hexadecimal c.toNat
  else if c.toNat < 32 then "\\u00" ++ Text.hexadecimal c.toNat
  else c.toString

def writtenString (text : String) : String :=
  "\"" ++ text.foldl (fun written c => written ++ writtenChar c) "" ++ "\""

def writtenNumber (written : Number) : String :=
  match written.value with
  | .natural value => toString value
  | .negative magnitude => "-" ++ toString magnitude
  | .floating value => Number.floatText value
  | .outOfRange => "null"

mutual

def compact : Json → String
  | .null => "null"
  | .bool value => if value then "true" else "false"
  | .number written => writtenNumber written
  | .string text => writtenString text
  | .array items => "[" ++ String.intercalate "," (compactItems items) ++ "]"
  | .object members => "\x7b" ++ String.intercalate "," (compactMembers members) ++ "\x7d"

def compactItems : List Json → List String
  | [] => []
  | item :: rest => compact item :: compactItems rest

def compactMembers : List (String × Json) → List String
  | [] => []
  | (key, value) :: rest =>
      (writtenString key ++ ":" ++ compact value) :: compactMembers rest

end

def indentation (level : Nat) : String := "\n" ++ String.ofList (List.replicate (2 * level) ' ')

def bracketed (level : Nat) (opening closing : String) (lines : List String) : String :=
  if lines.isEmpty then opening ++ closing
  else
    opening ++ indentation (level + 1) ++
      String.intercalate ("," ++ indentation (level + 1)) lines ++ indentation level ++ closing

mutual

def prettyAt (level : Nat) : Json → String
  | .null => "null"
  | .bool value => if value then "true" else "false"
  | .number written => writtenNumber written
  | .string text => writtenString text
  | .array items => bracketed level "[" "]" (prettyItems (level + 1) items)
  | .object members => bracketed level "\x7b" "\x7d" (prettyMembers (level + 1) members)

def prettyItems (level : Nat) : List Json → List String
  | [] => []
  | item :: rest => prettyAt level item :: prettyItems level rest

def prettyMembers (level : Nat) : List (String × Json) → List String
  | [] => []
  | (key, value) :: rest =>
      (writtenString key ++ ": " ++ prettyAt level value) :: prettyMembers level rest

end

def pretty (value : Json) : String := prettyAt 0 value

end Json

end AssociationCheck
