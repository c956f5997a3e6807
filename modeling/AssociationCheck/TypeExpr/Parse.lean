/-
Types from text.

Parsing cuts the text into tokens, reads them as one expression and adds it to a store. Where
the text is no expression, what is complete of it is added all the same.
-/

import AssociationCheck.TypeExpr.Reading

namespace AssociationCheck

inductive TypeParseError
  | unexpectedEnd (input : String)
  | unexpectedToken (found : String) (offset : Nat) (input : String)
  | invalidArguments (name : String) (count : Nat)
  | tooDeep
  deriving DecidableEq, Repr

namespace TypeParseError

def message : TypeParseError → String
  | unexpectedEnd input => "unexpected end of type expression `" ++ input ++ "`"
  | unexpectedToken found offset input =>
      "unexpected `" ++ found ++ "` at offset " ++ toString offset ++ " in `" ++ input ++ "`"
  | invalidArguments name count =>
      "`" ++ name ++ "` does not accept " ++ toString count ++ " type argument(s)"
  | tooDeep =>
      "type expression nests deeper than " ++ toString Reading.depthLimit ++ " levels"

def ofFailure (input : String) (failure : Reading.Failure) : TypeParseError :=
  match failure.fault, failure.token? with
  | .unexpected, some placed => unexpectedToken placed.token.text placed.offset input
  | .unexpected, none => unexpectedEnd input
  | .invalidArguments name count, _ => invalidArguments name count
  | .tooDeep, _ => tooDeep

end TypeParseError

namespace TypeExpr

def ofText (input : String) : Except (TypeParseError × List TypeExpr) TypeExpr :=
  match PlacedToken.ofText input with
  | .error stray => .error (.unexpectedToken stray.char.toString stray.offset input, [])
  | .ok tokens =>
      match Reading.run {} tokens with
      | .ok expr => .ok expr
      | .error failure => .error (.ofFailure input failure, failure.parts)

end TypeExpr

def parseType (input : String) : Building (Except TypeParseError TypeId) := do
  match TypeExpr.ofText input with
  | .ok expr =>
      let id ← expr.build
      pure (.ok id)
  | .error (error, parts) =>
      let _ ← TypeExpr.buildAll parts
      pure (.error error)

end AssociationCheck
