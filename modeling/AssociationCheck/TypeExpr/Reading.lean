/-
Reading a type expression token by token.

The grammar, with alternatives loosest and brackets tightest:

  union        is  intersection, then any number of  | intersection
  intersection is  postfix, then any number of  & postfix
  postfix      is  primary, then any number of  [ ]
  primary      is  ? postfix,  or  ( union ),  or  name,  or  name < union , ... , union >

Reading keeps, for every union that is open, what is complete of it; a token either continues
the innermost union, opens one inside it, or closes it. So each token costs one step, and the
nesting depth is what is open at that moment: unions and question marks.
-/

import AssociationCheck.TypeExpr.Basic
import AssociationCheck.TypeExpr.Token

namespace AssociationCheck

/-! ### What is open -/

/-- An open union: its complete alternatives, the complete members of its last alternative, both
with the latest first, and the question marks that wait for their operand. -/
structure OpenUnion where
  alternatives : List TypeExpr := []
  conjuncts : List TypeExpr := []
  questions : Nat := 0
  deriving Repr

namespace OpenUnion

def questioned (operand : TypeExpr) : Nat → TypeExpr
  | 0 => operand
  | questions + 1 => .nullable (questioned operand questions)

def conjoin (opened : OpenUnion) (operand : TypeExpr) : OpenUnion :=
  { opened with
    conjuncts := questioned operand opened.questions :: opened.conjuncts
    questions := 0 }

def lastAlternative (opened : OpenUnion) (operand : TypeExpr) : TypeExpr :=
  .allOf (opened.conjoin operand).conjuncts.reverse

def alternate (opened : OpenUnion) (operand : TypeExpr) : OpenUnion :=
  { alternatives := opened.lastAlternative operand :: opened.alternatives }

def complete (opened : OpenUnion) (operand : TypeExpr) : TypeExpr :=
  .anyOf (opened.alternate operand).alternatives.reverse

/-- How much an open union adds to the depth: itself and its waiting question marks. -/
def depth (opened : OpenUnion) : Nat := opened.questions + 1

def parts (opened : OpenUnion) : List TypeExpr :=
  opened.alternatives.reverse ++ opened.conjuncts.reverse

end OpenUnion

inductive Enclosure
  | group
  /-- An argument of a name; the arguments before it, the latest first. -/
  | arguments (name : String) (given : List TypeExpr)
  deriving Repr

namespace Enclosure

def parts : Enclosure → List TypeExpr
  | group => []
  | arguments _ given => given.reverse

end Enclosure

inductive Place
  /-- An operand has to follow. -/
  | beforeOperand
  /-- After a name, which may still be given arguments. -/
  | afterName (name : String)
  | afterOperand (operand : TypeExpr)
  /-- After an opening bracket behind an operand. -/
  | inBrackets (operand : TypeExpr)
  deriving Repr

/-- What has been read: the innermost open union, the unions around it from inside to outside,
each with what the one inside it is for, and the place in the innermost one. -/
structure Reading where
  outer : List (OpenUnion × Enclosure) := []
  inner : OpenUnion := {}
  place : Place := .beforeOperand
  deriving Repr

inductive Fault
  | unexpected
  /-- The name does not accept that number of arguments. -/
  | invalidArguments (name : String) (count : Nat)
  | tooDeep
  deriving DecidableEq, Repr

namespace Reading

def depthLimit : Nat := 128

def depth (reading : Reading) : Nat :=
  reading.outer.foldl (fun total frame => total + frame.1.depth) reading.inner.depth

def withinDepth (reading : Reading) : Except Fault Reading :=
  if reading.depth ≤ depthLimit then .ok reading else .error .tooDeep

def enter (reading : Reading) (enclosure : Enclosure) : Except Fault Reading :=
  withinDepth { outer := (reading.inner, enclosure) :: reading.outer }

def startOperand (reading : Reading) : Token → Except Fault Reading
  | .name name => .ok { reading with place := .afterName name }
  | .mark .question =>
      withinDepth
        { reading with
          inner := { reading.inner with questions := reading.inner.questions + 1 } }
  | .mark .openGroup => reading.enter .group
  | .mark _ => .error .unexpected

def continueAfter (reading : Reading) (operand : TypeExpr) : Token → Except Fault Reading
  | .mark .openBracket => .ok { reading with place := .inBrackets operand }
  | .mark .ampersand =>
      .ok { reading with inner := reading.inner.conjoin operand, place := .beforeOperand }
  | .mark .bar =>
      .ok { reading with inner := reading.inner.alternate operand, place := .beforeOperand }
  | .mark .closeGroup =>
      match reading.outer with
      | (outer, .group) :: rest =>
          .ok ⟨rest, outer, .afterOperand (reading.inner.complete operand)⟩
      | _ => .error .unexpected
  | .mark .comma =>
      match reading.outer with
      | (outer, .arguments name given) :: rest =>
          .ok { outer :=
                  (outer, .arguments name (reading.inner.complete operand :: given)) :: rest }
      | _ => .error .unexpected
  | .mark .greater =>
      match reading.outer with
      | (outer, .arguments name given) :: rest =>
          let arguments := (reading.inner.complete operand :: given).reverse
          match TypeExpr.ofName? name arguments with
          | some applied => .ok ⟨rest, outer, .afterOperand applied⟩
          | none => .error (.invalidArguments name arguments.length)
      | _ => .error .unexpected
  | _ => .error .unexpected

def step (reading : Reading) (token : Token) : Except Fault Reading :=
  match reading.place with
  | .beforeOperand => reading.startOperand token
  | .afterName name =>
      match token with
      | .mark .less => reading.enter (.arguments name [])
      | token => reading.continueAfter (.ofBareName name) token
  | .afterOperand operand => reading.continueAfter operand token
  | .inBrackets operand =>
      match token with
      | .mark .closeBracket =>
          .ok { reading with place := .afterOperand (.array (.scalar .mixed) operand) }
      | _ => .error .unexpected

def result? (reading : Reading) : Option TypeExpr :=
  match reading.outer, reading.place with
  | [], .afterName name => some (reading.inner.complete (.ofBareName name))
  | [], .afterOperand operand => some (reading.inner.complete operand)
  | _, _ => none

/-! ### What is complete of an expression that cannot be read -/

def outerParts : List (OpenUnion × Enclosure) → List TypeExpr
  | [] => []
  | (outer, enclosure) :: rest => outerParts rest ++ outer.parts ++ enclosure.parts

/-- The complete parts when no further token can be read. An operand that nothing can continue
completes the innermost union, unless reading stopped at the arguments of its name. -/
def parts (reading : Reading) (stoppedAtArguments : Bool) : List TypeExpr :=
  outerParts reading.outer ++
    match reading.place with
    | .beforeOperand => reading.inner.parts
    | .afterName name =>
        if stoppedAtArguments then reading.inner.parts
        else [reading.inner.complete (.ofBareName name)]
    | .afterOperand operand => [reading.inner.complete operand]
    | .inBrackets operand => reading.inner.parts ++ [operand]

/-- Why tokens are not an expression, at which token if not at their end, and what is complete of
it. -/
structure Failure where
  fault : Fault
  token? : Option PlacedToken
  parts : List TypeExpr
  deriving Repr

def run (reading : Reading) : List PlacedToken → Except Failure TypeExpr
  | [] =>
      match reading.result? with
      | some expr => .ok expr
      | none => .error ⟨.unexpected, none, reading.parts false⟩
  | placed :: rest =>
      match reading.step placed.token with
      | .ok next => next.run rest
      | .error fault => .error ⟨fault, some placed, reading.parts (fault == .tooDeep)⟩

end Reading

end AssociationCheck
