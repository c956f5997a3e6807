/-
Type expressions.

A type expression is what a declared type says before unions and intersections are brought into
normal form. Building it adds its types to a store, the parts of an expression before the whole
and from left to right.
-/

import AssociationCheck.Types.Store

namespace AssociationCheck

inductive TypeExpr
  | scalar (kind : Scalar)
  | object (name : String) (arguments : List TypeExpr)
  | iterable (key value : TypeExpr)
  | array (key value : TypeExpr)
  /-- The type with null among its values. -/
  | nullable (inner : TypeExpr)
  | anyOf (members : List TypeExpr)
  | allOf (members : List TypeExpr)
  deriving Repr

/-! ### Names with arguments -/

inductive Container
  | iterable
  | array
  | list
  deriving DecidableEq, Repr

namespace Container

def ofKeyword? (word : String) : Option Container :=
  match Text.foldCase word with
  | "iterable" => some iterable
  | "array" => some array
  | "list" => some list
  | _ => none

/-- One argument is the type of the values, two are the types of keys and values; what is not
given is `mixed`. The keys of a list are integers and cannot be given. -/
def apply : Container → List TypeExpr → Option TypeExpr
  | iterable, [] => some (.iterable (.scalar .mixed) (.scalar .mixed))
  | iterable, [value] => some (.iterable (.scalar .mixed) value)
  | iterable, [key, value] => some (.iterable key value)
  | array, [] => some (.array (.scalar .mixed) (.scalar .mixed))
  | array, [value] => some (.array (.scalar .mixed) value)
  | array, [key, value] => some (.array key value)
  | list, [] => some (.array (.scalar .int) (.scalar .mixed))
  | list, [value] => some (.array (.scalar .int) value)
  | _, _ => none

end Container

namespace TypeExpr

/-- What a name says with its arguments: a built-in type, a container or a class. There is no
such type where a built-in type is given arguments or a container too many. -/
def ofName? (name : String) (arguments : List TypeExpr) : Option TypeExpr :=
  match Scalar.ofKeyword? name with
  | some kind => if arguments.isEmpty then some (.scalar kind) else none
  | none =>
      match Container.ofKeyword? name with
      | some container => container.apply arguments
      | none => some (.object name arguments)

def ofBareName (name : String) : TypeExpr :=
  match Scalar.ofKeyword? name with
  | some kind => .scalar kind
  | none =>
      match Container.ofKeyword? name with
      | some .iterable => .iterable (.scalar .mixed) (.scalar .mixed)
      | some .array => .array (.scalar .mixed) (.scalar .mixed)
      | some .list => .array (.scalar .int) (.scalar .mixed)
      | none => .object name []

theorem ofName?_nil (name : String) : ofName? name [] = some (ofBareName name) := by
  unfold ofName? ofBareName
  cases Scalar.ofKeyword? name with
  | some kind => rfl
  | none =>
      cases Container.ofKeyword? name with
      | none => rfl
      | some container => cases container <;> rfl

/-! ### Building -/

mutual

def build : TypeExpr → Building TypeId
  | .scalar kind => pure kind.id
  | .object name arguments => do TypeStore.object name (← buildAll arguments)
  | .iterable key value => do
      let keyId ← build key
      let valueId ← build value
      TypeStore.iterable keyId valueId
  | .array key value => do
      let keyId ← build key
      let valueId ← build value
      TypeStore.array keyId valueId
  | .nullable inner => do TypeStore.addNull (← build inner)
  | .anyOf members => do TypeStore.union (← buildAll members)
  | .allOf members => do TypeStore.intersection (← buildAll members)

def buildAll : List TypeExpr → Building (List TypeId)
  | [] => pure []
  | first :: others => do
      let id ← build first
      let ids ← buildAll others
      pure (id :: ids)

end

end TypeExpr

end AssociationCheck
