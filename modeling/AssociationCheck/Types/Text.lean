/-
Types as text and as trees.

The text of a type is what a type expression for it looks like: members joined by `|` and `&`,
with parentheses around a member that is itself a union or an intersection; type arguments
between angle brackets; and a key that is `mixed` left out. The tree of a type unfolds its
identifiers. Both stop at a number of levels, since a store may hold types that contain
themselves.
-/

import AssociationCheck.Types.Store

namespace AssociationCheck

/-! ### Text -/

namespace TypeStore

/-- Unions and intersections are put in parentheses inside one another. -/
def isComposite (store : TypeStore) (id : TypeId) : Bool :=
  ((store.lookup id).bind Shape.members?).isSome

def bracketed (arguments : List String) : String :=
  "<" ++ String.intercalate ", " arguments ++ ">"

/-- The text of a type, with three dots for what lies deeper than a number of levels. -/
def textWithin (store : TypeStore) : Nat → TypeId → String
  | 0, _ => "..."
  | levels + 1, id =>
      let inner := store.textWithin levels
      let member (id : TypeId) : String :=
        if store.isComposite id then "(" ++ inner id ++ ")" else inner id
      let keyed (keyword : String) (key value : TypeId) : String :=
        if key = .mixed then
          if value = .mixed then keyword else keyword ++ bracketed [inner value]
        else keyword ++ bracketed [inner key, inner value]
      match store.lookup id with
      | none => "*ERROR*"
      | some (.scalar kind) => kind.keyword
      | some (.object name arguments) =>
          if arguments.isEmpty then name else name ++ bracketed (arguments.map inner)
      | some (.iterable key value) => keyed "iterable" key value
      | some (.array key value) => keyed "array" key value
      | some (.union members) => String.intercalate "|" (members.map member)
      | some (.intersection members) => String.intercalate "&" (members.map member)

def textLevels : Nat := 32

def text (store : TypeStore) (id : TypeId) : String := store.textWithin textLevels id

end TypeStore

/-! ### Trees -/

/-- A type with its identifiers unfolded. -/
inductive TypeTree
  /-- An identifier that the store does not hold. -/
  | unknown
  /-- What lies deeper than the tree goes. -/
  | elided
  | scalar (kind : Scalar)
  | object (name : String) (arguments : List TypeTree)
  | iterable (key value : TypeTree)
  | array (key value : TypeTree)
  | union (members : List TypeTree)
  | intersection (members : List TypeTree)
  deriving Repr

namespace TypeStore

def treeWithin (store : TypeStore) : Nat → TypeId → TypeTree
  | 0, _ => .elided
  | levels + 1, id =>
      match store.lookup id with
      | none => .unknown
      | some (.scalar kind) => .scalar kind
      | some (.object name arguments) => .object name (arguments.map (store.treeWithin levels))
      | some (.iterable key value) =>
          .iterable (store.treeWithin levels key) (store.treeWithin levels value)
      | some (.array key value) =>
          .array (store.treeWithin levels key) (store.treeWithin levels value)
      | some (.union members) => .union (members.map (store.treeWithin levels))
      | some (.intersection members) => .intersection (members.map (store.treeWithin levels))

end TypeStore

end AssociationCheck
