/-
The store of types.

Every type is kept once and known by its identifier, so that two types are equal exactly when
their identifiers are. The built-in types stand first, in a fixed order. Unions and intersections
are brought into a normal form when they are made; a shape may also be stored as it is, and may
then name identifiers that the store does not hold yet.
-/

import AssociationCheck.Text.Ascii
import AssociationCheck.ClassName

namespace AssociationCheck

/-! ### Types -/

/-- The built-in types: all values, no value, null and the four kinds of simple values. -/
inductive Scalar
  | mixed
  | never
  | null
  | int
  | string
  | bool
  | float
  deriving DecidableEq, Repr

structure TypeId where
  index : Nat
  deriving DecidableEq, Repr

namespace TypeId

def mixed : TypeId := ⟨0⟩
def never : TypeId := ⟨1⟩
def null : TypeId := ⟨2⟩
def int : TypeId := ⟨3⟩
def string : TypeId := ⟨4⟩
def bool : TypeId := ⟨5⟩
def float : TypeId := ⟨6⟩

def firstStored : Nat := 7

def isScalar (id : TypeId) : Bool := id.index < firstStored

end TypeId

namespace Scalar

def id : Scalar → TypeId
  | mixed => .mixed
  | never => .never
  | null => .null
  | int => .int
  | string => .string
  | bool => .bool
  | float => .float

def keyword : Scalar → String
  | mixed => "mixed"
  | never => "never"
  | null => "null"
  | int => "int"
  | string => "string"
  | bool => "bool"
  | float => "float"

/-- The built-in type a word names, in any case; three of them have a long form too. -/
def ofKeyword? (word : String) : Option Scalar :=
  match Text.foldCase word with
  | "mixed" => some mixed
  | "never" => some never
  | "null" => some null
  | "int" => some int
  | "integer" => some int
  | "string" => some string
  | "bool" => some bool
  | "boolean" => some bool
  | "float" => some float
  | "double" => some float
  | _ => none

end Scalar

inductive Shape
  | scalar (kind : Scalar)
  /-- Instances of a class or interface, with its type arguments. -/
  | object (name : String) (arguments : List TypeId)
  /-- Arrays and traversable objects alike. -/
  | iterable (key value : TypeId)
  | array (key value : TypeId)
  | union (members : List TypeId)
  | intersection (members : List TypeId)
  deriving DecidableEq, Repr

namespace Shape

def unionMembers? : Shape → Option (List TypeId)
  | union members => some members
  | _ => none

def intersectionMembers? : Shape → Option (List TypeId)
  | intersection members => some members
  | _ => none

def members? : Shape → Option (List TypeId)
  | union members => some members
  | intersection members => some members
  | _ => none

end Shape

/-! ### The store -/

/-- The types known so far; the identifier of a type is its position. -/
structure TypeStore where
  shapes : Array Shape
  deriving DecidableEq, Repr

abbrev Building := StateM TypeStore

namespace TypeStore

def initial : TypeStore :=
  ⟨#[.scalar .mixed, .scalar .never, .scalar .null, .scalar .int, .scalar .string, .scalar .bool,
    .scalar .float]⟩

def size (store : TypeStore) : Nat := store.shapes.size

def lookup (store : TypeStore) (id : TypeId) : Option Shape := store.shapes[id.index]?

def find? (store : TypeStore) (shape : Shape) : Option TypeId :=
  (store.shapes.idxOf? shape).map TypeId.mk

def intern (shape : Shape) : Building TypeId := fun store =>
  match store.find? shape with
  | some id => (id, store)
  | none => (⟨store.size⟩, ⟨store.shapes.push shape⟩)

/-! ### Constructors -/

/-- The instances of a class with type arguments. The name is kept without leading
separators. -/
def object (name : String) (arguments : List TypeId) : Building TypeId :=
  intern (.object (withoutLeadingSeparators name) arguments)

def iterable (key value : TypeId) : Building TypeId := intern (.iterable key value)

def array (key value : TypeId) : Building TypeId := intern (.array key value)

/-- The members of a type after members that are themselves of the same kind have been opened,
down to a number of levels. As many levels as the store has types reach every leaf of a type that
does not contain itself. -/
def flatten (store : TypeStore) (members? : Shape → Option (List TypeId)) :
    Nat → TypeId → List TypeId
  | 0, id => [id]
  | levels + 1, id =>
      match (store.lookup id).bind members? with
      | some members => members.flatMap (store.flatten members? levels)
      | none => [id]

/-- A union or intersection in normal form is a type already known or a shape to be stored. -/
inductive Normalized
  | known (id : TypeId)
  | stored (shape : Shape)
  deriving DecidableEq, Repr

/-- The normal form of a union: nested unions opened, no member twice, without `never`, with
`null` last, and `mixed` alone where it is a member. -/
def normalizeUnion (store : TypeStore) (members : List TypeId) : Normalized :=
  let flat := members.flatMap (store.flatten Shape.unionMembers? store.size)
  let proper := (flat.filter (fun id => id != .null && id != .never)).eraseDups
  if proper.contains .mixed then .known .mixed
  else
    match if flat.contains .null then proper ++ [.null] else proper with
    | [] => .known .never
    | [id] => .known id
    | ids => .stored (.union ids)

/-- The normal form of an intersection: nested intersections opened, no member twice, without
`mixed`, and `never` alone where it is a member. -/
def normalizeIntersection (store : TypeStore) (members : List TypeId) : Normalized :=
  let flat := members.flatMap (store.flatten Shape.intersectionMembers? store.size)
  let proper := (flat.filter (fun id => id != .mixed)).eraseDups
  if proper.contains .never then .known .never
  else
    match proper with
    | [] => .known .mixed
    | [id] => .known id
    | ids => .stored (.intersection ids)

def settle : Normalized → Building TypeId
  | .known id => pure id
  | .stored shape => intern shape

def union (members : List TypeId) : Building TypeId := do
  settle ((← get).normalizeUnion members)

def intersection (members : List TypeId) : Building TypeId := do
  settle ((← get).normalizeIntersection members)

/-! ### Questions -/

def className? (store : TypeStore) (id : TypeId) : Option String :=
  match store.lookup id with
  | some (.object name _) => some name
  | _ => none

/-- The members of a union; any other type is its own only member. -/
def unionMembers (store : TypeStore) (id : TypeId) : List TypeId :=
  match store.lookup id with
  | some (.union members) => members
  | _ => [id]

/-! ### Null -/

def addNull (id : TypeId) : Building TypeId := union [id, .null]

/-- The type without its member null; null alone leaves no value. -/
def removeNull (id : TypeId) : Building TypeId := do
  if id = .null then
    pure .never
  else
    match (← get).lookup id with
    | some (.union members) => union (members.filter (fun member => member != .null))
    | _ => pure id

def isNullable (store : TypeStore) (id : TypeId) : Bool :=
  id == .null || (store.unionMembers id).contains .null

end TypeStore

end AssociationCheck
