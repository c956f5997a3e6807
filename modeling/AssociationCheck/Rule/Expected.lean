/-
The two sides of an association.

The expected type is what the mapping allows a property to hold: the target entity, with null
where the database can hold none, or a collection that yields the target entity. The declared type
of a property to many is brought into the same form, so that only the kind of the container and
the type of its elements count.
-/

import AssociationCheck.Hierarchy
import AssociationCheck.Mapping.Basic
import AssociationCheck.Types.Store

namespace AssociationCheck

structure CheckOptions where
  /-- A property may be nullable though its association is required. -/
  allowNullable : Bool := false
  /-- The interface of properties to many. -/
  collectionInterface : String := Hierarchy.collection
  deriving DecidableEq, Repr

namespace CheckOptions

def withCollectionInterface (options : CheckOptions) (name : String) : CheckOptions :=
  { options with collectionInterface := withoutLeadingSeparators name }

end CheckOptions

/-- The database can hold null for the property: never to many, and never for the only property of
an identifier. -/
def Association.expectsNull (association : Association) : Bool :=
  !association.isToMany && association.isNullable && association.identifierRole != .sole

def collectionOf (name : String) (value : TypeId) : Building TypeId := do
  let collection ← TypeStore.object name []
  let values ← TypeStore.iterable .mixed value
  TypeStore.intersection [collection, values]

/-- What the mapping allows the property to hold. -/
def expectedType (options : CheckOptions) (association : Association) : Building TypeId := do
  let target ← TypeStore.object association.targetEntity []
  if association.isToMany then collectionOf options.collectionInterface target
  else if association.expectsNull then TypeStore.addNull target
  else pure target

/-- The form of a declared type in which it is compared, down to a number of levels of unions and
intersections: a collection class with arguments becomes a collection of its last argument, and
iterables and arrays lose the type of their keys. -/
def normalizeWithin (hierarchy : Hierarchy) (options : CheckOptions) :
    Nat → TypeId → Building TypeId
  | 0, declared => pure declared
  | levels + 1, declared => do
      match (← get).lookup declared with
      | some (.object name arguments) =>
          match arguments.getLast? with
          | some value =>
              if hierarchy.isSameOrDerived name options.collectionInterface then
                collectionOf name value
              else pure declared
          | none => pure declared
      | some (.iterable key value) =>
          if key = .mixed then pure declared else TypeStore.iterable .mixed value
      | some (.array key value) =>
          if key = .mixed then pure declared else TypeStore.array .mixed value
      | some (.union members) =>
          TypeStore.union (← members.mapM (normalizeWithin hierarchy options levels))
      | some (.intersection members) =>
          TypeStore.intersection (← members.mapM (normalizeWithin hierarchy options levels))
      | _ => pure declared

/-- The form in which the declared type of a property to many is compared. As many levels as the
store has types reach every member. -/
def normalizeCollection (hierarchy : Hierarchy) (options : CheckOptions) (declared : TypeId) :
    Building TypeId := do
  normalizeWithin hierarchy options (← get).size declared

end AssociationCheck
