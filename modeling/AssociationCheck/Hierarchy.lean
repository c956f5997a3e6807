/-
The hierarchy of classes and interfaces.

The hierarchy records, for each class, its direct parents and whether it is an interface and
final. A parent that would make a class derive from itself is refused, so deriving never runs in
a circle. The walk along the parents looks at a limited number of classes.
-/

import AssociationCheck.ClassName
import Std.Data.TreeMap
import Std.Data.TreeSet

namespace AssociationCheck

/-! ### Declarations -/

inductive ClassKind
  | concrete
  | interface
  deriving DecidableEq, Repr

structure ClassInfo where
  name : String
  kind : ClassKind
  isFinal : Bool
  parents : List ClassName
  deriving DecidableEq, Repr

/-- The classes known so far, by their keys. -/
structure Hierarchy where
  classes : Std.TreeMap ClassKey ClassInfo

namespace Hierarchy

def empty : Hierarchy := ⟨∅⟩

def find? (hierarchy : Hierarchy) (key : ClassKey) : Option ClassInfo :=
  hierarchy.classes[key]?

def get? (hierarchy : Hierarchy) (name : String) : Option ClassInfo :=
  hierarchy.find? (.of name)

def set (hierarchy : Hierarchy) (key : ClassKey) (info : ClassInfo) : Hierarchy :=
  ⟨hierarchy.classes.insert key info⟩

@[simp] theorem find?_empty (key : ClassKey) : empty.find? key = none := by
  simp [find?, empty]

theorem find?_set (hierarchy : Hierarchy) (key other : ClassKey) (info : ClassInfo) :
    (hierarchy.set key info).find? other =
      if key = other then some info else hierarchy.find? other := by
  simp [find?, set, Std.TreeMap.getElem?_insert]

def contains (hierarchy : Hierarchy) (name : String) : Bool := (hierarchy.get? name).isSome

def isInterface (hierarchy : Hierarchy) (name : String) : Bool :=
  match hierarchy.get? name with
  | some info => info.kind == .interface
  | none => false

def isFinal (hierarchy : Hierarchy) (name : String) : Bool :=
  match hierarchy.get? name with
  | some info => info.isFinal
  | none => false

def size (hierarchy : Hierarchy) : Nat := hierarchy.classes.size

def parents (hierarchy : Hierarchy) (key : ClassKey) : List ClassName :=
  match hierarchy.find? key with
  | some info => info.parents
  | none => []

/-! ### Ancestors -/

def walkLimit : Nat := 4096

/-- Whether the walk meets the target. The classes still to be looked at are taken from the
front; a class that has been looked into already is passed over, and so is every class once the
walk has looked into as many as it may. -/
def walk (hierarchy : Hierarchy) (target : ClassKey) :
    Nat → Std.TreeSet ClassKey → List ClassName → Bool
  | 0, _, ahead => ahead.any (fun name => name.key == target)
  | steps + 1, visited, ahead =>
      match ahead.dropWhile (fun name => name.key != target && visited.contains name.key) with
      | [] => false
      | name :: rest =>
          if name.key = target then true
          else
            hierarchy.walk target steps (visited.insert name.key)
              ((hierarchy.parents name.key).reverse ++ rest)

/-- A class derives from an ancestor when one or more steps to a parent lead there. -/
def isDerivedFrom (hierarchy : Hierarchy) (child ancestor : String) : Bool :=
  hierarchy.walk (.of ancestor) walkLimit ∅ (hierarchy.parents (.of child)).reverse

def isSameOrDerived (hierarchy : Hierarchy) (child ancestor : String) : Bool :=
  sameClass child ancestor || hierarchy.isDerivedFrom child ancestor

/-- Some value could be an instance of both classes: one is or derives from the other, or one is
an interface and the other can have a subclass that implements it. -/
def mayShareInstances (hierarchy : Hierarchy) (first second : String) : Bool :=
  hierarchy.isSameOrDerived first second || hierarchy.isSameOrDerived second first ||
    (hierarchy.isInterface first && !hierarchy.isFinal second) ||
    (hierarchy.isInterface second && !hierarchy.isFinal first)

/-! ### Changes -/

/-- A parent of the child that would make it derive from itself. -/
def closesCycle (hierarchy : Hierarchy) (child parent : String) : Bool :=
  sameClass child parent || hierarchy.isDerivedFrom parent child

/-- Records what is known of a class; the parents recorded before stay and no others are
taken over. -/
def declare (hierarchy : Hierarchy) (info : ClassInfo) : Hierarchy :=
  let key := ClassKey.of info.name
  hierarchy.set key { info with parents := hierarchy.parents key }

/-- What is recorded of a class that is first seen as a child. -/
def undeclared (name : String) : ClassInfo :=
  ⟨withoutLeadingSeparators name, .concrete, false, []⟩

def addParent (hierarchy : Hierarchy) (child parent : String) : Hierarchy :=
  let key := ClassKey.of child
  let info := (hierarchy.find? key).getD (undeclared child)
  let name := ClassName.of parent
  if info.parents.any (fun known => known.key == name.key) then hierarchy.set key info
  else hierarchy.set key { info with parents := info.parents ++ [name] }

/-- Records the parents of a child one after the other and says whether none was refused. -/
def addInheritance (hierarchy : Hierarchy) (child : String) :
    List String → Bool × Hierarchy
  | [] => (true, hierarchy)
  | parent :: others =>
      if hierarchy.closesCycle child parent then
        (false, (hierarchy.addInheritance child others).2)
      else
        (hierarchy.addParent child parent).addInheritance child others

/-- Declares a class and records its parents; says whether none was refused. -/
def declareClass (hierarchy : Hierarchy) (name : String) (kind : ClassKind) (isFinal : Bool)
    (parents : List String) : Bool × Hierarchy :=
  (hierarchy.declare ⟨withoutLeadingSeparators name, kind, isFinal, []⟩).addInheritance name parents

/-! ### Classes that are always there -/

def traversable : String := "Traversable"

def collection : String := "Doctrine\\Common\\Collections\\Collection"

/-- The interfaces of iteration and the collection classes, each after its parents. -/
def standardClasses : List (String × ClassKind × List String) :=
  let iteratorAggregate := "IteratorAggregate"
  let countable := "Countable"
  let arrayAccess := "ArrayAccess"
  let readable := "Doctrine\\Common\\Collections\\ReadableCollection"
  let selectable := "Doctrine\\Common\\Collections\\Selectable"
  let lazyCollection := "Doctrine\\Common\\Collections\\AbstractLazyCollection"
  [ (traversable, .interface, []),
    ("Iterator", .interface, [traversable]),
    (iteratorAggregate, .interface, [traversable]),
    (countable, .interface, []),
    (arrayAccess, .interface, []),
    (readable, .interface, [countable, iteratorAggregate]),
    (collection, .interface, [readable, arrayAccess]),
    (selectable, .interface, []),
    ("Doctrine\\Common\\Collections\\ArrayCollection", .concrete, [collection, selectable]),
    (lazyCollection, .concrete, [collection]),
    ("Doctrine\\ORM\\PersistentCollection", .concrete, [lazyCollection, selectable]) ]

def standard : Hierarchy :=
  standardClasses.foldl
    (fun hierarchy (name, kind, parents) => (hierarchy.declareClass name kind false parents).2)
    empty

def isTraversable (hierarchy : Hierarchy) (name : String) : Bool :=
  hierarchy.isSameOrDerived name traversable

end Hierarchy

end AssociationCheck
