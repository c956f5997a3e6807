/-
Mapping metadata of classes.

The metadata of a class say how its properties are mapped to associations, as an object manager
reports them. The resolved view of one association holds what a comparison with the declared type
of the property needs.
-/

import AssociationCheck.ClassName
import AssociationCheck.Dictionary

namespace AssociationCheck

/-! ### Kinds -/

inductive AssociationKind
  | oneToOne
  | manyToOne
  | oneToMany
  | manyToMany
  deriving DecidableEq, Repr

inductive Cardinality
  | toOne
  | toMany
  deriving DecidableEq, Repr

def AssociationKind.cardinality : AssociationKind → Cardinality
  | oneToOne => .toOne
  | manyToOne => .toOne
  | oneToMany => .toMany
  | manyToMany => .toMany

/-- Where an association is stored: in columns of the own table, in a table of its own, or by a
field of the target entity. -/
inductive StorageKind
  | joinColumn
  | joinTable
  | inverse
  deriving DecidableEq, Repr

inductive IdentifierRole
  | none
  /-- The identifier is this property alone. -/
  | sole
  /-- The property is one of several of which the identifier is made. -/
  | composite
  deriving DecidableEq, Repr

/-! ### Metadata -/

structure JoinColumn where
  name : String := ""
  referencedColumnName : Option String := none
  nullable : Option Bool := none
  deriving DecidableEq, Repr

def JoinColumn.isNullable (column : JoinColumn) : Bool := column.nullable.getD true

structure JoinTable where
  name : String
  joinColumns : List JoinColumn := []
  inverseJoinColumns : List JoinColumn := []
  deriving DecidableEq, Repr

structure AssociationMapping where
  fieldName : String
  kind : AssociationKind
  targetEntity : String
  isOwningSide : Bool := true
  joinColumns : List JoinColumn := []
  joinTable : Option JoinTable := none
  mappedBy : Option String := none
  inversedBy : Option String := none
  deriving DecidableEq, Repr

namespace AssociationMapping

def withJoinColumn (mapping : AssociationMapping) (column : JoinColumn) : AssociationMapping :=
  { mapping with joinColumns := mapping.joinColumns ++ [column] }

def withJoinTable (mapping : AssociationMapping) (table : JoinTable) : AssociationMapping :=
  { mapping with joinTable := some table }

def storedBy (mapping : AssociationMapping) (field : String) : AssociationMapping :=
  { mapping with isOwningSide := false, mappedBy := some field }

def isInverseSide (mapping : AssociationMapping) : Bool :=
  !mapping.isOwningSide || mapping.mappedBy.isSome

def storage (mapping : AssociationMapping) : StorageKind :=
  if mapping.isInverseSide then .inverse
  else if mapping.joinTable.isSome then .joinTable
  else .joinColumn

/-- The database can hold no related entity: always on the inverse side, and otherwise unless
some join column cannot be null. -/
def isNullable (mapping : AssociationMapping) : Bool :=
  mapping.isInverseSide || mapping.joinColumns.all JoinColumn.isNullable

end AssociationMapping

structure ClassMetadata where
  name : String
  identifier : List String := []
  associations : Dictionary AssociationMapping := []
  isMappedSuperclass : Bool := false
  isEmbeddedClass : Bool := false
  deriving DecidableEq, Repr

/-! ### Resolved associations -/

structure Association where
  property : String
  cardinality : Cardinality
  targetEntity : String
  isNullable : Bool
  identifierRole : IdentifierRole
  storage : StorageKind
  deriving DecidableEq, Repr

namespace Association

def ofMapping (mapping : AssociationMapping) (role : IdentifierRole) : Association where
  property := mapping.fieldName
  cardinality := mapping.kind.cardinality
  targetEntity := withoutLeadingSeparators mapping.targetEntity
  isNullable := mapping.isNullable
  identifierRole := role
  storage := mapping.storage

def isIdentifier (association : Association) : Bool := association.identifierRole != .none

def isToMany (association : Association) : Bool := association.cardinality == .toMany

end Association

namespace ClassMetadata

def withAssociation (metadata : ClassMetadata) (mapping : AssociationMapping) : ClassMetadata :=
  { metadata with
    associations := Dictionary.insert mapping.fieldName mapping metadata.associations }

/-- Mapped superclasses and embeddable classes have mappings but no entities of their own. -/
def isEntity (metadata : ClassMetadata) : Bool :=
  !metadata.isMappedSuperclass && !metadata.isEmbeddedClass

def identifierRole (metadata : ClassMetadata) (field : String) : IdentifierRole :=
  if !metadata.identifier.contains field then .none
  else if metadata.identifier.length = 1 then .sole
  else .composite

def hasAssociation (metadata : ClassMetadata) (field : String) : Bool :=
  (metadata.associations.get? field).isSome

/-- The association under a key; its part in the identifier is that of the key. -/
def association? (metadata : ClassMetadata) (field : String) : Option Association :=
  (metadata.associations.get? field).map
    (fun mapping => .ofMapping mapping (metadata.identifierRole field))

/-- All associations in order; the part of each in the identifier is that of its own field. -/
def resolvedAssociations (metadata : ClassMetadata) : List Association :=
  metadata.associations.values.map
    (fun mapping => .ofMapping mapping (metadata.identifierRole mapping.fieldName))

end ClassMetadata

end AssociationCheck
