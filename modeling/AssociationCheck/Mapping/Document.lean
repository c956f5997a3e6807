/-
Mapping metadata as JSON.

Every field has one name in the text. Writing gives all of them in a fixed order, with null for
what is absent; reading needs only those without a usual value and ignores fields it does not
know.
-/

import AssociationCheck.Json.Decode
import AssociationCheck.Mapping.Basic

namespace AssociationCheck

open Json (Decoder)
open Json.Decode (field)

/-! ### Kinds -/

namespace AssociationKind

def word : AssociationKind → String
  | oneToOne => "OneToOne"
  | manyToOne => "ManyToOne"
  | oneToMany => "OneToMany"
  | manyToMany => "ManyToMany"

def all : List AssociationKind := [oneToOne, manyToOne, oneToMany, manyToMany]

def decode : Decoder AssociationKind :=
  Json.Decode.variant (all.map (fun kind => (kind.word, kind)))

end AssociationKind

/-! ### Join columns and tables -/

namespace JoinColumn

structure Part where
  name : Option String := none
  referencedColumnName : Option (Option String) := none
  nullable : Option (Option Bool) := none

def form : Json.Decode.RecordForm Part where
  label := "struct JoinColumn"
  fields :=
    [ field "name" false Json.Decode.string Part.name
        (fun value part => { part with name := some value }),
      field "referencedColumnName" false (Json.Decode.optional Json.Decode.string)
        Part.referencedColumnName
        (fun value part => { part with referencedColumnName := some value }),
      field "nullable" false (Json.Decode.optional Json.Decode.bool) Part.nullable
        (fun value part => { part with nullable := some value }) ]

def decode : Decoder JoinColumn := fun draft => do
  let part ← form.decode {} draft
  pure
    { name := part.name.getD ""
      referencedColumnName := part.referencedColumnName.getD none
      nullable := part.nullable.getD none }

def encode (column : JoinColumn) : Json :=
  .object
    [ ("name", .string column.name),
      ("referencedColumnName", .ofString? column.referencedColumnName),
      ("nullable",
        match column.nullable with
        | some value => .bool value
        | none => .null) ]

end JoinColumn

namespace JoinTable

structure Part where
  name : Option String := none
  joinColumns : Option (List JoinColumn) := none
  inverseJoinColumns : Option (List JoinColumn) := none

def form : Json.Decode.RecordForm Part where
  label := "struct JoinTable"
  fields :=
    [ field "name" true Json.Decode.string Part.name
        (fun value part => { part with name := some value }),
      field "joinColumns" false (Json.Decode.list JoinColumn.decode) Part.joinColumns
        (fun value part => { part with joinColumns := some value }),
      field "inverseJoinColumns" false (Json.Decode.list JoinColumn.decode)
        Part.inverseJoinColumns
        (fun value part => { part with inverseJoinColumns := some value }) ]

def decode : Decoder JoinTable := fun draft => do
  let part ← form.decode {} draft
  pure
    { name := part.name.getD ""
      joinColumns := part.joinColumns.getD []
      inverseJoinColumns := part.inverseJoinColumns.getD [] }

def encode (table : JoinTable) : Json :=
  .object
    [ ("name", .string table.name),
      ("joinColumns", .array (table.joinColumns.map JoinColumn.encode)),
      ("inverseJoinColumns", .array (table.inverseJoinColumns.map JoinColumn.encode)) ]

end JoinTable

/-! ### Associations -/

namespace AssociationMapping

structure Part where
  fieldName : Option String := none
  kind : Option AssociationKind := none
  targetEntity : Option String := none
  isOwningSide : Option Bool := none
  joinColumns : Option (List JoinColumn) := none
  joinTable : Option (Option JoinTable) := none
  mappedBy : Option (Option String) := none
  inversedBy : Option (Option String) := none

def form : Json.Decode.RecordForm Part where
  label := "struct RawAssociationMapping"
  fields :=
    [ field "fieldName" true Json.Decode.string Part.fieldName
        (fun value part => { part with fieldName := some value }),
      field "type" true AssociationKind.decode Part.kind
        (fun value part => { part with kind := some value }),
      field "targetEntity" true Json.Decode.string Part.targetEntity
        (fun value part => { part with targetEntity := some value }),
      field "isOwningSide" false Json.Decode.bool Part.isOwningSide
        (fun value part => { part with isOwningSide := some value }),
      field "joinColumns" false (Json.Decode.list JoinColumn.decode) Part.joinColumns
        (fun value part => { part with joinColumns := some value }),
      field "joinTable" false (Json.Decode.optional JoinTable.decode) Part.joinTable
        (fun value part => { part with joinTable := some value }),
      field "mappedBy" false (Json.Decode.optional Json.Decode.string) Part.mappedBy
        (fun value part => { part with mappedBy := some value }),
      field "inversedBy" false (Json.Decode.optional Json.Decode.string) Part.inversedBy
        (fun value part => { part with inversedBy := some value }) ]

def decode : Decoder AssociationMapping := fun draft => do
  let part ← form.decode {} draft
  pure
    { fieldName := part.fieldName.getD ""
      kind := part.kind.getD .oneToOne
      targetEntity := part.targetEntity.getD ""
      isOwningSide := part.isOwningSide.getD true
      joinColumns := part.joinColumns.getD []
      joinTable := part.joinTable.getD none
      mappedBy := part.mappedBy.getD none
      inversedBy := part.inversedBy.getD none }

def encode (mapping : AssociationMapping) : Json :=
  .object
    [ ("fieldName", .string mapping.fieldName),
      ("type", .string mapping.kind.word),
      ("targetEntity", .string mapping.targetEntity),
      ("isOwningSide", .bool mapping.isOwningSide),
      ("joinColumns", .array (mapping.joinColumns.map JoinColumn.encode)),
      ("joinTable",
        match mapping.joinTable with
        | some table => table.encode
        | none => .null),
      ("mappedBy", .ofString? mapping.mappedBy),
      ("inversedBy", .ofString? mapping.inversedBy) ]

end AssociationMapping

/-! ### Classes -/

namespace ClassMetadata

structure Part where
  name : Option String := none
  identifier : Option (List String) := none
  associations : Option (Dictionary AssociationMapping) := none
  isMappedSuperclass : Option Bool := none
  isEmbeddedClass : Option Bool := none

def form : Json.Decode.RecordForm Part where
  label := "struct ClassMetadata"
  fields :=
    [ field "name" true Json.Decode.string Part.name
        (fun value part => { part with name := some value }),
      field "identifier" false (Json.Decode.list Json.Decode.string) Part.identifier
        (fun value part => { part with identifier := some value }),
      field "associationMappings" false (Json.Decode.map AssociationMapping.decode)
        Part.associations
        (fun value part => { part with associations := some value }),
      field "isMappedSuperclass" false Json.Decode.bool Part.isMappedSuperclass
        (fun value part => { part with isMappedSuperclass := some value }),
      field "isEmbeddedClass" false Json.Decode.bool Part.isEmbeddedClass
        (fun value part => { part with isEmbeddedClass := some value }) ]

def decode : Decoder ClassMetadata := fun draft => do
  let part ← form.decode {} draft
  pure
    { name := part.name.getD ""
      identifier := part.identifier.getD []
      associations := part.associations.getD []
      isMappedSuperclass := part.isMappedSuperclass.getD false
      isEmbeddedClass := part.isEmbeddedClass.getD false }

def encode (metadata : ClassMetadata) : Json :=
  .object
    [ ("name", .string metadata.name),
      ("identifier", .strings metadata.identifier),
      ("associationMappings",
        .object
          (metadata.associations.map (fun (key, mapping) => (key, mapping.encode)))),
      ("isMappedSuperclass", .bool metadata.isMappedSuperclass),
      ("isEmbeddedClass", .bool metadata.isEmbeddedClass) ]

end ClassMetadata

end AssociationCheck
