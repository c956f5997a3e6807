/-
What is to be analysed.

An input lists classes with their declared properties and, possibly, the mapping of the class, and
entries of the class hierarchy. Inputs are read from JSON and put together in order.
-/

import AssociationCheck.Mapping.Document

namespace AssociationCheck

open Json.Decode (field)

structure InputProperty where
  name : String
  /-- The declared type as it is written. -/
  declaredType : Option String := none
  line : Nat := 0
  deriving DecidableEq, Repr

structure InputClass where
  name : String
  file : String := ""
  mapping : Option ClassMetadata := none
  properties : List InputProperty := []
  deriving DecidableEq, Repr

structure HierarchyEntry where
  name : String
  parents : List String := []
  isInterface : Bool := false
  isFinal : Bool := false
  deriving DecidableEq, Repr

structure AnalysisInput where
  classes : List InputClass := []
  hierarchy : List HierarchyEntry := []
  deriving DecidableEq, Repr

def AnalysisInput.append (first second : AnalysisInput) : AnalysisInput :=
  ⟨first.classes ++ second.classes, first.hierarchy ++ second.hierarchy⟩

/-! ### JSON -/

namespace InputProperty

structure Part where
  name : Option String := none
  declaredType : Option (Option String) := none
  line : Option Nat := none

def form : Json.Decode.RecordForm Part where
  label := "struct InputProperty"
  fields :=
    [ field "name" true Json.Decode.string Part.name
        (fun value part => { part with name := some value }),
      field "type" false (Json.Decode.optional Json.Decode.string) Part.declaredType
        (fun value part => { part with declaredType := some value }),
      field "line" false Json.Decode.natural32 Part.line
        (fun value part => { part with line := some value }) ]

def decode : Json.Decoder InputProperty := fun draft => do
  let part ← form.decode {} draft
  pure
    { name := part.name.getD ""
      declaredType := part.declaredType.getD none
      line := part.line.getD 0 }

end InputProperty

namespace InputClass

structure Part where
  name : Option String := none
  file : Option String := none
  mapping : Option (Option ClassMetadata) := none
  properties : Option (List InputProperty) := none

def form : Json.Decode.RecordForm Part where
  label := "struct InputClass"
  fields :=
    [ field "name" true Json.Decode.string Part.name
        (fun value part => { part with name := some value }),
      field "file" false Json.Decode.string Part.file
        (fun value part => { part with file := some value }),
      field "mapping" false (Json.Decode.optional ClassMetadata.decode) Part.mapping
        (fun value part => { part with mapping := some value }),
      field "properties" false (Json.Decode.list InputProperty.decode) Part.properties
        (fun value part => { part with properties := some value }) ]

def decode : Json.Decoder InputClass := fun draft => do
  let part ← form.decode {} draft
  pure
    { name := part.name.getD ""
      file := part.file.getD ""
      mapping := part.mapping.getD none
      properties := part.properties.getD [] }

end InputClass

namespace HierarchyEntry

structure Part where
  name : Option String := none
  parents : Option (List String) := none
  isInterface : Option Bool := none
  isFinal : Option Bool := none

def form : Json.Decode.RecordForm Part where
  label := "struct HierarchyEntry"
  fields :=
    [ field "name" true Json.Decode.string Part.name
        (fun value part => { part with name := some value }),
      field "parents" false (Json.Decode.list Json.Decode.string) Part.parents
        (fun value part => { part with parents := some value }),
      field "interface" false Json.Decode.bool Part.isInterface
        (fun value part => { part with isInterface := some value }),
      field "final" false Json.Decode.bool Part.isFinal
        (fun value part => { part with isFinal := some value }) ]

def decode : Json.Decoder HierarchyEntry := fun draft => do
  let part ← form.decode {} draft
  pure
    { name := part.name.getD ""
      parents := part.parents.getD []
      isInterface := part.isInterface.getD false
      isFinal := part.isFinal.getD false }

end HierarchyEntry

namespace AnalysisInput

structure Part where
  classes : Option (List InputClass) := none
  hierarchy : Option (List HierarchyEntry) := none

def form : Json.Decode.RecordForm Part where
  label := "struct AnalysisInput"
  fields :=
    [ field "classes" false (Json.Decode.list InputClass.decode) Part.classes
        (fun value part => { part with classes := some value }),
      field "hierarchy" false (Json.Decode.list HierarchyEntry.decode) Part.hierarchy
        (fun value part => { part with hierarchy := some value }) ]

def decode : Json.Decoder AnalysisInput := fun draft => do
  let part ← form.decode {} draft
  pure ⟨part.classes.getD [], part.hierarchy.getD []⟩

end AnalysisInput

end AssociationCheck
