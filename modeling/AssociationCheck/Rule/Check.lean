/-
The check of a class.

For every property with a declared type and an association, the expected type is compared with the
declared type in both directions: what the database can hold has to fit the property, and what the
property can hold has to fit the database. Only a definite yes passes.
-/

import AssociationCheck.Diagnostic
import AssociationCheck.Rule.Expected
import AssociationCheck.Subtype
import AssociationCheck.Types.Text

namespace AssociationCheck

structure DeclaredProperty where
  name : String
  declaredType : Option TypeId
  line : Nat
  deriving DecidableEq, Repr

structure EntityClass where
  name : String
  file : String
  properties : List DeclaredProperty
  deriving DecidableEq, Repr

namespace EntityClass

def of (name file : String) (properties : List DeclaredProperty) : EntityClass :=
  ⟨withoutLeadingSeparators name, file, properties⟩

end EntityClass

def databaseFits (store : TypeStore) (hierarchy : Hierarchy) (expected declared : TypeId) : Bool :=
  isSubtype store hierarchy expected declared

def propertyFits (store : TypeStore) (hierarchy : Hierarchy) (declared expected : TypeId) : Bool :=
  isSubtype store hierarchy declared expected

/-- The declared type as far as it has to fit the database: without null where null is tolerated
and not expected. -/
def declaredForProperty (options : CheckOptions) (expected declared : TypeId) :
    Building TypeId := do
  if options.allowNullable && !(← get).isNullable expected then TypeStore.removeNull declared
  else pure declared

/-- The diagnostics of one property, the direction from the database first. -/
def checkProperty (hierarchy : Hierarchy) (options : CheckOptions) (entity : EntityClass)
    (property : DeclaredProperty) (written : TypeId) (association : Association) :
    Building (List Diagnostic) := do
  let expected ← expectedType options association
  let declared ←
    if association.isToMany then normalizeCollection hierarchy options written else pure written
  let stored ← declaredForProperty options expected declared
  let store ← get
  let diagnostic (kind : DiagnosticKind) (contained expects : TypeId) : Diagnostic :=
    kind.diagnose entity.file property.line
      [entity.name, property.name, store.text contained, store.text expects]
  let fromDatabase :=
    if databaseFits store hierarchy expected declared then []
    else [diagnostic .databaseCanContain expected written]
  let fromProperty :=
    if propertyFits store hierarchy stored expected then []
    else [diagnostic .propertyCanContain written expected]
  pure (fromDatabase ++ fromProperty)

def checkProperties (hierarchy : Hierarchy) (options : CheckOptions) (metadata : ClassMetadata)
    (entity : EntityClass) : List DeclaredProperty → Building (List Diagnostic)
  | [] => pure []
  | property :: others => do
      let first ←
        match property.declaredType, metadata.association? property.name with
        | some declared, some association =>
            checkProperty hierarchy options entity property declared association
        | _, _ => pure []
      let rest ← checkProperties hierarchy options metadata entity others
      pure (first ++ rest)

/-- The diagnostics of a class; there are none without metadata. -/
def checkClass (hierarchy : Hierarchy) (options : CheckOptions) (metadata : Option ClassMetadata)
    (entity : EntityClass) : Building (List Diagnostic) :=
  match metadata with
  | some metadata => checkProperties hierarchy options metadata entity entity.properties
  | none => pure []

end AssociationCheck
