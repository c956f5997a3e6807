/-
Snapshots of an object manager.

A snapshot holds the metadata of every class that an object manager knows, under the name by which
it knows the class.
-/

import AssociationCheck.Mapping.Document

namespace AssociationCheck

structure Snapshot where
  entities : Dictionary ClassMetadata := []
  deriving DecidableEq, Repr

namespace Snapshot

/-- The metadata of a class: under exactly its name if there are any, and otherwise the first
under another spelling of it. -/
def get? (snapshot : Snapshot) (name : String) : Option ClassMetadata :=
  let complete := withoutLeadingSeparators name
  match snapshot.entities.get? complete with
  | some metadata => some metadata
  | none =>
      (snapshot.entities.find? (fun entry => sameClass entry.1 complete)).map Prod.snd

def size (snapshot : Snapshot) : Nat := snapshot.entities.length

/-! ### JSON -/

structure Part where
  entities : Option (Dictionary ClassMetadata) := none

def form : Json.Decode.RecordForm Part where
  label := "struct ObjectManagerSnapshot"
  fields :=
    [ Json.Decode.field "entities" false (Json.Decode.map ClassMetadata.decode) Part.entities
        (fun value part => { part with entities := some value }) ]

def decode : Json.Decoder Snapshot := fun draft => do
  let part ← form.decode {} draft
  pure ⟨part.entities.getD []⟩

def encode (snapshot : Snapshot) : Json :=
  .object
    [ ("entities",
        .object (snapshot.entities.map (fun (name, metadata) => (name, metadata.encode)))) ]

end Snapshot

end AssociationCheck
