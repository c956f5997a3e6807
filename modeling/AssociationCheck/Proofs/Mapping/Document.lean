/-
Metadata and snapshots read back from their texts.

Every record is written with all of its fields in the order of its form, and a form knows its
fields by distinct names. So a record is restored once the values of its fields are, from join
columns up to snapshots, and the order of associations and entities with it. A map needs distinct
keys for that: of a repeated key only the last value would be left.
-/

import AssociationCheck.Mapping.Snapshot
import AssociationCheck.Proofs.Json.Records

namespace AssociationCheck

open Json.Decode

theorem AssociationKind.restores (kind : AssociationKind) :
    Restores AssociationKind.decode (.string kind.word) kind where
  numberless := .string kind.word
  decoded := by cases kind <;> rfl

theorem JoinColumn.restores (column : JoinColumn) : Restores decode column.encode column := by
  obtain ⟨name, referencedColumnName, nullable⟩ := column
  have fills {written : Json} (flag : Restores (optional bool) written nullable) :
      Fills form.fields _ {} _ :=
    .field rfl (restores_string name)
      (.field rfl (restores_ofString? referencedColumnName) (.field rfl flag .nothing))
  cases nullable with
  | none => exact restores_record (by decide) (fills restores_none) rfl
  | some value =>
      exact restores_record (by decide) (fills (restores_some (restores_bool value) nofun)) rfl

theorem JoinColumn.restores_columns (columns : List JoinColumn) :
    Restores (list decode) (.array (columns.map encode)) columns :=
  restores_list (fun column _ => column.restores)

theorem JoinTable.restores (table : JoinTable) : Restores decode table.encode table := by
  have fills : Fills form.fields _ {} _ :=
    .field rfl (restores_string table.name)
      (.field rfl (JoinColumn.restores_columns table.joinColumns)
        (.field rfl (JoinColumn.restores_columns table.inverseJoinColumns) .nothing))
  exact restores_record (by decide) fills rfl

theorem AssociationMapping.restores (mapping : AssociationMapping) :
    Restores decode mapping.encode mapping := by
  obtain ⟨fieldName, kind, targetEntity, isOwningSide, joinColumns, joinTable, mappedBy,
    inversedBy⟩ := mapping
  have fills {written : Json} (table : Restores (optional JoinTable.decode) written joinTable) :
      Fills form.fields _ {} _ :=
    .field rfl (restores_string fieldName)
      (.field rfl kind.restores
        (.field rfl (restores_string targetEntity)
          (.field rfl (restores_bool isOwningSide)
            (.field rfl (JoinColumn.restores_columns joinColumns)
              (.field rfl table
                (.field rfl (restores_ofString? mappedBy)
                  (.field rfl (restores_ofString? inversedBy) .nothing)))))))
  cases joinTable with
  | none => exact restores_record (by decide) (fills restores_none) rfl
  | some table => exact restores_record (by decide) (fills (restores_some table.restores nofun)) rfl

theorem ClassMetadata.restores (metadata : ClassMetadata)
    (distinct : (Dictionary.keys metadata.associations).Nodup) :
    Restores decode metadata.encode metadata := by
  have identifier : Restores (list string) (.strings metadata.identifier) metadata.identifier :=
    restores_list (fun text _ => restores_string text)
  have associations := restores_map distinct (fun entry _ => entry.2.restores)
  have fills : Fills form.fields _ {} _ :=
    .field rfl (restores_string metadata.name)
      (.field rfl identifier
        (.field rfl associations
          (.field rfl (restores_bool metadata.isMappedSuperclass)
            (.field rfl (restores_bool metadata.isEmbeddedClass) .nothing))))
  exact restores_record (by decide) fills rfl

theorem Snapshot.restores (snapshot : Snapshot)
    (distinct : (Dictionary.keys snapshot.entities).Nodup)
    (associations : ∀ entry ∈ snapshot.entities, (Dictionary.keys entry.2.associations).Nodup) :
    Restores decode snapshot.encode snapshot := by
  have entities := restores_map distinct
    (fun entry inside => entry.2.restores (associations entry inside))
  have fills : Fills form.fields _ {} _ := .field rfl entities .nothing
  exact restores_record (by decide) fills rfl

/-- Metadata and snapshots are what is decoded from their texts, in the same order. -/
theorem decode_text_encode :
    (∀ metadata : ClassMetadata, (Dictionary.keys metadata.associations).Nodup →
      Json.Decode.text ClassMetadata.decode metadata.encode.compact = .ok metadata) ∧
    ∀ snapshot : Snapshot, (Dictionary.keys snapshot.entities).Nodup →
      (∀ entry ∈ snapshot.entities, (Dictionary.keys entry.2.associations).Nodup) →
      Json.Decode.text Snapshot.decode snapshot.encode.compact = .ok snapshot := by
  constructor
  · intro metadata distinct
    exact (metadata.restores distinct).text
  · intro snapshot distinct associations
    exact (snapshot.restores distinct associations).text

def shelfMetadata : ClassMetadata where
  name := "Archive\\Shelf \"é\"\n"
  identifier := ["room", "number"]
  associations :=
    [ ("room",
        { fieldName := "room", kind := .manyToOne, targetEntity := "\\Archive\\Room"
          joinColumns :=
            [ { name := "room_id", referencedColumnName := some "id", nullable := some false }, {} ]
          inversedBy := some "shelves" }),
      ("books",
        { fieldName := "books", kind := .oneToMany, targetEntity := "Book", isOwningSide := false
          mappedBy := some "" }),
      ("",
        { fieldName := "topics\t", kind := .manyToMany, targetEntity := "Topic"
          joinTable :=
            some { name := "shelf_topic", inverseJoinColumns := [{ name := "topic" }] } }) ]

def archiveSnapshot : Snapshot where
  entities :=
    [ (shelfMetadata.name, shelfMetadata),
      ("Archive\\Plan", { name := "Plan", isMappedSuperclass := true }) ]

theorem decode_text_encode_archive :
    (Dictionary.keys shelfMetadata.associations).Nodup ∧
      (Dictionary.keys archiveSnapshot.entities).Nodup ∧
      Json.Decode.text ClassMetadata.decode shelfMetadata.encode.compact = .ok shelfMetadata ∧
      Json.Decode.text Snapshot.decode archiveSnapshot.encode.compact = .ok archiveSnapshot := by
  have associations : (Dictionary.keys shelfMetadata.associations).Nodup := by decide
  have entities : (Dictionary.keys archiveSnapshot.entities).Nodup := by decide
  refine ⟨associations, entities, decode_text_encode.1 shelfMetadata associations,
    decode_text_encode.2 archiveSnapshot entities ?_⟩
  decide

end AssociationCheck
