/-
Associations one at a time and all at once.

An association is asked for by its key, and all of them are listed in the order of their keys. Its
part in the identifier is that of the key when it is asked for, and that of its own field in the
list; metadata that are decoded may name the field otherwise than the key. In all else the two
agree, as no key of decoded metadata comes twice.
-/

import AssociationCheck.Proofs.Mapping.Document

namespace AssociationCheck

namespace Dictionary

variable {α : Type}

theorem get?_of_mem {entries : Dictionary α} (distinct : (keys entries).Nodup) {key : String}
    {value : α} (inside : (key, value) ∈ entries) : get? entries key = some value := by
  induction entries with
  | nil => cases inside
  | cons entry others ih =>
      obtain ⟨first, old⟩ := entry
      rw [keys, List.map_cons, List.nodup_cons] at distinct
      rw [get?, List.lookup_cons]
      rcases List.mem_cons.mp inside with here | later
      · cases here
        rw [beq_self_eq_true]
      · have apart : key ≠ first := fun same =>
          distinct.1 (List.mem_map.mpr ⟨(key, value), later, same⟩)
        rw [beq_false_of_ne apart]
        exact ih distinct.2 later

end Dictionary

namespace ClassMetadata

open Json.Decode (decode_keeps exists_of_bind_ok keeps_field nodup_keys_map)

variable {metadata : ClassMetadata}

def Part.KeysApart (part : Part) : Prop :=
  ∀ read ∈ part.associations, (Dictionary.keys read).Nodup

theorem keysApart_kept : ∀ field ∈ form.fields, field.Keeps Part.KeysApart := by
  simp only [form, List.forall_mem_cons, List.not_mem_nil, false_implies, implies_true, and_true]
  refine ⟨?name, ?identifier, ?associations, ?superclass, ?embedded⟩
  case associations =>
    refine keeps_field (fun draft associations part decoded before read isRead => ?_)
    cases isRead
    exact nodup_keys_map decoded
  all_goals exact keeps_field (fun _ _ _ _ before => before)

theorem nodup_keys_of_decode {draft : Json.Draft} (decoded : decode draft = .ok metadata) :
    (Dictionary.keys metadata.associations).Nodup := by
  obtain ⟨part, read, finished⟩ := exists_of_bind_ok decoded
  cases finished
  have apart : part.KeysApart := decode_keeps keysApart_kept (by simp [Part.KeysApart]) read
  cases found : part.associations with
  | none => exact .nil
  | some associations => exact apart associations found

/-- Two fields have the same part in the identifier exactly if it holds both or neither. -/
theorem identifierRole_eq_iff (first second : String) :
    metadata.identifierRole first = metadata.identifierRole second ↔
      (first ∈ metadata.identifier ↔ second ∈ metadata.identifier) := by
  by_cases inFirst : first ∈ metadata.identifier <;>
    by_cases inSecond : second ∈ metadata.identifier <;>
      simp [identifierRole, inFirst, inSecond]
  all_goals split <;> simp

/-- The list holds what is found under each key, in the order of the keys, but with the part of the
field of its own name in the identifier. So the two agree on decoded metadata exactly if each key
and the name of the field under it are both in the identifier or both not. -/
theorem resolvedAssociations_of_decode {draft : Json.Draft}
    (decoded : decode draft = .ok metadata) :
    metadata.resolvedAssociations.map some =
      metadata.associations.map (fun (key, mapping) =>
        (metadata.association? key).map (fun association =>
          { association with identifierRole := metadata.identifierRole mapping.fieldName })) ∧
    (metadata.resolvedAssociations.map some =
        (Dictionary.keys metadata.associations).map metadata.association? ↔
      ∀ entry ∈ metadata.associations,
        (entry.1 ∈ metadata.identifier ↔ entry.2.fieldName ∈ metadata.identifier)) := by
  have found (entry) (inside : entry ∈ metadata.associations) :
      metadata.association? entry.1 =
        some (.ofMapping entry.2 (metadata.identifierRole entry.1)) := by
    rw [association?, Dictionary.get?_of_mem (nodup_keys_of_decode decoded) inside]
    rfl
  have listed : metadata.resolvedAssociations.map some =
      metadata.associations.map (fun entry =>
        some (.ofMapping entry.2 (metadata.identifierRole entry.2.fieldName))) := by
    rw [resolvedAssociations, Dictionary.values, List.map_map, List.map_map]
    rfl
  refine ⟨?_, ?_⟩
  · rw [listed]
    refine List.map_congr_left (fun entry inside => ?_)
    dsimp only
    rw [found entry inside]
    rfl
  · rw [listed, Dictionary.keys, List.map_map, List.map_inj_left]
    refine forall₂_congr (fun entry inside => ?_)
    dsimp only [Function.comp_apply]
    rw [found entry inside, ← identifierRole_eq_iff]
    constructor
    · intro same
      exact (congrArg Association.identifierRole (Option.some.inj same)).symm
    · intro same
      rw [same]

/-- The identifier holds both the key and the field of the first association, and neither of the
second. -/
def visaMetadata : ClassMetadata where
  name := "Travel\\Visa"
  identifier := ["holder", "state"]
  associations :=
    [ ("holder", { fieldName := "state", kind := .manyToOne, targetEntity := "\\Travel\\Person" }),
      ("stamps", { fieldName := "entries", kind := .oneToMany, targetEntity := "Travel\\Stamp" }) ]

theorem resolvedAssociations_visa :
    decode (.ofJson visaMetadata.encode) = .ok visaMetadata ∧
      visaMetadata.resolvedAssociations.map some =
        (Dictionary.keys visaMetadata.associations).map visaMetadata.association? := by
  have decoded : decode (.ofJson visaMetadata.encode) = .ok visaMetadata :=
    (visaMetadata.restores (by decide)).decoded
  exact ⟨decoded, (resolvedAssociations_of_decode decoded).2.mpr (by decide)⟩

/-- Its identifier is the key of an association, which names its field otherwise. -/
def profileMetadata : ClassMetadata where
  name := "App\\Profile"
  identifier := ["owner"]
  associations :=
    [("owner", { fieldName := "user", kind := .oneToOne, targetEntity := "App\\User" })]

theorem not_resolvedAssociations_by_key :
    ¬ ∀ (draft : Json.Draft) (metadata : ClassMetadata), decode draft = .ok metadata →
      metadata.resolvedAssociations.map some =
        (Dictionary.keys metadata.associations).map metadata.association? := by
  intro always
  have wrong := always _ _ (profileMetadata.restores (by decide)).decoded
  revert wrong
  decide

end ClassMetadata

end AssociationCheck
