/-
Texts of types.

The types that association checks put together have short texts.
-/

import AssociationCheck.Proofs.Types.WellFormed
import AssociationCheck.Types.Text

namespace AssociationCheck.TypeStore

variable {store : TypeStore} {id member : TypeId} {name : String}

theorem textWithin_class (levels : Nat) (found : store.lookup id = some (.object name [])) :
    store.textWithin (levels + 1) id = name := by
  simp [textWithin, found]

theorem not_isComposite_class {arguments : List TypeId}
    (found : store.lookup id = some (.object name arguments)) : store.isComposite id = false := by
  simp [isComposite, found, Shape.members?]

theorem textWithin_orNull (standard : initial.GrowsTo store) (levels : Nat)
    (found : store.lookup id = some (.union [member, .null]))
    (memberFound : store.lookup member = some (.object name [])) :
    store.textWithin (levels + 2) id = name ++ "|null" := by
  have nullFound : store.lookup .null = some (.scalar .null) := lookup_scalar standard .null
  have nullText : store.textWithin (levels + 1) .null = "null" := by
    simp [textWithin, nullFound, Scalar.keyword]
  have nullWhole : store.isComposite .null = false := by
    simp [isComposite, nullFound, Shape.members?]
  rw [textWithin]
  simp [found, nullText, nullWhole, textWithin_class levels memberFound,
    not_isComposite_class memberFound, String.append_assoc]

theorem textWithin_collection (standard : initial.GrowsTo store) (levels : Nat)
    {collection items value : TypeId} {target : String}
    (found : store.lookup id = some (.intersection [collection, items]))
    (collectionFound : store.lookup collection = some (.object name []))
    (itemsFound : store.lookup items = some (.iterable .mixed value))
    (valueFound : store.lookup value = some (.object target [])) :
    store.textWithin (levels + 3) id = name ++ "&iterable<" ++ target ++ ">" := by
  have notTop : value ≠ .mixed :=
    ne_of_lookup valueFound (lookup_scalar standard .mixed) (by simp)
  have itemsText : store.textWithin (levels + 2) items = "iterable<" ++ target ++ ">" := by
    rw [textWithin]
    simp [itemsFound, notTop, textWithin_class levels valueFound, bracketed,
      ← String.append_assoc]
  have itemsWhole : store.isComposite items = false := by
    simp [isComposite, itemsFound, Shape.members?]
  have joined : "&iterable<" = "&" ++ "iterable<" := rfl
  rw [textWithin, joined]
  simp only [found, itemsText, itemsWhole, textWithin_class (levels + 1) collectionFound,
    not_isComposite_class collectionFound, List.map_cons, List.map_nil, Bool.false_eq_true,
    if_false, String.intercalate_cons_cons, String.intercalate_singleton, String.append_assoc]

end AssociationCheck.TypeStore
