/-
The law of properties to many.

The database holds a collection of the target for the property. Which forms of declared types take
that collection, and which hold nothing but such collections, is decided by the hierarchy. Null is
never in the database, so it only matters whether a declared null is tolerated.
-/

import AssociationCheck.Proofs.Rule.CollectionForms
import AssociationCheck.Proofs.Subtype.Collections
import AssociationCheck.Proofs.Types.Texts

namespace AssociationCheck

open Building TypeStore

/-! ### Laws -/

namespace CollectionForm

/-- The form takes every collection of the target, which may be no array. -/
def databaseLaw (hierarchy : Hierarchy) (interface target element : String) :
    CollectionForm → Bool
  | iterable _ => hierarchy.isSameOrDerived target element
  | array _ => false
  | bare name => hierarchy.isSameOrDerived interface name
  | generic name _ =>
      hierarchy.isSameOrDerived name interface &&
        (hierarchy.isSameOrDerived interface name && hierarchy.isSameOrDerived target element)
  | meet name _ =>
      hierarchy.isSameOrDerived interface name && hierarchy.isSameOrDerived target element

/-- The form has nothing but collections of the target. -/
def propertyLaw (hierarchy : Hierarchy) (interface target element : String) :
    CollectionForm → Bool
  | iterable _ => false
  | array _ => false
  | bare _ => false
  | generic name _ =>
      hierarchy.isSameOrDerived name interface && hierarchy.isSameOrDerived element target
  | meet name _ =>
      hierarchy.isSameOrDerived name interface && hierarchy.isSameOrDerived element target

variable {hierarchy : Hierarchy} {store : TypeStore} {interface target elementName : String}
  {expected id value element : TypeId} {form : CollectionForm}

@[simp] theorem databaseLaw_interface :
    form.databaseLaw hierarchy (withoutLeadingSeparators interface) target elementName =
      form.databaseLaw hierarchy interface target elementName := by
  cases form <;> simp [databaseLaw]

@[simp] theorem databaseLaw_target :
    form.databaseLaw hierarchy interface (withoutLeadingSeparators target) elementName =
      form.databaseLaw hierarchy interface target elementName := by
  cases form <;> simp [databaseLaw]

@[simp] theorem propertyLaw_interface :
    form.propertyLaw hierarchy (withoutLeadingSeparators interface) target elementName =
      form.propertyLaw hierarchy interface target elementName := by
  cases form <;> simp [propertyLaw]

@[simp] theorem propertyLaw_target :
    form.propertyLaw hierarchy interface (withoutLeadingSeparators target) elementName =
      form.propertyLaw hierarchy interface target elementName := by
  cases form <;> simp [propertyLaw]

theorem settles_fromDatabase (standard : initial.GrowsTo store)
    (meets : store.Meets interface .mixed value expected)
    (valueFound : store.lookup value = some (.object target []))
    (elementFound : store.lookup element = some (.object elementName []))
    (written : (form.normal hierarchy interface).Written store element id) :
    Subtype.Settles hierarchy store 4 expected id
      (form.databaseLaw hierarchy interface target elementName = true) := by
  cases form with
  | iterable key =>
      exact (Subtype.settles_meets_iterable hierarchy standard meets written valueFound
        elementFound).deeper (by decide)
  | array key =>
      simpa [databaseLaw] using (Subtype.meets_neverBelow_array standard meets written).settles
  | bare name =>
      exact (Subtype.settles_meets_class hierarchy standard meets written).deeper (by decide)
  | generic name leading =>
      rw [databaseLaw]
      cases derived : hierarchy.isSameOrDerived name interface with
      | true =>
          rw [normal, if_pos derived] at written
          simpa using Subtype.settles_meets hierarchy standard meets written valueFound elementFound
      | false =>
          -- The class keeps its arguments, of which the collection gives none.
          rw [normal, derived, if_neg Bool.false_ne_true] at written
          have apart : sameClass interface name = false := by
            rw [Bool.eq_false_iff]
            intro same
            rw [Hierarchy.isSameOrDerived_of_sameClass same] at derived
            cases derived
          simpa using (Subtype.meets_neverBelow_generic standard meets written (by simp)
            apart).settles
  | meet name key =>
      rw [databaseLaw]
      simpa using Subtype.settles_meets hierarchy standard meets written valueFound elementFound

theorem settles_fromProperty (standard : initial.GrowsTo store)
    (meets : store.Meets interface .mixed value expected)
    (valueFound : store.lookup value = some (.object target []))
    (elementFound : store.lookup element = some (.object elementName []))
    (written : (form.normal hierarchy interface).Written store element id) :
    Subtype.Settles hierarchy store 4 id expected
      (form.propertyLaw hierarchy interface target elementName = true) := by
  have collections := meets
  obtain ⟨instances, items, instancesFound, itemsFound, found⟩ := meets
  cases form with
  | iterable key =>
      have never : Subtype.NeverBelow hierarchy store id instances :=
        Subtype.iterable_neverBelow_class standard written instancesFound
      simpa [propertyLaw] using (Subtype.neverBelow_intersection standard written
        (Subtype.isAtomic_iterable _ _) found (Or.inl never)).settles
  | array key =>
      have never : Subtype.NeverBelow hierarchy store id instances :=
        Subtype.array_neverBelow_class standard written instancesFound
      simpa [propertyLaw] using (Subtype.neverBelow_intersection standard written
        (Subtype.isAtomic_array _ _) found (Or.inl never)).settles
  | bare name =>
      have never : Subtype.NeverBelow hierarchy store id items :=
        Subtype.class_neverBelow_iterable standard written itemsFound valueFound
      simpa [propertyLaw] using (Subtype.neverBelow_intersection standard written
        (Subtype.isAtomic_object _ _) found (Or.inr never)).settles
  | generic name leading =>
      rw [propertyLaw]
      cases derived : hierarchy.isSameOrDerived name interface with
      | true =>
          rw [normal, if_pos derived] at written
          have settles :=
            Subtype.settles_meets hierarchy standard written collections elementFound valueFound
          simpa [derived] using settles
      | false =>
          rw [normal, derived, if_neg Bool.false_ne_true] at written
          have never := Subtype.class_neverBelow_unrelated standard written instancesFound derived
          simpa using (Subtype.neverBelow_intersection standard written
            (Subtype.isAtomic_object _ _) found (Or.inl never)).settles
  | meet name key =>
      rw [propertyLaw]
      simpa using
        Subtype.settles_meets hierarchy standard written collections elementFound valueFound

end CollectionForm

/-! ### Findings -/

variable {hierarchy : Hierarchy} {options : CheckOptions} {store : TypeStore}

theorem seven_le_size (standard : initial.GrowsTo store) : 7 ≤ store.size :=
  size_le_of_growsTo standard

theorem comparedType_toMany (hierarchy : Hierarchy) (options : CheckOptions)
    (standard : initial.GrowsTo store) {association : Association}
    (toMany : association.isToMany = true) {form : CollectionForm}
    {element base declared : TypeId} {nullable : Bool}
    (formWritten : form.Written store element base)
    (written : store.OrNull nullable base declared) :
    Ensures (comparedType hierarchy options association declared) store (fun compared later =>
      store.GrowsTo later ∧ ∃ normalBase,
        (form.normal hierarchy options.collectionInterface).Written later element normalBase ∧
        later.OrNull nullable normalBase compared) := by
  obtain ⟨levels, enough⟩ : ∃ levels, store.size = levels + 3 :=
    ⟨store.size - 3, by have := seven_le_size standard; omega⟩
  rw [comparedType, toMany, if_pos rfl, normalizeCollection]
  apply ensures_get_bind
  rw [enough]
  exact normalizeWithin_orNull hierarchy options standard levels formWritten written

section Fits

variable {interface target elementName : String} {expected id base value element : TypeId}
  {form : CollectionForm} {nullable : Bool}

/-- Null in the declared type does not help a collection to fit. -/
theorem databaseFits_form (standard : initial.GrowsTo store)
    (meets : store.Meets interface .mixed value expected)
    (valueFound : store.lookup value = some (.object target []))
    (elementFound : store.lookup element = some (.object elementName []))
    (formWritten : (form.normal hierarchy interface).Written store element base)
    (written : store.OrNull nullable base id) :
    databaseFits store hierarchy expected id =
      form.databaseLaw hierarchy interface target elementName := by
  have settles := CollectionForm.settles_fromDatabase standard meets valueFound elementFound
    formWritten
  have noNull : Subtype.NeverBelow hierarchy store expected .null :=
    Subtype.meets_neverBelow_null standard meets
  obtain ⟨instances, items, _, _, found⟩ := meets
  have fits := (settles.orNull_target standard found rfl noNull written).isSubtype_eq (by decide)
  simpa [databaseFits] using fits

/-- Null in the declared type does not fit. -/
theorem propertyFits_form (standard : initial.GrowsTo store)
    (meets : store.Meets interface .mixed value expected)
    (valueFound : store.lookup value = some (.object target []))
    (elementFound : store.lookup element = some (.object elementName []))
    (formWritten : (form.normal hierarchy interface).Written store element base)
    (written : store.OrNull nullable base id) :
    propertyFits store hierarchy id expected =
      (form.propertyLaw hierarchy interface target elementName && !nullable) := by
  have settles := CollectionForm.settles_fromProperty standard meets valueFound elementFound
    formWritten
  have noNull : Subtype.NeverBelow hierarchy store .null expected :=
    Subtype.null_neverBelow_meets standard meets
  obtain ⟨instances, items, _, _, found⟩ := meets
  have apart : id = expected → nullable = true →
      form.propertyLaw hierarchy interface target elementName = true ∧ False := by
    rintro rfl rfl
    have union : store.lookup id = some (.union [base, .null]) := written
    cases lookup_unique union found
  have fits := (settles.orNull_source noNull.settles standard found (by simp) written
    apart).isSubtype_eq (by decide)
  rw [propertyFits, fits]
  cases nullable <;> simp

end Fits

def collectionText (interface target : String) : String :=
  interface ++ "&iterable<" ++ target ++ ">"

theorem text_meets (standard : initial.GrowsTo store) {interface target : String}
    {value expected : TypeId} (meets : store.Meets interface .mixed value expected)
    (valueFound : store.lookup value = some (.object target [])) :
    store.text expected = collectionText interface target := by
  obtain ⟨instances, items, instancesFound, itemsFound, found⟩ := meets
  exact textWithin_collection standard 29 found instancesFound itemsFound valueFound

theorem checkProperty_toMany (hierarchy : Hierarchy) (options : CheckOptions)
    (entity : EntityClass) (property : DeclaredProperty) (standard : initial.GrowsTo store)
    {association : Association} (toMany : association.isToMany = true) {form : CollectionForm}
    {elementName : String} {element base declared : TypeId} {nullable : Bool}
    (elementFound : store.lookup element = some (.object elementName []))
    (formWritten : form.Written store element base)
    (written : store.OrNull nullable base declared) :
    let checked := (checkProperty hierarchy options entity property declared association).run store
    checked.1 =
      findings entity property
        (form.databaseLaw hierarchy options.collectionInterface association.targetEntity
          elementName)
        (form.propertyLaw hierarchy options.collectionInterface association.targetEntity
          elementName && (!nullable || options.allowNullable))
        (collectionText (withoutLeadingSeparators options.collectionInterface)
          (withoutLeadingSeparators association.targetEntity))
        (checked.2.text declared) := by
  obtain ⟨grows, target, targetFound, meets⟩ := expectedType_toMany options standard toMany
  simp only [checkProperty_run]
  generalize (expectedType options association).run store = expected at *
  obtain ⟨expected, middle⟩ := expected
  obtain ⟨further, normalBase, normalWritten, comparedWritten⟩ :=
    comparedType_toMany hierarchy options (standard.trans grows) toMany
      (formWritten.grow grows) (written.grow grows)
  generalize (comparedType hierarchy options association declared).run middle = compared at *
  obtain ⟨compared, later⟩ := compared
  have laterStandard : initial.GrowsTo later := (standard.trans grows).trans further
  have collection := meets.grow further
  obtain ⟨instances, items, _, _, expectedFound⟩ := meets.grow further
  obtain ⟨shape, normalFound, plain⟩ := normalWritten.plain
  have unexpected : later.OrNull false expected expected := rfl
  obtain ⟨stored, storedRun, storedWritten⟩ := declaredForProperty_orNull options laterStandard
    expectedFound rfl unexpected normalFound plain comparedWritten
  rw [← CollectionForm.normal_withoutLeadingSeparators] at normalWritten
  have valueFound := further targetFound
  have foundElement := further (grows elementFound)
  simp only [storedRun, text_meets laterStandard collection valueFound,
    databaseFits_form laterStandard collection valueFound foundElement normalWritten
      comparedWritten,
    propertyFits_form laterStandard collection valueFound foundElement normalWritten
      storedWritten,
    CollectionForm.databaseLaw_interface, CollectionForm.databaseLaw_target,
    CollectionForm.propertyLaw_interface, CollectionForm.propertyLaw_target]
  have tolerated : (!(nullable && (false || !options.allowNullable))) =
      (!nullable || options.allowNullable) := by
    cases nullable <;> simp
  rw [tolerated]

def clubHierarchy : Hierarchy :=
  (Hierarchy.empty.addParent "Bag" "Collection").addParent "Member" "User"

def clubOptions : CheckOptions := { collectionInterface := "\\Collection" }

def club : EntityClass := ⟨"Club", "Club.php", [⟨"users", some ⟨8⟩, 7⟩]⟩

def clubMetadata : ClassMetadata :=
  { name := "Club"
    associations := [("users",
      { fieldName := "users", kind := .oneToMany, targetEntity := "\\User"
        isOwningSide := false, mappedBy := some "club" })] }

/-- The shapes `Member` and `Bag<int, Member>`, numbered from 7. -/
def memberStore : TypeStore :=
  ⟨(initial.shapes.push (.object "Member" [])).push (.object "Bag" [.int, ⟨7⟩])⟩

end AssociationCheck
