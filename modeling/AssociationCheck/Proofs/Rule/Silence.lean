/-
What silence of the check means.

Where the check of a class has nothing to say of one direction of a property, the values of the one
side are values of the other. The declared type of a property to many counts in normal form, which
has all its values; a null that is tolerated does not count.
-/

import AssociationCheck.Proofs.Rule.Findings
import AssociationCheck.Proofs.Rule.Loosening

namespace AssociationCheck

open Building TypeStore

variable {hierarchy : Hierarchy} {options : CheckOptions} {store later : TypeStore}
  {association : Association} {declared : TypeId} {value : Value}

/-! ### The compared type -/

/-- The values of a declared type as far as it is compared: those of its normal form to many. -/
def Association.Compares (hierarchy : Hierarchy) (options : CheckOptions)
    (association : Association) (store : TypeStore) (declared : TypeId) (value : Value) : Prop :=
  if association.isToMany then store.Loosened hierarchy options store.size declared value
  else store.Holds hierarchy declared value

theorem Association.compares_later_iff (formed : store.WellFormed) (grows : store.GrowsTo later)
    (known : store.Contains declared) :
    association.Compares hierarchy options later declared value ↔
      association.Compares hierarchy options store declared value := by
  unfold Association.Compares
  split
  · rw [formed.loosened_later_iff grows later.size known]
    exact formed.loosened_levels_iff (grows.contains known) known
  · exact formed.holds_later_iff grows known

theorem Association.compares_of_holds (held : store.Holds hierarchy declared value)
    (iterates : hierarchy.Reaches (.of options.collectionInterface) (.of Hierarchy.traversable)) :
    association.Compares hierarchy options store declared value := by
  unfold Association.Compares
  split
  · exact held.loosened iterates store.size
  · exact held

theorem comparedType_denotes (hierarchy : Hierarchy) (options : CheckOptions)
    (association : Association) (formed : store.WellFormed) (known : store.Contains declared) :
    Ensures (comparedType hierarchy options association declared) store (fun compared later =>
      store.ExtendsTo later ∧ later.Contains compared ∧ ∀ value,
        later.Holds hierarchy compared value ↔
          association.Compares hierarchy options store declared value) := by
  unfold comparedType Association.Compares
  cases association.isToMany with
  | false =>
      simp only [Bool.false_eq_true, if_false]
      exact ensures_pure ⟨formed.extendsTo_refl, known, fun _ => Iff.rfl⟩
  | true =>
      simp only [if_true]
      exact ensures_get_bind (normalizeWithin_denotes hierarchy options store.size formed known)

/-! ### The declared type without a tolerated null -/

theorem removeNull_keeps (formed : store.WellFormed) {id : TypeId} :
    Ensures (removeNull id) store (fun result later => ∀ value, value ≠ .null →
      store.Holds hierarchy id value → later.Holds hierarchy result value) := by
  unfold removeNull
  split
  · rename_i isNull
    intro value notNull held
    rw [isNull] at held
    exact absurd ((holds_null_iff formed.standard).mp held) notNull
  · apply ensures_get_bind
    split
    · rename_i members found
      have known (member : TypeId) (present : member ∈ members.filter (fun id => id != .null)) :
          store.Contains member :=
        formed.contains_part found (List.mem_filter.mp present).1
      apply (union_denotes formed known).weaken
      intro result later denotes value notNull held
      obtain ⟨member, present, inside⟩ := (holds_iff found).mp held
      refine (denotes value).mpr ⟨member, List.mem_filter.mpr ⟨present, ?_⟩, inside⟩
      refine bne_iff_ne.mpr (fun isNull => ?_)
      rw [isNull] at inside
      exact notNull ((holds_null_iff formed.standard).mp inside)
    · exact fun value _ held => held

theorem declaredForProperty_keeps (options : CheckOptions) (formed : store.WellFormed)
    (expected : TypeId) {compared : TypeId} :
    Ensures (declaredForProperty options expected compared) store (fun stored later =>
      ∀ value, store.Holds hierarchy compared value →
        (options.allowNullable = true → store.isNullable expected = false → value ≠ .null) →
        later.Holds hierarchy stored value) := by
  apply ensures_get_bind
  split
  · rename_i tolerated
    apply (removeNull_keeps formed).weaken
    intro stored later keeps value held notNull
    simp only [Bool.and_eq_true, Bool.not_eq_true'] at tolerated
    exact keeps value (notNull tolerated.1 tolerated.2) held
  · exact fun value held _ => held

/-! ### Well-formedness -/

theorem lookup_eq_none {id : TypeId} (unknown : ¬ store.Contains id) : store.lookup id = none :=
  Array.getElem?_eq_none (Nat.le_of_not_lt unknown)

theorem comparedType_extends (hierarchy : Hierarchy) (options : CheckOptions)
    (association : Association) (formed : store.WellFormed) (declared : TypeId) :
    Ensures (comparedType hierarchy options association declared) store
      (fun _ later => store.ExtendsTo later) := by
  by_cases known : store.Contains declared
  · exact (comparedType_denotes hierarchy options association formed known).1
  · unfold comparedType
    split
    · apply ensures_get_bind
      cases store.size with
      | zero => exact formed.extendsTo_refl
      | succ levels =>
          rw [normalizeWithin]
          apply ensures_get_bind
          rw [lookup_eq_none known]
          exact ensures_pure formed.extendsTo_refl
    · exact ensures_pure formed.extendsTo_refl

theorem declaredForProperty_extends (options : CheckOptions) (formed : store.WellFormed)
    (expected compared : TypeId) :
    Ensures (declaredForProperty options expected compared) store
      (fun _ later => store.ExtendsTo later) := by
  apply ensures_get_bind
  split
  · by_cases known : store.Contains compared
    · exact (removeNull_extends formed known).1
    · unfold removeNull
      split
      · exact ensures_pure formed.extendsTo_refl
      · apply ensures_get_bind
        rw [lookup_eq_none known]
        exact ensures_pure formed.extendsTo_refl
  · exact ensures_pure formed.extendsTo_refl

variable (hierarchy options) (metadata : ClassMetadata) (entity : EntityClass)

theorem checkProperty_extends (property : DeclaredProperty) (written : TypeId)
    (association : Association) (formed : store.WellFormed) :
    store.ExtendsTo
      ((checkProperty hierarchy options entity property written association).run store).2 := by
  rw [checkProperty_run]
  have expected := (expectedType_extends options formed association).1
  have compared :=
    comparedType_extends hierarchy options association expected.wellFormed written
  have stored := declaredForProperty_extends options compared.wellFormed
    ((expectedType options association).run store).1
    ((comparedType hierarchy options association written).run
      ((expectedType options association).run store).2).1
  exact (expected.trans compared).trans stored

theorem checkProperties_extends (properties : List DeclaredProperty) (formed : store.WellFormed) :
    store.ExtendsTo
      ((checkProperties hierarchy options metadata entity properties).run store).2 := by
  induction properties generalizing store with
  | nil => exact formed.extendsTo_refl
  | cons property others ih =>
      rw [checkProperties_cons]
      have first : store.ExtendsTo
          ((checkMapped hierarchy options metadata entity property).run store).2 := by
        unfold checkMapped
        split
        · exact checkProperty_extends hierarchy options entity property _ _ formed
        · exact formed.extendsTo_refl
      exact first.trans (ih first.wellFormed)

/-! ### One property -/

/-- Where the property fits the database, its values are expected ones; where the database fits
the property, expected values are values of the compared type. -/
theorem checkProperty_sound {declared : TypeId} (formed : store.WellFormed)
    (known : store.Contains declared) (association : Association)
    (iterates : hierarchy.Reaches (.of options.collectionInterface) (.of Hierarchy.traversable)) :
    let expected := (expectedType options association).run store
    let compared := (comparedType hierarchy options association declared).run expected.2
    let stored := (declaredForProperty options expected.1 compared.1).run compared.2
    (propertyFits stored.2 hierarchy stored.1 expected.1 = true →
      ∀ value, store.Holds hierarchy declared value →
        (options.allowNullable = true → association.expectsNull = false → value ≠ .null) →
        association.Expects hierarchy options value) ∧
    (databaseFits stored.2 hierarchy expected.1 compared.1 = true →
      ∀ value, association.Expects hierarchy options value →
        association.Compares hierarchy options store declared value) := by
  intro expected compared stored
  have first : store.ExtendsTo expected.2 := (expectedType_extends options formed association).1
  have shaped : association.ExpectedAs options expected.2 expected.1 :=
    (expectedType_ensures options formed.standard association).2
  obtain ⟨second, comparedKnown, denotes⟩ : expected.2.ExtendsTo compared.2 ∧
      compared.2.Contains compared.1 ∧ ∀ value, compared.2.Holds hierarchy compared.1 value ↔
        association.Compares hierarchy options expected.2 declared value :=
    comparedType_denotes hierarchy options association first.wellFormed (first.contains known)
  have third : compared.2.ExtendsTo stored.2 :=
    declaredForProperty_extends options second.wellFormed expected.1 compared.1
  have atEnd : association.ExpectedAs options stored.2 expected.1 :=
    shaped.grow (second.grows.trans third.grows)
  have standard := third.wellFormed.standard
  constructor
  · intro fits value held notNull
    have nullable : compared.2.isNullable expected.1 = association.expectsNull :=
      (shaped.grow second.grows).isNullable second.wellFormed.standard
    have keeps : compared.2.Holds hierarchy compared.1 value →
        (options.allowNullable = true → compared.2.isNullable expected.1 = false →
          value ≠ .null) → stored.2.Holds hierarchy stored.1 value :=
      declaredForProperty_keeps options second.wellFormed expected.1 value
    -- Every stage of the check keeps a value that is not a tolerated null.
    have inCompared : compared.2.Holds hierarchy compared.1 value :=
      (denotes value).mpr ((Association.compares_later_iff formed first.grows known).mpr
        (Association.compares_of_holds held iterates))
    have inStored := keeps inCompared (fun allowed => nullable ▸ notNull allowed)
    have inExpected := Subtype.contained_of_isSubtype standard (atEnd.comparable standard).2 fits
      value inStored
    exact (atEnd.holds_iff standard).mp inExpected
  · intro fits value expects
    have inExpected := (atEnd.holds_iff standard).mpr expects
    have inDeclared := Subtype.contained_of_isSubtype standard (atEnd.comparable standard).1 fits
      value inExpected
    have inCompared : compared.2.Holds hierarchy compared.1 value :=
      inDeclared.shrink second.wellFormed third.grows comparedKnown
    exact (Association.compares_later_iff formed first.grows known).mp
      ((denotes value).mp inCompared)

/-! ### Silence -/

def Silent (kind : DiagnosticKind) (entity : EntityClass) (property : DeclaredProperty)
    (diagnostics : List Diagnostic) : Prop :=
  ∀ contained expects, kind.about entity property contained expects ∉ diagnostics

section Silence

variable {entity : EntityClass} {property : DeclaredProperty} {diagnostics : List Diagnostic}
  {fromDatabase fromProperty : Bool} {expectedText declaredText : String}

theorem fromDatabase_of_silent
    (silent : Silent .databaseCanContain entity property diagnostics)
    (found : ∀ diagnostic ∈ findings entity property fromDatabase fromProperty expectedText
      declaredText, diagnostic ∈ diagnostics) : fromDatabase = true := by
  cases fromDatabase with
  | true => rfl
  | false => exact absurd (found _ (by simp [findings])) (silent expectedText declaredText)

theorem fromProperty_of_silent
    (silent : Silent .propertyCanContain entity property diagnostics)
    (found : ∀ diagnostic ∈ findings entity property fromDatabase fromProperty expectedText
      declaredText, diagnostic ∈ diagnostics) : fromProperty = true := by
  cases fromProperty with
  | true => rfl
  | false => exact absurd (found _ (by simp [findings])) (silent declaredText expectedText)

end Silence

/-- Where the check of a class finds nothing that the property can contain and the database cannot,
every value of the declared type is one of the expected type, null excepted where it is tolerated
and not expected. Where it finds nothing that the database can contain and the property cannot,
every value of the expected type is one of the declared type to one, and of its normal form to
many. -/
theorem contained_of_silent (hierarchy : Hierarchy) (options : CheckOptions)
    (metadata : ClassMetadata) (entity : EntityClass) {store : TypeStore}
    (formed : store.WellFormed)
    (iterates : hierarchy.Reaches (.of options.collectionInterface) (.of Hierarchy.traversable))
    {property : DeclaredProperty} (listed : property ∈ entity.properties)
    {association : Association}
    (mapped : metadata.association? property.name = some association)
    {declared : TypeId} (typed : property.declaredType = some declared)
    (known : store.Contains declared) :
    let diagnostics := ((checkClass hierarchy options (some metadata) entity).run store).1
    let expected := (expectedType options association).run store
    let normal := (normalizeCollection hierarchy options declared).run store
    (Silent .propertyCanContain entity property diagnostics →
      ∀ value, store.Holds hierarchy declared value →
        (options.allowNullable = true → expected.2.isNullable expected.1 = false →
          value ≠ .null) →
        expected.2.Holds hierarchy expected.1 value) ∧
    (Silent .databaseCanContain entity property diagnostics →
      ∀ value, expected.2.Holds hierarchy expected.1 value →
        (association.isToMany = false → store.Holds hierarchy declared value) ∧
        (association.isToMany = true → normal.2.Holds hierarchy normal.1 value)) := by
  intro diagnostics expected normal
  obtain ⟨before, after, split⟩ := List.append_of_mem listed
  let front := (checkProperties hierarchy options metadata entity before).run store
  have extended : store.ExtendsTo front.2 :=
    checkProperties_extends hierarchy options metadata entity before formed
  have ofProperty : ∀ diagnostic ∈ ((checkProperty hierarchy options entity property declared
      association).run front.2).1, diagnostic ∈ diagnostics := fun _ present =>
    mem_checkClass_of_mem hierarchy options metadata entity property typed mapped split present
  rw [checkProperty_run] at ofProperty
  have shaped : association.ExpectedAs options expected.2 expected.1 :=
    (expectedType_ensures options formed.standard association).2
  have standard : initial.GrowsTo expected.2 :=
    (expectedType_extends options formed association).1.wellFormed.standard
  obtain ⟨soundProperty, soundDatabase⟩ := checkProperty_sound hierarchy options
    extended.wellFormed (extended.contains known) association iterates
  constructor
  · intro silent value held notNull
    rw [shaped.isNullable standard] at notNull
    exact (shaped.holds_iff standard).mpr (soundProperty
      (fromProperty_of_silent silent ofProperty) value (held.grow extended.grows) notNull)
  · intro silent value held
    have compares := (Association.compares_later_iff formed extended.grows known).mp
      (soundDatabase (fromDatabase_of_silent silent ofProperty) value
        ((shaped.holds_iff standard).mp held))
    unfold Association.Compares at compares
    constructor
    · intro toOne
      simpa [toOne] using compares
    · intro toMany
      have denotes : normal.2.Holds hierarchy normal.1 value ↔
          store.Loosened hierarchy options store.size declared value :=
        (normalizeWithin_denotes hierarchy options store.size formed known).2.2 value
      exact denotes.mpr (by simpa [toMany] using compares)

def teamHierarchy : Hierarchy :=
  (Hierarchy.empty.addParent "Collection" Hierarchy.traversable).addParent "Captain" "Player"

def teamOptions : CheckOptions := { allowNullable := true, collectionInterface := "Collection" }

def team : EntityClass := ⟨"Team", "Team.php", [⟨"players", some ⟨9⟩, 5⟩]⟩

def teamMapping : AssociationMapping :=
  { fieldName := "players", kind := .manyToMany, targetEntity := "Player" }

def teamMetadata : ClassMetadata := { name := "Team", associations := [("players", teamMapping)] }

/-- The shapes `Player`, `Collection<int, Player>` and the latter with null, numbered from 7. -/
def playerStore : TypeStore :=
  ⟨((initial.shapes.push (.object "Player" [])).push (.object "Collection" [.int, ⟨7⟩])).push
    (.union [⟨8⟩, .null])⟩

def captains : Value := .object "Collection" [(.int 0, .object "Captain" [])]

theorem contained_of_silent_team :
    playerStore.WellFormed ∧ playerStore.Contains ⟨9⟩ ∧
      ((checkClass teamHierarchy teamOptions (some teamMetadata) team).run playerStore).1 = [] ∧
      playerStore.Holds teamHierarchy ⟨9⟩ captains ∧
      (let expected := (expectedType teamOptions (.ofMapping teamMapping .none)).run playerStore
        let normal := (normalizeCollection teamHierarchy teamOptions ⟨9⟩).run playerStore
        expected.2.Holds teamHierarchy expected.1 captains ∧
          normal.2.Holds teamHierarchy normal.1 captains) := by
  have formed : playerStore.WellFormed :=
    ((wellFormed_initial.push (by simp [Shape.parts])).push (by
      simp [Shape.parts, Contains, size, initial, TypeId.int])).push (by
        simp [Shape.parts, Contains, size, initial, TypeId.null])
  have iterates : teamHierarchy.Reaches (.of "Collection") (.of Hierarchy.traversable) :=
    Hierarchy.reaches_of_isSameOrDerived (by decide)
  have quiet : ((checkClass teamHierarchy teamOptions (some teamMetadata) team).run
      playerStore).1 = [] := by decide +kernel
  have known : playerStore.Contains ⟨9⟩ := by
    unfold Contains
    decide
  obtain ⟨soundProperty, soundDatabase⟩ := contained_of_silent teamHierarchy teamOptions
    teamMetadata team formed iterates List.mem_cons_self rfl rfl known
  have silent (kind : DiagnosticKind) : Silent kind team ⟨"players", some ⟨9⟩, 5⟩
      ((checkClass teamHierarchy teamOptions (some teamMetadata) team).run playerStore).1 := by
    rw [quiet]
    exact fun _ _ => List.not_mem_nil
  have held : playerStore.Holds teamHierarchy ⟨9⟩ captains := by
    have zero : playerStore.Holds teamHierarchy .int (.int 0) := .scalar rfl trivial
    have captain : playerStore.Holds teamHierarchy ⟨7⟩ (.object "Captain" []) :=
      .object rfl (Hierarchy.reaches_of_isSameOrDerived (by decide)) (by simp) (by simp)
    have collection : playerStore.Holds teamHierarchy ⟨8⟩ captains := by
      refine .object rfl (Hierarchy.Reaches.refl _) ?_ ?_
      · simpa [Subtype.iteratedTypes] using fun _ => zero
      · simpa [Subtype.iteratedTypes] using fun _ => captain
    exact .union rfl List.mem_cons_self collection
  have expected := soundProperty (silent _) captains held (by simp [captains])
  exact ⟨formed, known, quiet, held, expected, (soundDatabase (silent _) captains expected).2 rfl⟩

end AssociationCheck
