/-
The questions of a run.

The check of a property asks the relation twice, once for each direction. What it is answered
depends on the trees of the types alone, so in a run a property is answered what it is answered on
its own, and the answers of a run are those of its properties in order.
-/

import AssociationCheck.Proofs.Analysis.Runs

namespace AssociationCheck

open Building TypeStore

/-! ### One property -/

/-- The types that the check of a property compares, and the store in which it compares them. -/
structure Comparison where
  expected : TypeId
  declared : TypeId
  stored : TypeId
  store : TypeStore

def comparison (hierarchy : Hierarchy) (options : CheckOptions) (association : Association)
    (written : TypeId) (store : TypeStore) : Comparison :=
  let expected := (expectedType options association).run store
  let declared := (comparedType hierarchy options association written).run expected.2
  let stored := (declaredForProperty options expected.1 declared.1).run declared.2
  ⟨expected.1, declared.1, stored.1, stored.2⟩

namespace Comparison

def database (compared : Comparison) (hierarchy : Hierarchy) : Answer :=
  relate compared.store hierarchy compared.expected compared.declared

def property (compared : Comparison) (hierarchy : Hierarchy) : Answer :=
  relate compared.store hierarchy compared.stored compared.expected

def answers (compared : Comparison) (hierarchy : Hierarchy) : List Answer :=
  [compared.database hierarchy, compared.property hierarchy]

end Comparison

section Property

variable {hierarchy : Hierarchy} {options : CheckOptions} {association : Association}
  {store first second : TypeStore} {written other : TypeId}

/-- The verdicts of a comparison decide what is found for a property, and the check leaves the
store of the comparison. -/
theorem checkProperty_comparison (entity : EntityClass) (property : DeclaredProperty) :
    (checkProperty hierarchy options entity property written association).run store =
      let compared := comparison hierarchy options association written store
      (findings entity property (compared.database hierarchy).verdict.isYes
        (compared.property hierarchy).verdict.isYes (compared.store.text compared.expected)
        (compared.store.text written), compared.store) :=
  checkProperty_run hierarchy options entity property written association store

/-- The types of a comparison have the trees that the mapping and the declared type say. -/
structure Comparison.Shows (compared : Comparison) (store : TypeStore) (hierarchy : Hierarchy)
    (options : CheckOptions) (association : Association) (written : TypeId) : Prop where
  continues : store.ContinuesTo compared.store
  expectedKnown : compared.store.Contains compared.expected
  declaredKnown : compared.store.Contains compared.declared
  storedKnown : compared.store.Contains compared.stored
  expected : compared.store.tree compared.expected = association.expectedTree options
  declared : compared.store.tree compared.declared =
    association.comparedTree hierarchy options (store.tree written)
  stored : compared.store.tree compared.stored =
    .forProperty options (association.expectedTree options)
      (association.comparedTree hierarchy options (store.tree written))

theorem comparison_shows (canonical : store.Canonical) (known : store.Contains written) :
    (comparison hierarchy options association written store).Shows store hierarchy options
      association written := by
  obtain ⟨toEarly, expectedEarly, expectedTree⟩ := expectedType_makes options canonical association
  have writtenEarly := toEarly.grows.contains known
  obtain ⟨toLate, declaredLate, declaredTree⟩ :=
    comparedType_makes hierarchy options association toEarly.canonical writtenEarly
  have expectedLate := toLate.grows.contains expectedEarly
  obtain ⟨toLast, storedLast, storedTree⟩ :=
    declaredForProperty_makes options toLate.canonical expectedLate declaredLate
  have expectedStays := toEarly.canonical.tree_later toLate.grows expectedEarly
  have writtenStays := canonical.tree_later toEarly.grows known
  rw [writtenStays] at declaredTree
  rw [expectedStays, expectedTree, declaredTree] at storedTree
  exact {
    continues := (toEarly.trans toLate).trans toLast
    expectedKnown := toLast.grows.contains expectedLate
    declaredKnown := toLast.grows.contains declaredLate
    storedKnown := storedLast
    expected := (toLate.canonical.tree_later toLast.grows expectedLate).trans
      (expectedStays.trans expectedTree)
    declared := (toLate.canonical.tree_later toLast.grows declaredLate).trans declaredTree
    stored := storedTree }

theorem Comparison.Shows.texts_eq {compared comparedOther : Comparison} {further : Hierarchy}
    {optionsOther : CheckOptions} (canonical : store.Canonical) (known : store.Contains written)
    (shows : compared.Shows store hierarchy options association written)
    (showsOther : comparedOther.Shows store further optionsOther association written)
    (same : association.expectedTree options = association.expectedTree optionsOther) :
    compared.store.text compared.expected = comparedOther.store.text comparedOther.expected ∧
      compared.store.text written = comparedOther.store.text written := by
  have expected := Agree.mk shows.expectedKnown showsOther.expectedKnown
    (shows.expected.trans (same.trans showsOther.expected.symm))
  have asWritten := canonical.agree_later known shows.continues showsOther.continues
  exact ⟨expected.text_eq shows.continues.canonical showsOther.continues.canonical,
    asWritten.text_eq shows.continues.canonical showsOther.continues.canonical⟩

theorem comparison_answers (canonical : first.Canonical) (canonicalOther : second.Canonical)
    (agree : first.Agree second written other) :
    (comparison hierarchy options association written first).answers hierarchy =
      (comparison hierarchy options association other second).answers hierarchy := by
  have shows : (comparison hierarchy options association written first).Shows first hierarchy
      options association written := comparison_shows canonical agree.known
  have showsOther : (comparison hierarchy options association other second).Shows second hierarchy
      options association other := comparison_shows canonicalOther agree.otherKnown
  have expected := Agree.mk shows.expectedKnown showsOther.expectedKnown
    (shows.expected.trans showsOther.expected.symm)
  have declared := Agree.mk shows.declaredKnown showsOther.declaredKnown
    (by rw [shows.declared, showsOther.declared, agree.tree])
  have stored := Agree.mk shows.storedKnown showsOther.storedKnown
    (by rw [shows.stored, showsOther.stored, agree.tree])
  rw [Comparison.answers, Comparison.answers, Comparison.database, Comparison.database,
    Comparison.property, Comparison.property,
    expected.relate_eq hierarchy shows.continues.canonical showsOther.continues.canonical declared,
    stored.relate_eq hierarchy shows.continues.canonical showsOther.continues.canonical expected]

end Property

/-! ### Runs -/

section Runs

variable (hierarchy : Hierarchy) (options : CheckOptions)

def mappedAnswers (metadata : ClassMetadata) (property : DeclaredProperty) (store : TypeStore) :
    List Answer :=
  match property.declaredType, metadata.association? property.name with
  | some declared, some association =>
      (comparison hierarchy options association declared store).answers hierarchy
  | _, _ => []

/-- The answers for the properties of a class, each in the store that the check of the properties
before it leaves. -/
def propertiesAnswers (metadata : ClassMetadata) (entity : EntityClass) :
    List DeclaredProperty → TypeStore → List Answer
  | [], _ => []
  | property :: others, store =>
      mappedAnswers hierarchy options metadata property store ++
        propertiesAnswers metadata entity others
          ((checkMapped hierarchy options metadata entity property).run store).2

def classAnswers (metadata : Option ClassMetadata) (entity : EntityClass) (store : TypeStore) :
    List Answer :=
  match metadata with
  | some metadata => propertiesAnswers hierarchy options metadata entity entity.properties store
  | none => []

/-- The answers for classes that are checked in order, each in the store and with the resolver that
the check of the classes before it leaves. -/
def classesAnswers : List EntityClass → TypeStore → StaticResolver → List Answer
  | [], _, _ => []
  | entity :: others, store, resolver =>
      let resolved := resolver.resolve entity.name
      classAnswers hierarchy options resolved.1 entity store ++
        classesAnswers others ((checkClass hierarchy options resolved.1 entity).run store).2
          resolved.2

/-- What the relation answers in the course of a run, in order. -/
def runAnswers (input : AnalysisInput) (resolver : StaticResolver) : List Answer :=
  let read := (InputClass.declareAll input.classes).run .initial
  classesAnswers (.ofEntries input.hierarchy) options read.1 read.2
    (input.mappings.foldl StaticResolver.attach resolver)

/-- The answers for a property on its own, as in the check that finds `findingsAlone`. -/
def answersAlone (metadata : Option ClassMetadata) (input : InputProperty) : List Answer :=
  let declared := input.declare.run .initial
  match metadata with
  | some metadata => mappedAnswers hierarchy options metadata declared.1 declared.2
  | none => []

variable {store first second : TypeStore} {resolver : StaticResolver}
  {attached : List ClassMetadata} {input : InputProperty} {metadata : ClassMetadata}

theorem mappedAnswers_eq {property propertyOther : DeclaredProperty} (canonical : first.Canonical)
    (canonicalOther : second.Canonical) (declared : input.Declared first property)
    (declaredOther : input.Declared second propertyOther) :
    mappedAnswers hierarchy options metadata property first =
      mappedAnswers hierarchy options metadata propertyOther second := by
  obtain ⟨field, type, line⟩ := property
  obtain ⟨fieldOther, typeOther, lineOther⟩ := propertyOther
  obtain ⟨rfl, rfl, known, tree⟩ := declared
  obtain ⟨rfl, rfl, knownOther, treeOther⟩ := declaredOther
  have same := tree.trans treeOther.symm
  unfold mappedAnswers
  cases metadata.association? input.name with
  | none => cases type <;> cases typeOther <;> rfl
  | some association =>
      cases type with
      | none =>
          cases typeOther with
          | none => rfl
          | some other => cases same
      | some id =>
          cases typeOther with
          | none => cases same
          | some other =>
              exact comparison_answers canonical canonicalOther
                ⟨known id rfl, knownOther other rfl, Option.some.inj same⟩

theorem mappedAnswers_alone {property : DeclaredProperty} (canonical : store.Canonical)
    (declared : input.Declared store property) :
    mappedAnswers hierarchy options metadata property store =
      answersAlone hierarchy options (some metadata) input := by
  obtain ⟨continues, fresh⟩ := input.declare_ensures canonical_initial
  exact mappedAnswers_eq hierarchy options canonical continues.canonical declared fresh

theorem propertiesAnswers_alone (name file : String) (all : List DeclaredProperty)
    {inputs : List InputProperty} {properties : List DeclaredProperty}
    (canonical : store.Canonical)
    (declared : List.Forall₂ (fun input property => input.Declared store property) inputs
      properties) :
    propertiesAnswers hierarchy options metadata (.of name file all) properties store =
      inputs.flatMap (answersAlone hierarchy options (some metadata)) := by
  induction inputs generalizing properties store with
  | nil =>
      cases declared
      rfl
  | cons input inputs ih =>
      cases declared with
      | @cons _ property _ others head tail =>
          obtain ⟨continues, _⟩ :=
            checkMapped_alone hierarchy options metadata name file all canonical head
          have later := tail.imp fun _ _ declared => declared.later canonical continues.grows
          rw [propertiesAnswers, List.flatMap_cons,
            mappedAnswers_alone hierarchy options canonical head, ih continues.canonical later]

theorem classAnswers_alone (metadata : Option ClassMetadata) {input : InputClass}
    {entity : EntityClass} (canonical : store.Canonical) (declared : input.Declared store entity) :
    classAnswers hierarchy options metadata entity store =
      input.properties.flatMap (answersAlone hierarchy options metadata) := by
  obtain ⟨_, _, properties⟩ := entity
  obtain ⟨rfl, rfl, declared⟩ := declared
  cases metadata with
  | none => exact (List.flatMap_eq_nil_iff.mpr fun property _ => rfl).symm
  | some metadata =>
      exact propertiesAnswers_alone hierarchy options input.name input.file properties canonical
        declared

theorem classesAnswers_alone (canonical : store.Canonical) (knows : resolver.Knows attached)
    {inputs : List InputClass} {classes : List EntityClass}
    (declared : List.Forall₂ (fun input entity => input.Declared store entity) inputs classes) :
    classesAnswers hierarchy options classes store resolver =
      inputs.flatMap fun input => input.properties.flatMap
        (answersAlone hierarchy options (lastAttached attached input.name)) := by
  induction inputs generalizing classes store resolver with
  | nil =>
      cases declared
      rfl
  | cons input inputs ih =>
      cases declared with
      | @cons _ entity _ others head tail =>
          obtain ⟨_, continues, known⟩ :=
            resolve_checkClass hierarchy options canonical knows head
          have later := tail.imp fun _ _ declared => declared.later canonical continues.grows
          have named : lastAttached attached entity.name = lastAttached attached input.name :=
            lastAttached_congr (by rw [head.name, ClassKey.of_withoutLeadingSeparators])
          rw [classesAnswers, List.flatMap_cons,
            classAnswers_alone hierarchy options _ canonical head,
            ih continues.canonical known later, (knows.resolve entity.name).1, named]

/-- In a run every property is answered what it is answered on its own, with the metadata attached
last under the name of its class. -/
theorem runAnswers_alone (input : AnalysisInput) (knows : resolver.Knows attached) :
    runAnswers options input resolver =
      input.classes.flatMap fun checked => checked.properties.flatMap
        (answersAlone (.ofEntries input.hierarchy) options
          (lastAttached (attached ++ input.mappings) checked.name)) := by
  obtain ⟨continues, declared⟩ := InputClass.declareAll_ensures input.classes canonical_initial
  exact classesAnswers_alone _ options continues.canonical (knows.attachAll input.mappings) declared

end Runs

end AssociationCheck
