/-
Tolerating null only forgives.

A run that tolerates null where none is expected looks up the same metadata and compares the same
types as a strict one, save that the declared type then has to fit the database without its null. So
it finds what the strict run finds, but for diagnostics of properties that are nullable and should
not be.
-/

import AssociationCheck.Proofs.Analysis.Answers
import AssociationCheck.Proofs.Rule.WithoutNull

namespace AssociationCheck

open Building TypeStore

def CheckOptions.tolerating (options : CheckOptions) (tolerates : Bool) : CheckOptions :=
  { options with allowNullable := tolerates }

variable {hierarchy : Hierarchy} {options : CheckOptions} {association : Association}

/-! ### Trees -/

theorem TypeTree.Normal.normalize_tolerating {tree : TypeTree} (normal : tree.Normal)
    (tolerates : Bool) :
    TypeTree.normalize hierarchy (options.tolerating tolerates) tree =
      TypeTree.normalize hierarchy options tree := by
  induction normal with
  | scalar => rfl
  | @object name arguments each =>
      cases last : arguments.getLast? with
      | none => rw [normalize_object_of_nil last, normalize_object_of_nil last]
      | some value =>
          rw [normalize_object_of_last last, normalize_object_of_last last]
          rfl
  | iterable => rfl
  | array => rfl
  | union _ _ _ ih => rw [normalize_union, normalize_union, List.map_congr_left ih]
  | intersection _ _ _ ih =>
      rw [normalize_intersection, normalize_intersection, List.map_congr_left ih]

theorem Association.comparedTree_tolerating {declared : TypeTree} (normal : declared.Normal)
    (tolerates : Bool) :
    association.comparedTree hierarchy (options.tolerating tolerates) declared =
      association.comparedTree hierarchy options declared := by
  unfold comparedTree
  rw [normal.normalize_tolerating]

/-! ### One comparison -/

namespace Comparison

/-- Null is a member of the declared type, in the form in which it is compared, and not of the
expected type. -/
structure NullUnexpected (compared : Comparison) : Prop where
  notExpected : compared.store.isNullable compared.expected = false
  isDeclared : compared.store.isNullable compared.declared = true

variable {compared strict tolerant : Comparison} {store : TypeStore} {written : TypeId}

theorem Shows.nullUnexpected_iff
    (shows : compared.Shows store hierarchy options association written) :
    compared.NullUnexpected ↔ (association.expectedTree options).isNullable = false ∧
      (association.comparedTree hierarchy options (store.tree written)).isNullable = true := by
  have canonical := shows.continues.canonical
  rw [← shows.expected, ← shows.declared, ← canonical.isNullable_tree shows.expectedKnown,
    ← canonical.isNullable_tree shows.declaredKnown]
  exact ⟨fun unexpected => ⟨unexpected.1, unexpected.2⟩, fun both => ⟨both.1, both.2⟩⟩

/-- Whether null is unexpected does not depend on whether it is tolerated. -/
theorem Shows.nullUnexpected_iff_tolerant (canonical : store.Canonical)
    (known : store.Contains written)
    (shows : compared.Shows store hierarchy options association written)
    (tolerantShows : tolerant.Shows store hierarchy (options.tolerating true) association written) :
    compared.NullUnexpected ↔ tolerant.NullUnexpected := by
  rw [shows.nullUnexpected_iff, tolerantShows.nullUnexpected_iff,
    Association.comparedTree_tolerating (canonical.tree_normal known)]
  rfl

/-- With tolerance the declared type loses its null where null is not expected. -/
theorem Shows.stored_tolerant
    (shows : compared.Shows store hierarchy (options.tolerating true) association written) :
    compared.store.tree compared.stored =
      if compared.store.isNullable compared.expected then compared.store.tree compared.declared
      else (compared.store.tree compared.declared).withoutNull := by
  rw [shows.continues.canonical.isNullable_tree shows.expectedKnown, shows.stored, shows.declared,
    shows.expected, TypeTree.forProperty]
  cases (association.expectedTree (options.tolerating true)).isNullable <;> rfl

section Forgiving

variable (canonical : store.Canonical) (known : store.Contains written)
  (strictShows : strict.Shows store hierarchy (options.tolerating false) association written)
  (tolerantShows : tolerant.Shows store hierarchy (options.tolerating true) association written)
include canonical known strictShows tolerantShows

theorem Shows.agree :
    tolerant.store.Agree strict.store tolerant.expected strict.expected ∧
      tolerant.store.Agree strict.store tolerant.declared strict.declared ∧
      tolerant.store.Agree strict.store tolerant.declared strict.stored := by
  have normal := canonical.tree_normal known
  have declared : tolerant.store.tree tolerant.declared = strict.store.tree strict.declared := by
    rw [tolerantShows.declared, strictShows.declared, Association.comparedTree_tolerating normal,
      Association.comparedTree_tolerating normal]
  refine ⟨⟨tolerantShows.expectedKnown, strictShows.expectedKnown, ?_⟩,
    ⟨tolerantShows.declaredKnown, strictShows.declaredKnown, declared⟩,
    ⟨tolerantShows.declaredKnown, strictShows.storedKnown, ?_⟩⟩
  · exact tolerantShows.expected.trans strictShows.expected.symm
  · rw [declared, strictShows.declared, strictShows.stored]
    rfl

theorem Shows.database_eq : tolerant.database hierarchy = strict.database hierarchy := by
  obtain ⟨expected, declared, _⟩ := Shows.agree canonical known strictShows tolerantShows
  exact expected.relate_eq hierarchy tolerantShows.continues.canonical
    strictShows.continues.canonical declared

theorem Shows.property_yes (yes : (strict.property hierarchy).verdict = .yes) :
    (tolerant.property hierarchy).verdict = .yes := by
  obtain ⟨expected, _, stored⟩ := Shows.agree canonical known strictShows tolerantShows
  have canonicalLast := tolerantShows.continues.canonical
  -- The strict question is asked again in the tolerant store, which knows both sources.
  rw [property, ← stored.relate_eq hierarchy canonicalLast strictShows.continues.canonical
    expected] at yes
  have storedTree := tolerantShows.stored_tolerant
  by_cases expectsNull : tolerant.store.isNullable tolerant.expected = true
  · rw [if_pos expectsNull] at storedTree
    rw [property, canonicalLast.eq_of_tree_eq tolerantShows.storedKnown
      tolerantShows.declaredKnown storedTree]
    exact yes
  · rw [if_neg expectsNull] at storedTree
    exact Subtype.Below.withoutNull canonicalLast tolerantShows.declaredKnown
      tolerantShows.storedKnown tolerantShows.expectedKnown storedTree
      (Bool.not_eq_true _ ▸ expectsNull) (Subtype.below_of_relate_yes yes)

theorem Shows.property_eq (usual : ¬ tolerant.NullUnexpected) :
    tolerant.property hierarchy = strict.property hierarchy := by
  obtain ⟨expected, declared, stored⟩ := Shows.agree canonical known strictShows tolerantShows
  have canonicalLast := tolerantShows.continues.canonical
  have storedTree := tolerantShows.stored_tolerant
  have kept : tolerant.store.tree tolerant.stored = tolerant.store.tree tolerant.declared := by
    rw [storedTree]
    split
    · rfl
    · rename_i expectsNone
      apply (canonicalLast.tree_normal tolerantShows.declaredKnown).withoutNull_eq
      rw [← canonicalLast.isNullable_tree tolerantShows.declaredKnown, Bool.eq_false_iff]
      exact fun isDeclared => usual ⟨Bool.not_eq_true _ ▸ expectsNone, isDeclared⟩
  rw [property, property, canonicalLast.eq_of_tree_eq tolerantShows.storedKnown
      tolerantShows.declaredKnown kept]
  exact stored.relate_eq hierarchy canonicalLast strictShows.continues.canonical expected

end Forgiving

end Comparison

/-! ### One property -/

/-- Of what a strict check finds all is kept, or all but the last diagnostic, which is about what
the property can contain; there has to be a reason for that. -/
def Forgives (reason : Prop) (strict tolerant : List Diagnostic) : Prop :=
  strict = tolerant ∨ reason ∧ ∃ forgiven : Diagnostic,
    forgiven.code = DiagnosticKind.propertyCanContain.code ∧ strict = tolerant ++ [forgiven]

namespace Forgives

variable {reason : Prop} {strict tolerant : List Diagnostic}

theorem sublist (forgives : Forgives reason strict tolerant) : tolerant.Sublist strict := by
  rcases forgives with rfl | ⟨_, _, _, rfl⟩
  · exact .refl _
  · exact List.sublist_append_left ..

theorem keepsDatabase (forgives : Forgives reason strict tolerant) :
    tolerant.filter (fun found => found.code == DiagnosticKind.databaseCanContain.code) =
      strict.filter (fun found => found.code == DiagnosticKind.databaseCanContain.code) := by
  rcases forgives with rfl | ⟨_, forgiven, code, rfl⟩
  · rfl
  · rw [List.filter_append, List.filter_singleton, code]
    exact (List.append_nil _).symm

end Forgives

theorem findings_forgives (entity : EntityClass) (property : DeclaredProperty) {reason : Prop}
    (fromDatabase : Bool) {fromProperty more : Bool} (expected declared : String)
    (keeps : fromProperty = true → more = true) (changes : fromProperty ≠ more → reason) :
    Forgives reason (findings entity property fromDatabase fromProperty expected declared)
      (findings entity property fromDatabase more expected declared) := by
  cases fromProperty with
  | true =>
      rw [keeps rfl]
      exact .inl rfl
  | false =>
      cases more with
      | false => exact .inl rfl
      | true =>
          refine .inr ⟨changes Bool.false_ne_true,
            DiagnosticKind.propertyCanContain.about entity property declared expected, rfl, ?_⟩
          rw [findings, findings, if_pos rfl, if_neg Bool.false_ne_true, List.append_nil]

section Property

variable {store : TypeStore} {written : TypeId}

theorem checkProperty_forgives (canonical : store.Canonical) (known : store.Contains written)
    (entity : EntityClass) (property : DeclaredProperty) :
    Forgives (comparison hierarchy options association written store).NullUnexpected
      ((checkProperty hierarchy (options.tolerating false) entity property written
        association).run store).1
      ((checkProperty hierarchy (options.tolerating true) entity property written
        association).run store).1 := by
  have strict : (comparison hierarchy (options.tolerating false) association written store).Shows
    store hierarchy _ association written := comparison_shows canonical known
  have tolerant : (comparison hierarchy (options.tolerating true) association written store).Shows
    store hierarchy _ association written := comparison_shows canonical known
  have usual : (comparison hierarchy options association written store).Shows
    store hierarchy _ association written := comparison_shows canonical known
  -- Only the answer for the property may differ: the texts and the other answer are the same.
  obtain ⟨expectedText, writtenText⟩ := tolerant.texts_eq canonical known strict rfl
  rw [checkProperty_comparison, checkProperty_comparison]
  dsimp only
  rw [expectedText, writtenText, Comparison.Shows.database_eq canonical known strict tolerant]
  apply findings_forgives
  · intro fits
    rw [Verdict.isYes, beq_iff_eq] at fits ⊢
    exact Comparison.Shows.property_yes canonical known strict tolerant fits
  · intro changes
    by_contra expectedOrNone
    rw [usual.nullUnexpected_iff_tolerant canonical known tolerant] at expectedOrNone
    apply changes
    rw [Comparison.Shows.property_eq canonical known strict tolerant expectedOrNone]

/-- Null is declared for a property and not expected by its association. The type of the property is
read into a new store, as by the check that finds `findingsAlone`. -/
def UnexpectedlyNullable (hierarchy : Hierarchy) (options : CheckOptions)
    (metadata : Option ClassMetadata) (input : InputProperty) : Prop :=
  let declared := input.declare.run .initial
  ∃ known association written, metadata = some known ∧
    known.association? input.name = some association ∧
    declared.1.declaredType = some written ∧
    (comparison hierarchy options association written declared.2).NullUnexpected

theorem findingsAlone_forgives (metadata : Option ClassMetadata) (name file : String)
    (input : InputProperty) :
    Forgives (UnexpectedlyNullable hierarchy options metadata input)
      (findingsAlone hierarchy (options.tolerating false) metadata name file input)
      (findingsAlone hierarchy (options.tolerating true) metadata name file input) := by
  cases metadata with
  | none => exact .inl rfl
  | some known =>
      obtain ⟨continues, declared⟩ := input.declare_ensures canonical_initial
      rw [findingsAlone_some, findingsAlone_some]
      dsimp only
      unfold checkMapped
      cases typed : (input.declare.run .initial).1.declaredType with
      | none => exact .inl rfl
      | some written =>
          cases mapped : known.association? (input.declare.run .initial).1.name with
          | none => exact .inl rfl
          | some association =>
              rw [declared.name] at mapped
              refine (checkProperty_forgives continues.canonical (declared.known written typed) _
                _).imp_right ?_
              rintro ⟨unexpected, rest⟩
              exact ⟨⟨known, association, written, rfl, mapped, typed, unexpected⟩, rest⟩

end Property

/-! ### Runs -/

section Runs

variable {m : Type → Type} [Monad m] {ε : Type} (load : m (Except ε Snapshot))

def resolveAll : List String → Resolver → m (List (Option ClassMetadata) × Resolver)
  | [], resolver => pure ([], resolver)
  | name :: others, resolver => do
      let (metadata, resolver) ← resolver.resolve load name
      let (rest, resolver) ← resolveAll others resolver
      pure (metadata :: rest, resolver)

def findingsWith (hierarchy : Hierarchy) (options : CheckOptions) (classes : List InputClass)
    (metadata : List (Option ClassMetadata)) : List Diagnostic :=
  (metadata.zip classes).flatMap fun (known, checked) => checked.findings hierarchy options known

theorem findingsWith_sublist (classes : List InputClass) (metadata : List (Option ClassMetadata)) :
    (findingsWith hierarchy (options.tolerating true) classes metadata).Sublist
      (findingsWith hierarchy (options.tolerating false) classes metadata) := by
  apply List.Sublist.flatMap_right
  intro both _
  apply List.Sublist.flatMap_right
  intro property _
  exact (findingsAlone_forgives ..).sublist

theorem findingsWith_keepsDatabase (classes : List InputClass)
    (metadata : List (Option ClassMetadata)) :
    (findingsWith hierarchy (options.tolerating true) classes metadata).filter
        (fun found => found.code == DiagnosticKind.databaseCanContain.code) =
      (findingsWith hierarchy (options.tolerating false) classes metadata).filter
        (fun found => found.code == DiagnosticKind.databaseCanContain.code) := by
  simp only [findingsWith, InputClass.findings, List.filter_flatMap]
  apply List.flatMap_congr
  intro both _
  apply List.flatMap_congr
  intro property _
  exact (findingsAlone_forgives ..).keepsDatabase

variable [LawfulMonad m]

theorem checkClasses_resolveAll (hierarchy : Hierarchy) (options : CheckOptions)
    {inputs : List InputClass} {classes : List EntityClass} {store : TypeStore}
    (canonical : store.Canonical)
    (declared : List.Forall₂ (fun input entity => input.Declared store entity) inputs classes)
    (resolver : Resolver) :
    checkClasses load hierarchy options classes store resolver =
      (fun known => (findingsWith hierarchy options inputs known.1, known.2)) <$>
        resolveAll load (inputs.map fun input => withoutLeadingSeparators input.name) resolver := by
  induction inputs generalizing classes store resolver with
  | nil =>
      cases declared
      rw [List.map_nil, resolveAll, map_pure]
      rfl
  | cons input inputs ih =>
      cases declared with
      | @cons _ entity _ others head tail =>
          rw [List.map_cons, checkClasses, resolveAll, head.name, map_bind]
          congr 1
          funext resolved
          obtain ⟨metadata, next⟩ := resolved
          obtain ⟨continues, found⟩ := checkClass_alone hierarchy options metadata canonical head
          have rest := ih continues.canonical
            (tail.imp fun _ _ declared => declared.later canonical continues.grows) next
          let checked := (checkClass hierarchy options metadata entity).run store
          change (checkClasses load hierarchy options others checked.2 next >>=
            fun later => pure (checked.1 ++ later.1, later.2)) = _
          rw [rest, found, bind_map_left, map_bind]
          congr 1
          funext last
          rw [map_pure]
          rfl

/-- A run that tolerates null looks up what the strict run does. Whatever that is, it finds some of
the diagnostics of the strict run with the same texts, among them all about what the database can
contain, and misses one for a property only where null is declared and not expected. -/
theorem analyse_forgives (options : CheckOptions) (input : AnalysisInput) (resolver : Resolver) :
    let found (tolerates : Bool) (hierarchy : Hierarchy) :=
      findingsWith hierarchy (options.tolerating tolerates) input.classes
    let fromDatabase (diagnostic : Diagnostic) : Bool :=
      diagnostic.code == DiagnosticKind.databaseCanContain.code
    (∀ tolerates, analyse load (options.tolerating tolerates) input resolver =
      (fun known => (⟨found tolerates (.ofEntries input.hierarchy) known.1, input.classes.length⟩,
          known.2.clear)) <$>
        resolveAll load (input.classes.map fun checked => withoutLeadingSeparators checked.name)
          (resolver.attachAll input.classes)) ∧
    ∀ hierarchy metadata,
      (found true hierarchy metadata).Sublist (found false hierarchy metadata) ∧
      (found true hierarchy metadata).filter fromDatabase =
        (found false hierarchy metadata).filter fromDatabase ∧
      ∀ (known : Option ClassMetadata) (name file : String) (property : InputProperty),
        Forgives (UnexpectedlyNullable hierarchy options known property)
          (findingsAlone hierarchy (options.tolerating false) known name file property)
          (findingsAlone hierarchy (options.tolerating true) known name file property) := by
  intro found fromDatabase
  refine ⟨fun tolerates => ?_, fun hierarchy metadata => ⟨?_, ?_, ?_⟩⟩
  · obtain ⟨continues, declared⟩ := InputClass.declareAll_ensures input.classes canonical_initial
    let read := (InputClass.declareAll input.classes).run .initial
    change (checkClasses load (.ofEntries input.hierarchy) (options.tolerating tolerates) read.1
      read.2 (resolver.attachAll input.classes) >>= fun checked =>
        pure (AnalysisResult.mk checked.1 read.1.length, checked.2.clear)) = _
    rw [checkClasses_resolveAll load _ _ continues.canonical declared, bind_map_left,
      ← declared.length_eq, map_eq_pure_bind]
  · exact findingsWith_sublist input.classes metadata
  · exact findingsWith_keepsDatabase input.classes metadata
  · exact findingsAlone_forgives

end Runs

/-- With tolerance the manager of a shop may be null, though no shop is without one. -/
theorem analyse_forgives_shop :
    let diagnostics (tolerates : Bool) :=
      (analyse missingSnapshot (CheckOptions.tolerating {} tolerates) shopInput
        (.static shopResolver)).run.1.diagnostics
    (diagnostics true).Sublist (diagnostics false) ∧
      (diagnostics false).map (fun found => (found.line, found.code)) =
        [(7, 9001), (7, 9002), (5, 9002)] ∧
      (diagnostics true).map (fun found => (found.line, found.code)) =
        [(7, 9001), (7, 9002)] := by
  intro diagnostics
  refine ⟨?_, by decide +kernel⟩
  obtain ⟨runs, forgives⟩ := analyse_forgives missingSnapshot {} shopInput (.static shopResolver)
  dsimp only [diagnostics]
  rw [runs, runs]
  exact (forgives _ _).1

end AssociationCheck
