/-
One property on its own.

What is found for a property depends on its class, its text and its association, and not on what
else the store holds. So it is what a check with a new store finds that reads the type of this one
property and checks a class that has no other.
-/

import AssociationCheck.Analysis.Run
import AssociationCheck.Proofs.Rule.Trees
import AssociationCheck.Proofs.Subtype.Trees

namespace AssociationCheck

open Building TypeStore

/-! ### Two stores -/

section TwoStores

variable {α β γ δ : Type} {first second next nextOther : TypeStore} {id other : TypeId}

/-- Two computations, each in a store of its own, and what holds of their results and of the stores
that they leave. -/
def Together (build : Building α) (buildOther : Building β) (first second : TypeStore)
    (goal : α → β → TypeStore → TypeStore → Prop) : Prop :=
  goal (build.run first).1 (buildOther.run second).1 (build.run first).2 (buildOther.run second).2

theorem together_bind {build : Building α} {buildOther : Building β} {rest : α → Building γ}
    {restOther : β → Building δ} {middle : α → β → TypeStore → TypeStore → Prop}
    {goal : γ → δ → TypeStore → TypeStore → Prop}
    (start : Together build buildOther first second middle)
    (after : ∀ value valueOther next nextOther, middle value valueOther next nextOther →
      Together (rest value) (restOther valueOther) next nextOther goal) :
    Together (build >>= rest) (buildOther >>= restOther) first second goal :=
  after _ _ _ _ start

/-- Both stores only grow and stay canonical. -/
structure BothContinue (first second next nextOther : TypeStore) : Prop where
  first : first.ContinuesTo next
  second : second.ContinuesTo nextOther

theorem BothContinue.trans {last lastOther : TypeStore}
    (start : BothContinue first second next nextOther)
    (rest : BothContinue next nextOther last lastOther) :
    BothContinue first second last lastOther :=
  ⟨start.first.trans rest.first, start.second.trans rest.second⟩

theorem BothContinue.agree (continues : BothContinue first second next nextOther)
    (canonical : first.Canonical) (canonicalOther : second.Canonical)
    (agree : first.Agree second id other) : next.Agree nextOther id other where
  known := continues.first.grows.contains agree.known
  otherKnown := continues.second.grows.contains agree.otherKnown
  tree := by
    rw [canonical.tree_later continues.first.grows agree.known,
      canonicalOther.tree_later continues.second.grows agree.otherKnown, agree.tree]

/-- Computations that make one tree, each in a store of its own, give types that agree. -/
theorem together_makes {build buildOther : Building TypeId} {tree treeOther : TypeTree}
    (made : Makes build first tree) (madeOther : Makes buildOther second treeOther)
    (same : tree = treeOther) :
    Together build buildOther first second (fun id other next nextOther =>
      BothContinue first second next nextOther ∧ next.Agree nextOther id other) :=
  ⟨⟨made.1, madeOther.1⟩, made.2.1, madeOther.2.1, made.2.2.trans (same.trans madeOther.2.2.symm)⟩

/-- The check of a property asks its questions in the store that the last of its types leaves. -/
theorem checkProperty_eq (hierarchy : Hierarchy) (options : CheckOptions) (entity : EntityClass)
    (property : DeclaredProperty) (written : TypeId) (association : Association) :
    checkProperty hierarchy options entity property written association = (do
      let expected ← expectedType options association
      let declared ← comparedType hierarchy options association written
      let stored ← declaredForProperty options expected declared
      let store ← get
      pure (findings entity property (databaseFits store hierarchy expected declared)
        (propertyFits store hierarchy stored expected) (store.text expected)
        (store.text written))) :=
  funext (checkProperty_run hierarchy options entity property written association)

/-- The check of a property finds the same in two stores in which its declared types agree. -/
theorem checkProperty_together (hierarchy : Hierarchy) (options : CheckOptions)
    (name file field : String) (line : Nat) (properties propertiesOther : List DeclaredProperty)
    (declared declaredOther : Option TypeId) (association : Association)
    (canonical : first.Canonical) (canonicalOther : second.Canonical)
    (written : first.Agree second id other) :
    Together
      (checkProperty hierarchy options (.of name file properties) ⟨field, declared, line⟩ id
        association)
      (checkProperty hierarchy options (.of name file propertiesOther)
        ⟨field, declaredOther, line⟩ other association)
      first second (fun found foundOther next nextOther =>
        found = foundOther ∧ BothContinue first second next nextOther) := by
  rw [checkProperty_eq, checkProperty_eq]
  apply together_bind (together_makes (expectedType_makes options canonical association)
    (expectedType_makes options canonicalOther association) rfl)
  rintro expected expectedOther early earlyOther ⟨toEarly, expectedEarly⟩
  have writtenEarly := toEarly.agree canonical canonicalOther written
  have canonicalEarly := toEarly.first.canonical
  have canonicalEarlyOther := toEarly.second.canonical
  apply together_bind (together_makes
    (comparedType_makes hierarchy options association canonicalEarly writtenEarly.known)
    (comparedType_makes hierarchy options association canonicalEarlyOther writtenEarly.otherKnown)
    (by rw [writtenEarly.tree]))
  rintro compared comparedOther late lateOther ⟨toLate, comparedLate⟩
  have expectedLate := toLate.agree canonicalEarly canonicalEarlyOther expectedEarly
  have canonicalLate := toLate.first.canonical
  have canonicalLateOther := toLate.second.canonical
  apply together_bind (together_makes
    (declaredForProperty_makes options canonicalLate expectedLate.known comparedLate.known)
    (declaredForProperty_makes options canonicalLateOther expectedLate.otherKnown
      comparedLate.otherKnown)
    (by rw [expectedLate.tree, comparedLate.tree]))
  rintro stored storedOther last lastOther ⟨toLast, storedLast⟩
  have canonicalLast := toLast.first.canonical
  have canonicalLastOther := toLast.second.canonical
  have expectedLast := toLast.agree canonicalLate canonicalLateOther expectedLate
  have comparedLast := toLast.agree canonicalLate canonicalLateOther comparedLate
  have writtenLast := (toLate.trans toLast).agree canonicalEarly canonicalEarlyOther writtenEarly
  refine ⟨?_, (toEarly.trans toLate).trans toLast⟩
  have database := expectedLast.relate_eq hierarchy canonicalLast canonicalLastOther comparedLast
  have property := storedLast.relate_eq hierarchy canonicalLast canonicalLastOther expectedLast
  change findings _ _ _ _ _ _ = findings _ _ _ _ _ _
  rw [expectedLast.text_eq canonicalLast canonicalLastOther,
    writtenLast.text_eq canonicalLast canonicalLastOther, databaseFits, databaseFits, isSubtype,
    isSubtype, database, propertyFits, propertyFits, isSubtype, isSubtype, property]
  rfl

end TwoStores

/-! ### Declared types -/

namespace InputProperty

def tree (input : InputProperty) : Option TypeTree :=
  input.declaredType.bind (fun text => (TypeExpr.treeOfText text).toOption)

theorem tree_eq_none {input : InputProperty}
    (unread : ∀ text id, input.declaredType = some text →
      ((parseType text).run .initial).1 ≠ .ok id) : input.tree = none := by
  cases written : input.declaredType with
  | none =>
      rw [tree, written]
      rfl
  | some text =>
      obtain ⟨_, _, same⟩ := parseType_makes text canonical_initial
      rw [tree, written, Option.bind_some, ← same]
      cases parsed : ((parseType text).run .initial).1 with
      | ok id => exact absurd parsed (unread text id written)
      | error problem => rfl

structure Declared (input : InputProperty) (store : TypeStore) (property : DeclaredProperty) :
    Prop where
  name : property.name = input.name
  line : property.line = input.line
  known : ∀ id, property.declaredType = some id → store.Contains id
  tree : property.declaredType.map store.tree = input.tree

theorem Declared.later {input : InputProperty} {store later : TypeStore}
    {property : DeclaredProperty} (declared : input.Declared store property)
    (canonical : store.Canonical) (grows : store.GrowsTo later) :
    input.Declared later property where
  name := declared.name
  line := declared.line
  known id isDeclared := grows.contains (declared.known id isDeclared)
  tree := by
    rw [← declared.tree]
    cases isDeclared : property.declaredType with
    | none => rfl
    | some id => exact congrArg some (canonical.tree_later grows (declared.known id isDeclared))

theorem declare_ensures (input : InputProperty) {store : TypeStore} (canonical : store.Canonical) :
    Ensures input.declare store (fun property later =>
      store.ContinuesTo later ∧ input.Declared later property) := by
  unfold declare
  cases written : input.declaredType with
  | none =>
      refine ⟨canonical.continuesTo_refl, rfl, rfl, fun _ impossible => (by cases impossible), ?_⟩
      rw [tree, written]
      rfl
  | some text =>
      apply ensures_bind (parseType_makes text canonical)
      rintro parsed later ⟨continues, known, same⟩
      refine ⟨continues, rfl, rfl, fun id isOk => ?_, ?_⟩
      · cases parsed with
        | ok other => exact known id (congrArg Except.ok (Option.some.inj isOk))
        | error problem => cases isOk
      · rw [tree, written, Option.bind_some, ← same]
        cases parsed <;> rfl

end InputProperty

/-! ### Checks -/

section Checks

variable {store first second : TypeStore} {input : InputProperty}
  {property propertyOther : DeclaredProperty}

theorem checkMapped_together (hierarchy : Hierarchy) (options : CheckOptions)
    (metadata : ClassMetadata) (name file : String)
    (properties propertiesOther : List DeclaredProperty) (canonical : first.Canonical)
    (canonicalOther : second.Canonical) (declared : input.Declared first property)
    (declaredOther : input.Declared second propertyOther) :
    Together (checkMapped hierarchy options metadata (.of name file properties) property)
      (checkMapped hierarchy options metadata (.of name file propertiesOther) propertyOther)
      first second (fun found foundOther next nextOther =>
        found = foundOther ∧ BothContinue first second next nextOther) := by
  have silent : Together (pure [] : Building (List Diagnostic)) (pure []) first second
      (fun found foundOther next nextOther =>
        found = foundOther ∧ BothContinue first second next nextOther) :=
    ⟨rfl, canonical.continuesTo_refl, canonicalOther.continuesTo_refl⟩
  obtain ⟨field, type, line⟩ := property
  obtain ⟨fieldOther, typeOther, lineOther⟩ := propertyOther
  obtain ⟨rfl, rfl, known, tree⟩ := declared
  obtain ⟨rfl, rfl, knownOther, treeOther⟩ := declaredOther
  have same := tree.trans treeOther.symm
  unfold checkMapped
  cases metadata.association? input.name with
  | none => cases type <;> cases typeOther <;> exact silent
  | some association =>
      cases type with
      | none =>
          cases typeOther with
          | none => exact silent
          | some other => cases same
      | some id =>
          cases typeOther with
          | none => cases same
          | some other =>
              exact checkProperty_together hierarchy options name file _ _ _ _ _ _ association
                canonical canonicalOther ⟨known id rfl, knownOther other rfl, Option.some.inj same⟩

/-- The diagnostics of a property on its own: its type is read into a new store, and its class has
no other property. -/
def findingsAlone (hierarchy : Hierarchy) (options : CheckOptions)
    (metadata : Option ClassMetadata) (name file : String) (input : InputProperty) :
    List Diagnostic :=
  let declared := input.declare.run .initial
  ((checkClass hierarchy options metadata (.of name file [declared.1])).run declared.2).1

theorem findingsAlone_none (hierarchy : Hierarchy) (options : CheckOptions) (name file : String)
    (input : InputProperty) : findingsAlone hierarchy options none name file input = [] := rfl

theorem findingsAlone_some (hierarchy : Hierarchy) (options : CheckOptions)
    (metadata : ClassMetadata) (name file : String) (input : InputProperty) :
    findingsAlone hierarchy options (some metadata) name file input =
      let declared := input.declare.run .initial
      ((checkMapped hierarchy options metadata (.of name file [declared.1]) declared.1).run
        declared.2).1 :=
  (congrArg Prod.fst (checkProperties_cons hierarchy options metadata _ _ [] _)).trans
    (List.append_nil _)

theorem findingsAlone_nil (hierarchy : Hierarchy) (options : CheckOptions)
    (metadata : Option ClassMetadata) (name file : String)
    (missing : input.tree = none ∨
      metadata.bind (fun metadata => metadata.association? input.name) = none) :
    findingsAlone hierarchy options metadata name file input = [] := by
  cases metadata with
  | none => rfl
  | some metadata =>
      rw [findingsAlone_some]
      obtain ⟨_, declared⟩ := input.declare_ensures canonical_initial
      change ((checkMapped hierarchy options metadata _ _).run _).1 = []
      unfold checkMapped
      rcases missing with unread | unmapped
      · have untyped := declared.tree
        rw [unread, Option.map_eq_none_iff] at untyped
        rw [untyped]
        rfl
      · rw [declared.name, show metadata.association? input.name = none from unmapped]
        cases (input.declare.run .initial).1.declaredType <;> rfl

/-- In any store a property is found what it is found on its own. -/
theorem checkMapped_alone (hierarchy : Hierarchy) (options : CheckOptions)
    (metadata : ClassMetadata) (name file : String) (properties : List DeclaredProperty)
    (canonical : store.Canonical) (declared : input.Declared store property) :
    Ensures (checkMapped hierarchy options metadata (.of name file properties) property) store
      (fun found later => store.ContinuesTo later ∧
        found = findingsAlone hierarchy options (some metadata) name file input) := by
  obtain ⟨continues, fresh⟩ := input.declare_ensures canonical_initial
  obtain ⟨same, both⟩ := checkMapped_together hierarchy options metadata name file properties
    [(input.declare.run .initial).1] canonical continues.canonical declared fresh
  rw [← findingsAlone_some hierarchy options metadata name file input] at same
  exact ⟨both.first, same⟩

/-! ### Classes -/

/-- In any store the properties of a class are found what each is found on its own, in order. -/
theorem checkProperties_alone (hierarchy : Hierarchy) (options : CheckOptions)
    (metadata : ClassMetadata) (name file : String) (all : List DeclaredProperty)
    (inputs : List InputProperty) {properties : List DeclaredProperty} {store : TypeStore}
    (canonical : store.Canonical)
    (declared : List.Forall₂ (fun input property => input.Declared store property) inputs
      properties) :
    Ensures (checkProperties hierarchy options metadata (.of name file all) properties) store
      (fun found later => store.ContinuesTo later ∧
        found = inputs.flatMap
          (findingsAlone hierarchy options (some metadata) name file)) := by
  induction inputs generalizing properties store with
  | nil =>
      cases declared
      exact ⟨canonical.continuesTo_refl, rfl⟩
  | cons input inputs ih =>
      cases declared with
      | @cons _ property _ others head tail =>
          unfold Ensures
          rw [checkProperties_cons, List.flatMap_cons]
          obtain ⟨continues, first⟩ := checkMapped_alone hierarchy options metadata name file all
            canonical head
          obtain ⟨further, rest⟩ := ih continues.canonical
            (tail.imp (fun _ _ declared => declared.later canonical continues.grows))
          exact ⟨continues.trans further, by rw [← first, ← rest]⟩

structure InputClass.Declared (input : InputClass) (store : TypeStore) (entity : EntityClass) :
    Prop where
  name : entity.name = withoutLeadingSeparators input.name
  file : entity.file = input.file
  properties : List.Forall₂ (fun input property => input.Declared store property)
    input.properties entity.properties

theorem InputClass.Declared.later {input : InputClass} {store later : TypeStore}
    {entity : EntityClass} (declared : input.Declared store entity) (canonical : store.Canonical)
    (grows : store.GrowsTo later) : input.Declared later entity where
  name := declared.name
  file := declared.file
  properties := declared.properties.imp (fun _ _ declared => declared.later canonical grows)

/-- The diagnostics of the properties of a class, each on its own, in order. -/
def InputClass.findings (hierarchy : Hierarchy) (options : CheckOptions)
    (metadata : Option ClassMetadata) (input : InputClass) : List Diagnostic :=
  input.properties.flatMap (findingsAlone hierarchy options metadata input.name input.file)

theorem checkClass_alone (hierarchy : Hierarchy) (options : CheckOptions)
    (metadata : Option ClassMetadata) {input : InputClass} {entity : EntityClass}
    (canonical : store.Canonical) (declared : input.Declared store entity) :
    Ensures (checkClass hierarchy options metadata entity) store (fun found later =>
      store.ContinuesTo later ∧ found = input.findings hierarchy options metadata) := by
  obtain ⟨_, _, properties⟩ := entity
  obtain ⟨rfl, rfl, declared⟩ := declared
  cases metadata with
  | none =>
      refine ⟨canonical.continuesTo_refl, ?_⟩
      exact (List.flatMap_eq_nil_iff.mpr (fun property _ =>
        findingsAlone_none hierarchy options input.name input.file property)).symm
  | some metadata =>
      exact checkProperties_alone hierarchy options metadata input.name input.file properties
        input.properties canonical declared

end Checks

/-! ### Reading classes -/

theorem InputProperty.declareAll_ensures (inputs : List InputProperty) {store : TypeStore}
    (canonical : store.Canonical) :
    Ensures (InputProperty.declareAll inputs) store (fun properties later =>
      store.ContinuesTo later ∧
        List.Forall₂ (fun input property => input.Declared later property) inputs properties) := by
  induction inputs generalizing store with
  | nil => exact ⟨canonical.continuesTo_refl, .nil⟩
  | cons input inputs ih =>
      apply ensures_bind (input.declare_ensures canonical)
      rintro property later ⟨continues, declared⟩
      apply ensures_bind (ih continues.canonical)
      rintro properties last ⟨further, others⟩
      exact ensures_pure ⟨continues.trans further,
        .cons (declared.later continues.canonical further.grows) others⟩

theorem InputClass.declare_ensures (input : InputClass) {store : TypeStore}
    (canonical : store.Canonical) :
    Ensures input.declare store (fun entity later =>
      store.ContinuesTo later ∧ input.Declared later entity) := by
  apply ensures_bind (InputProperty.declareAll_ensures input.properties canonical)
  rintro properties later ⟨continues, declared⟩
  exact ensures_pure ⟨continues, rfl, rfl, declared⟩

theorem InputClass.declareAll_ensures (inputs : List InputClass) {store : TypeStore}
    (canonical : store.Canonical) :
    Ensures (InputClass.declareAll inputs) store (fun classes later =>
      store.ContinuesTo later ∧
        List.Forall₂ (fun input entity => input.Declared later entity) inputs classes) := by
  induction inputs generalizing store with
  | nil => exact ⟨canonical.continuesTo_refl, .nil⟩
  | cons input inputs ih =>
      apply ensures_bind (input.declare_ensures canonical)
      rintro entity later ⟨continues, declared⟩
      apply ensures_bind (ih continues.canonical)
      rintro classes last ⟨further, others⟩
      exact ensures_pure ⟨continues.trans further,
        .cons (declared.later continues.canonical further.grows) others⟩

end AssociationCheck
