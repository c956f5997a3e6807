/-
A run is made of independent checks.

The classes of an input share one store and one resolver, and a resolver outlives its runs. Still,
a run finds for every property what is found for it on its own, with the metadata attached last
under the name of its class, and the order in which the classes are checked does not matter.
-/

import AssociationCheck.Proofs.Analysis.Alone
import AssociationCheck.Proofs.Mapping.Attached

namespace AssociationCheck

open Building TypeStore

/-! ### Attaching the mappings of an input -/

def AnalysisInput.mappings (input : AnalysisInput) : List ClassMetadata :=
  input.classes.filterMap InputClass.mapping

theorem attachAll_static (resolver : StaticResolver) (classes : List InputClass) :
    (Resolver.static resolver).attachAll classes =
      .static ((classes.filterMap InputClass.mapping).foldl StaticResolver.attach resolver) := by
  induction classes generalizing resolver with
  | nil => rfl
  | cons input others ih =>
      rw [Resolver.attachAll, List.foldl_cons, List.filterMap_cons]
      cases input.mapping with
      | none => exact ih resolver
      | some metadata => exact ih (resolver.attach metadata)

/-! ### Checking in order -/

section Checking

variable {m : Type → Type} [Monad m] {ε : Type} (load : m (Except ε Snapshot))
  (hierarchy : Hierarchy) (options : CheckOptions)

/-- What is found for a class with the metadata attached last under its name. -/
def InputClass.findingsAfter (attached : List ClassMetadata) (input : InputClass) :
    List Diagnostic :=
  input.findings hierarchy options (lastAttached attached input.name)

variable {store : TypeStore} {resolver : StaticResolver} {attached : List ClassMetadata}

/-- The check of a class finds what its properties are found on their own, with the metadata
attached last, and leaves the store and the resolver ready for the next class. -/
theorem resolve_checkClass (canonical : store.Canonical) (knows : resolver.Knows attached)
    {input : InputClass} {entity : EntityClass} (declared : input.Declared store entity) :
    let resolved := resolver.resolve entity.name
    let checked := (checkClass hierarchy options resolved.1 entity).run store
    checked.1 = input.findingsAfter hierarchy options attached ∧
      store.ContinuesTo checked.2 ∧ resolved.2.Knows attached := by
  intro resolved checked
  obtain ⟨metadata, next⟩ := knows.resolve entity.name
  have named : lastAttached attached entity.name = lastAttached attached input.name :=
    lastAttached_congr (by rw [declared.name, ClassKey.of_withoutLeadingSeparators])
  obtain ⟨continues, found⟩ := checkClass_alone hierarchy options resolved.1 canonical declared
  refine ⟨found.trans ?_, continues, next⟩
  rw [InputClass.findingsAfter, ← named, ← metadata]

variable [LawfulMonad m]

theorem checkClasses_static (canonical : store.Canonical) (knows : resolver.Knows attached)
    {inputs : List InputClass} {classes : List EntityClass}
    (declared : List.Forall₂ (fun input entity => input.Declared store entity) inputs classes) :
    ∃ next : StaticResolver, next.Knows attached ∧
      checkClasses load hierarchy options classes store (.static resolver) =
        pure (inputs.flatMap (InputClass.findingsAfter hierarchy options attached),
          .static next) := by
  induction inputs generalizing classes store resolver with
  | nil =>
      cases declared
      exact ⟨resolver, knows, rfl⟩
  | cons input inputs ih =>
      cases declared with
      | @cons _ entity _ others head tail =>
          let resolved := resolver.resolve entity.name
          let checked := (checkClass hierarchy options resolved.1 entity).run store
          obtain ⟨found, continues, known⟩ :=
            resolve_checkClass hierarchy options canonical knows head
          obtain ⟨next, knowsNext, rest⟩ := ih continues.canonical known
            (tail.imp (fun _ _ declared => declared.later canonical continues.grows))
          refine ⟨next, knowsNext, ?_⟩
          rw [List.flatMap_cons, ← found, checkClasses, Resolver.resolve, pure_bind]
          change (checkClasses load hierarchy options others checked.2 (.static resolved.2) >>=
            fun later => pure (checked.1 ++ later.1, later.2)) = _
          rw [rest, pure_bind]

/-! ### Checking in any order -/

/-- Checks classes one after the other, in one store and with one resolver, and keeps for each what
is found under its place in the input. -/
def checkScheduled : List (EntityClass × Nat) → TypeStore → Resolver →
    m (List (Nat × List Diagnostic))
  | [], _, _ => pure []
  | (entity, place) :: others, store, resolver => do
      let (metadata, resolver) ← resolver.resolve load entity.name
      let (found, store) := (checkClass hierarchy options metadata entity).run store
      let rest ← checkScheduled others store resolver
      pure ((place, found) :: rest)

def inInputOrder (count : Nat) (found : List (Nat × List Diagnostic)) : List Diagnostic :=
  (List.range count).flatMap (fun place => (found.lookup place).getD [])

def findingsAt (attached : List ClassMetadata) (inputs : List InputClass) (place : Nat) :
    List Diagnostic :=
  (inputs[place]?.map (InputClass.findingsAfter hierarchy options attached)).getD []

theorem checkScheduled_static (canonical : store.Canonical) (knows : resolver.Knows attached)
    (inputs : List InputClass) {scheduled : List (EntityClass × Nat)}
    (declared : ∀ placed ∈ scheduled, ∃ input, inputs[placed.2]? = some input ∧
      input.Declared store placed.1) :
    checkScheduled load hierarchy options scheduled store (.static resolver) =
      pure (scheduled.map (fun placed =>
        (placed.2, findingsAt hierarchy options attached inputs placed.2))) := by
  induction scheduled generalizing store resolver with
  | nil => rfl
  | cons placed others ih =>
      obtain ⟨entity, place⟩ := placed
      obtain ⟨input, isAt, head⟩ := declared _ List.mem_cons_self
      let resolved := resolver.resolve entity.name
      let checked := (checkClass hierarchy options resolved.1 entity).run store
      obtain ⟨found, continues, known⟩ :=
        resolve_checkClass hierarchy options canonical knows head
      have rest := ih continues.canonical known (fun placed present => by
        obtain ⟨input, isAt, declared⟩ := declared placed (List.mem_cons_of_mem _ present)
        exact ⟨input, isAt, declared.later canonical continues.grows⟩)
      have here : findingsAt hierarchy options attached inputs place =
          input.findingsAfter hierarchy options attached := by
        rw [findingsAt, show inputs[place]? = some input from isAt]
        rfl
      rw [List.map_cons, here, ← found, checkScheduled, Resolver.resolve, pure_bind]
      change (checkScheduled load hierarchy options others checked.2 (.static resolved.2) >>=
        fun later => pure ((place, checked.1) :: later)) = _
      rw [rest, pure_bind]

omit [LawfulMonad m] in
theorem flatMap_findingsAt (inputs : List InputClass) :
    (List.range inputs.length).flatMap (findingsAt hierarchy options attached inputs) =
      inputs.flatMap (InputClass.findingsAfter hierarchy options attached) := by
  induction inputs with
  | nil => rfl
  | cons input others ih =>
      rw [List.length_cons, List.range_succ_eq_map, List.flatMap_cons, List.flatMap_map,
        List.flatMap_cons, ← ih]
      rfl

theorem lookup_placed (found : Nat → List Diagnostic) {places : List Nat} {place : Nat}
    (present : place ∈ places) :
    (places.map (fun place => (place, found place))).lookup place = some (found place) := by
  induction places with
  | nil => cases present
  | cons first others ih =>
      rw [List.map_cons, List.lookup_cons]
      by_cases here : place = first
      · simp [here]
      · have apart : (place == first) = false := by simpa using here
        rw [apart]
        exact ih ((List.mem_cons.mp present).resolve_left here)

/-- What is found for every place comes in the order of the input, whatever the order of the
places. -/
theorem inInputOrder_map (found : Nat → List Diagnostic) {places : List Nat} {count : Nat}
    (all : places.Perm (List.range count)) :
    inInputOrder count (places.map (fun place => (place, found place))) =
      (List.range count).flatMap found := by
  apply List.flatMap_congr
  intro place present
  rw [lookup_placed found (all.mem_iff.mpr present)]
  rfl

/-- Classes that are checked in any order are found what they are found in the order of the
input. -/
theorem inInputOrder_checkScheduled (canonical : store.Canonical) (knows : resolver.Knows attached)
    {inputs : List InputClass} {classes : List EntityClass}
    (declared : List.Forall₂ (fun input entity => input.Declared store entity) inputs classes)
    {scheduled : List (EntityClass × Nat)} (all : scheduled.Perm classes.zipIdx) :
    inInputOrder classes.length <$>
        checkScheduled load hierarchy options scheduled store (.static resolver) =
      pure (inputs.flatMap (InputClass.findingsAfter hierarchy options attached)) := by
  have placed (entity : EntityClass) (place : Nat) (present : (entity, place) ∈ scheduled) :
      ∃ input, inputs[place]? = some input ∧ input.Declared store entity := by
    obtain ⟨inside, rfl⟩ := List.getElem?_eq_some_iff.mp
      (List.mk_mem_zipIdx_iff_getElem?.mp (all.mem_iff.mp present))
    have insideInputs : place < inputs.length := declared.length_eq ▸ inside
    exact ⟨inputs[place], List.getElem?_eq_getElem insideInputs,
      declared.get insideInputs inside⟩
  have places : (scheduled.map Prod.snd).Perm (List.range classes.length) := by
    rw [List.range_eq_range', ← List.zipIdx_map_snd]
    exact all.map Prod.snd
  rw [checkScheduled_static load hierarchy options canonical knows inputs
    (fun both present => placed both.1 both.2 present), map_pure, ← flatMap_findingsAt,
    declared.length_eq, ← inInputOrder_map _ places, List.map_map]
  rfl

end Checking

/-! ### Runs -/

section Runs

variable {m : Type → Type} [Monad m] [LawfulMonad m] {ε : Type} (load : m (Except ε Snapshot))
  (options : CheckOptions) (input : AnalysisInput) {resolver : StaticResolver}
  {attached : List ClassMetadata}

theorem analyse_knows (knows : resolver.Knows attached) :
    ∃ next : StaticResolver, next.Knows (attached ++ input.mappings) ∧
      analyse load options input (.static resolver) =
        pure (⟨input.classes.flatMap (InputClass.findingsAfter
            (.ofEntries input.hierarchy) options (attached ++ input.mappings)),
          input.classes.length⟩, .static next) := by
  obtain ⟨continues, declared⟩ := InputClass.declareAll_ensures input.classes canonical_initial
  obtain ⟨next, known, checked⟩ := checkClasses_static load (.ofEntries input.hierarchy) options
    continues.canonical (knows.attachAll input.mappings) declared
  refine ⟨next.clear, known.clear, ?_⟩
  let read := (InputClass.declareAll input.classes).run .initial
  change (checkClasses load (.ofEntries input.hierarchy) options read.1 read.2
    ((Resolver.static resolver).attachAll input.classes) >>= fun found =>
      pure (AnalysisResult.mk found.1 read.1.length, found.2.clear)) = _
  rw [attachAll_static, ← AnalysisInput.mappings, checked, pure_bind, ← declared.length_eq]
  rfl

/-- A resolver that runs and other calls lead to, with the metadata that were attached, in order. -/
inductive StaticResolver.After : StaticResolver → List ClassMetadata → Prop
  | start : After {} []
  | attach {resolver : StaticResolver} {attached : List ClassMetadata}
      (after : After resolver attached) (metadata : ClassMetadata) :
      After (resolver.attach metadata) (attached ++ [metadata])
  | resolve {resolver : StaticResolver} {attached : List ClassMetadata}
      (after : After resolver attached) (name : String) : After (resolver.resolve name).2 attached
  | clear {resolver : StaticResolver} {attached : List ClassMetadata}
      (after : After resolver attached) : After resolver.clear attached
  | round {resolver next : StaticResolver} {attached : List ClassMetadata}
      (after : After resolver attached) (load : Id (Except String Snapshot))
      (options : CheckOptions) (input : AnalysisInput)
      (ended : (analyse load options input (.static resolver)).run.2 = .static next) :
      After next (attached ++ input.mappings)

theorem StaticResolver.After.knows (after : resolver.After attached) : resolver.Knows attached := by
  induction after with
  | start => exact knows_nothing
  | attach _ metadata ih => exact ih.attach metadata
  | resolve _ name ih => exact (ih.resolve name).2
  | clear _ ih => exact ih.clear
  | round _ load options input ended ih =>
      obtain ⟨next, known, finished⟩ := analyse_knows load options input ih
      rw [finished] at ended
      cases ended
      exact known

/-- Whatever a resolver was used for before, a run finds for every class in order, and for every
property of it in order, what a check with a new store finds for this property alone, with the
metadata attached last under the name of the class. Nothing is found for properties without a type
that can be read or without an association, and the classes may be checked in any order. -/
theorem analyse_independent (after : resolver.After attached) :
    let hierarchy := Hierarchy.ofEntries input.hierarchy
    let metadata (name : String) := lastAttached (attached ++ input.mappings) name
    let alone (checked : InputClass) (property : InputProperty) : List Diagnostic :=
      findingsAlone hierarchy options (metadata checked.name) checked.name checked.file property
    let diagnostics := input.classes.flatMap (fun checked =>
      checked.properties.flatMap (alone checked))
    let read := (InputClass.declareAll input.classes).run .initial
    (∃ next : StaticResolver, analyse load options input (.static resolver) =
      pure (⟨diagnostics, input.classes.length⟩, .static next)) ∧
    (∀ checked property, ((∀ text id, property.declaredType = some text →
        ((parseType text).run .initial).1 ≠ .ok id) ∨
        (metadata checked.name).bind (fun found => found.association? property.name) = none) →
      alone checked property = []) ∧
    ∀ scheduled : List (EntityClass × Nat), scheduled.Perm read.1.zipIdx →
      inInputOrder read.1.length <$> checkScheduled load hierarchy options scheduled read.2
          ((Resolver.static resolver).attachAll input.classes) =
        pure diagnostics := by
  intro hierarchy metadata alone diagnostics read
  have knows := after.knows
  obtain ⟨continues, declared⟩ := InputClass.declareAll_ensures input.classes canonical_initial
  refine ⟨?_, ?_, fun scheduled all => ?_⟩
  · obtain ⟨next, _, finished⟩ := analyse_knows load options input knows
    exact ⟨next, finished⟩
  · intro checked property missing
    exact findingsAlone_nil hierarchy options _ _ _
      (missing.imp_left InputProperty.tree_eq_none)
  · rw [attachAll_static, ← AnalysisInput.mappings]
    exact inInputOrder_checkScheduled load hierarchy options continues.canonical
      (knows.attachAll input.mappings) declared all

end Runs

/-- The class `Shop` is first attached as a superclass and looked up. -/
def shopSuperclass : ClassMetadata := { name := "shop", isMappedSuperclass := true }

def shopResolver : StaticResolver :=
  ((StaticResolver.attach {} shopSuperclass).resolve "Shop").2

/-- Two classes of one name, of which the second has the mapping of both. The type of the owner
cannot be read. -/
def shopInput : AnalysisInput where
  classes :=
    [ { name := "\\SHOP", properties := [⟨"manager", some "int", 7⟩] },
      { name := "Shop"
        mapping := some { name := "Shop", associations := [("manager",
          { fieldName := "manager", kind := .manyToOne, targetEntity := "User"
            joinColumns := [{ nullable := some false }] })] }
        properties := [⟨"owner", some "User|", 3⟩, ⟨"manager", some "User|null", 5⟩] } ]

def missingSnapshot : Id (Except String Snapshot) := .error "no snapshot"

theorem analyse_independent_shop :
    shopResolver.After [shopSuperclass] ∧
      (analyse missingSnapshot {} shopInput (.static shopResolver)).run.1.diagnostics.map
        (fun found => (found.line, found.code)) = [(7, 9001), (7, 9002), (5, 9002)] := by
  have after : shopResolver.After [shopSuperclass] :=
    (StaticResolver.After.start.attach shopSuperclass).resolve "Shop"
  obtain ⟨⟨next, finished⟩, _⟩ := analyse_independent missingSnapshot {} shopInput after
  refine ⟨after, ?_⟩
  rw [finished, Id.run_pure]
  dsimp only
  decide +kernel

end AssociationCheck
