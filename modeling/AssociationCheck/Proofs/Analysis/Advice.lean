/-
Following the advice of a diagnostic.

A diagnostic shows the type that the mapping expects. Where its class names are read as they are
written, a property that is declared with that text is compared as the expected type itself, so
nothing is found for it, with null tolerated or not.
-/

import AssociationCheck.Proofs.Analysis.Answers
import AssociationCheck.Proofs.Rule.WithoutNull
import AssociationCheck.Proofs.Subtype.Settled
import AssociationCheck.Proofs.TypeExpr.RoundTrip

namespace AssociationCheck

open Building TypeStore

variable {hierarchy : Hierarchy} {options : CheckOptions} {association : Association}

/-! ### Expected trees -/

namespace TypeTree

theorem withNull_instances (name : String) :
    (instances name).withNull = .union [instances name, .scalar .null] := by
  have form : UnitedMembers (.scalar .mixed) (.scalar .never) (.scalar .null)
      [instances name, .scalar .null] := by
    constructor <;> simp [instances]
  have whole : ∀ member ∈ [instances name, .scalar .null], member.unionMembers = [member] := by
    simp [instances, unionMembers]
  exact unite_members form whole

theorem shown_of_writtenParts_nil {tree : TypeTree} (none : tree.writtenParts = [])
    (levels : Nat) : tree.ShownWithin (levels + 1) := by
  rw [ShownWithin, none]
  exact List.forall_mem_nil _

theorem shown_of_pair {tree first second : TypeTree} {levels : Nat}
    (parts : tree.writtenParts = [first, second]) (firstShown : first.ShownWithin levels)
    (secondShown : second.ShownWithin levels) : tree.ShownWithin (levels + 1) := by
  rw [ShownWithin, parts]
  exact List.forall_mem_cons.mpr ⟨firstShown, List.forall_mem_singleton.mpr secondShown⟩

/-- A tree that is expected as it is declared fits with null tolerated or not. -/
theorem Normal.forProperty_self {tree : TypeTree} (normal : tree.Normal) :
    TypeTree.forProperty options tree tree = tree := by
  unfold TypeTree.forProperty
  split
  · rename_i tolerated
    rw [Bool.and_eq_true, Bool.not_eq_true'] at tolerated
    exact normal.withoutNull_eq tolerated.2
  · rfl

end TypeTree

namespace Association

open TypeTree

theorem expectedTree_eq (options : CheckOptions) (association : Association) :
    association.expectedTree options =
      if association.isToMany then
        .intersection [instances options.collectionInterface,
          yielding (instances association.targetEntity)]
      else if association.expectsNull then
        .union [instances association.targetEntity, .scalar .null]
      else instances association.targetEntity := by
  rw [← collectionOf_eq, ← withNull_instances]
  rfl

theorem comparedTree_expectedTree :
    association.comparedTree hierarchy options (association.expectedTree options) =
      association.expectedTree options := by
  unfold comparedTree expectedTree
  cases association.isToMany with
  | true => exact normalize_collectionOf _ (normal_instances association.targetEntity)
  | false => rfl

theorem shown_expectedTree (levels : Nat) :
    (association.expectedTree options).ShownWithin (levels + 3) := by
  have target : ∀ levels, (instances association.targetEntity).ShownWithin (levels + 1) :=
    shown_of_writtenParts_nil rfl
  rw [expectedTree_eq]
  split
  · refine shown_of_pair rfl (shown_of_writtenParts_nil rfl (levels + 1)) ?_
    rw [ShownWithin]
    exact List.forall_mem_singleton.mpr (target levels)
  · split
    · exact shown_of_pair rfl (target (levels + 1)) (shown_of_writtenParts_nil rfl (levels + 1))
    · exact target (levels + 2)

variable (target : ReadableName (withoutLeadingSeparators association.targetEntity))
  (interface : association.isToMany = true →
    ReadableName (withoutLeadingSeparators options.collectionInterface))
include target interface

theorem readable_expectedTree :
    ∀ name ∈ (association.expectedTree options).classNames, ReadableName name := by
  rw [expectedTree_eq]
  split
  · rename_i toMany
    simpa [instances, yielding, classNames, classNamesOf] using ⟨interface toMany, target⟩
  · split <;> simpa [instances, classNames, classNamesOf] using target

end Association

/-! ### Reading the advice -/

def Association.advice (options : CheckOptions) (association : Association)
    (printed : TypeStore) : String :=
  let made := (expectedType options association).run printed
  made.2.text made.1

section Advice

variable {store printed : TypeStore} {written : TypeId} (canonicalPrinted : printed.Canonical)
  (target : ReadableName (withoutLeadingSeparators association.targetEntity))
  (interface : association.isToMany = true →
    ReadableName (withoutLeadingSeparators options.collectionInterface))
include canonicalPrinted target interface

theorem treeOfText_advice :
    TypeExpr.treeOfText (association.advice options printed) =
      .ok (association.expectedTree options) := by
  obtain ⟨continues, known, tree⟩ := expectedType_makes options canonicalPrinted association
  let made := (expectedType options association).run printed
  have printable : made.2.Printable made.1 := by
    constructor
    · rw [tree]
      exact association.readable_expectedTree target interface
    · -- Texts have 32 levels, of which three are needed.
      rw [tree]
      exact association.shown_expectedTree 29
  have read := continues.canonical.treeOfText_text known printable
  rwa [tree] at read

/-- In any store the advice is read as the type that is then expected. -/
theorem parseType_advice (canonical : store.Canonical) :
    Ensures (parseType (association.advice options printed)) store (fun parsed later =>
      parsed = .ok ((expectedType options association).run later).1) := by
  obtain ⟨continues, known, means⟩ := parseType_makes (association.advice options printed) canonical
  rw [treeOfText_advice canonicalPrinted target interface] at means
  unfold Ensures
  cases parsed : ((parseType (association.advice options printed)).run store).1 with
  | error problem =>
      rw [parsed] at means
      cases means
  | ok id =>
      rw [parsed] at means
      obtain ⟨further, expectedKnown, tree⟩ :=
        expectedType_makes options continues.canonical association
      have idKnown := known id parsed
      have stays := continues.canonical.tree_later further.grows idKnown
      have same := stays.trans ((Except.ok.inj means).trans tree.symm)
      rw [further.canonical.eq_of_tree_eq (further.grows.contains idKnown) expectedKnown same]

end Advice

/-! ### Checking what was advised -/

section Checks

variable {store : TypeStore} {written : TypeId}

theorem checkProperty_expected (canonical : store.Canonical) (known : store.Contains written)
    (means : store.tree written = association.expectedTree options) (entity : EntityClass)
    (property : DeclaredProperty) :
    ((checkProperty hierarchy options entity property written association).run store).1 = [] := by
  have shows : (comparison hierarchy options association written store).Shows store hierarchy
      options association written := comparison_shows canonical known
  rw [checkProperty_comparison]
  generalize comparison hierarchy options association written store = compared at shows
  have canonicalLast := shows.continues.canonical
  have normal := canonicalLast.tree_normal shows.expectedKnown
  -- All three types of the comparison have the expected tree, so they are one type.
  have compares : association.comparedTree hierarchy options (store.tree written) =
      compared.store.tree compared.expected := by
    rw [means, Association.comparedTree_expectedTree, shows.expected]
  have declared : compared.declared = compared.expected :=
    canonicalLast.eq_of_tree_eq shows.declaredKnown shows.expectedKnown
      (shows.declared.trans compares)
  have stored : compared.stored = compared.expected := by
    apply canonicalLast.eq_of_tree_eq shows.storedKnown shows.expectedKnown
    rw [shows.stored, compares, ← shows.expected, normal.forProperty_self]
  have itself :
      (relate compared.store hierarchy compared.expected compared.expected).verdict.isYes = true :=
    beq_iff_eq.mpr (Subtype.below_refl _ compared.expected)
  dsimp only [Comparison.database, Comparison.property]
  rw [declared, stored, itself]
  rfl

theorem findingsAlone_expected (hierarchy : Hierarchy) (options : CheckOptions)
    {metadata : ClassMetadata} {input : InputProperty}
    (mapped : metadata.association? input.name = some association)
    (means : input.tree = some (association.expectedTree options)) (name file : String) :
    findingsAlone hierarchy options (some metadata) name file input = [] := by
  obtain ⟨continues, declared⟩ := input.declare_ensures canonical_initial
  obtain ⟨written, typed, tree⟩ := Option.map_eq_some_iff.mp (declared.tree.trans means)
  rw [← declared.name] at mapped
  rw [findingsAlone_some]
  dsimp only
  rw [checkMapped_eq hierarchy options metadata _ _ typed mapped]
  exact checkProperty_expected continues.canonical (declared.known written typed) tree _ _

/-- What is found for a class after its types have been read. -/
def InputClass.diagnostics (hierarchy : Hierarchy) (options : CheckOptions)
    (metadata : ClassMetadata) (input : InputClass) (store : TypeStore) : List Diagnostic :=
  ((do
    let entity ← input.declare
    checkClass hierarchy options (some metadata) entity : Building (List Diagnostic)).run store).1

theorem InputClass.diagnostics_eq (canonical : store.Canonical) (metadata : ClassMetadata)
    (input : InputClass) :
    input.diagnostics hierarchy options metadata store =
      input.findings hierarchy options (some metadata) := by
  obtain ⟨continues, declared⟩ := input.declare_ensures canonical
  obtain ⟨_, found⟩ :=
    checkClass_alone hierarchy options (some metadata) continues.canonical declared
  exact found

/-- Where the names of the target and of the interface of collections are read as they are written,
the text of the expected type is read as that type in any store, and nothing is found for a property
that is declared with it, whatever stands beside it and whether null is tolerated or not. -/
theorem checkClass_advice (hierarchy : Hierarchy) {printed : TypeStore}
    (canonicalPrinted : printed.Canonical) (canonical : store.Canonical)
    (metadata : ClassMetadata) (input : InputClass)
    (property : InputProperty) (before after : List InputProperty)
    (mapped : metadata.association? property.name = some association)
    (target : ReadableName (withoutLeadingSeparators association.targetEntity))
    (interface : association.isToMany = true →
      ReadableName (withoutLeadingSeparators options.collectionInterface))
    (advised : property.declaredType = some (association.advice options printed)) :
    (let read := (parseType (association.advice options printed)).run store
     read.1 = .ok ((expectedType options association).run read.2).1) ∧
    ∀ tolerates : Bool,
      let diagnostics (properties : List InputProperty) :=
        { input with properties := properties }.diagnostics hierarchy
          { options with allowNullable := tolerates } metadata store
      diagnostics (before ++ property :: after) = diagnostics (before ++ after) := by
  refine ⟨parseType_advice canonicalPrinted target interface canonical, fun tolerates => ?_⟩
  have means : property.tree = some (association.expectedTree options) := by
    rw [InputProperty.tree, advised, Option.bind_some,
      treeOfText_advice canonicalPrinted target interface]
    rfl
  intro diagnostics
  have silent := findingsAlone_expected hierarchy { options with allowNullable := tolerates } mapped
    means input.name input.file
  dsimp only [diagnostics]
  rw [InputClass.diagnostics_eq canonical, InputClass.diagnostics_eq canonical,
    InputClass.findings, InputClass.findings, List.flatMap_append, List.flatMap_cons, silent,
    List.nil_append, ← List.flatMap_append]

end Checks

def choirMetadata : ClassMetadata where
  name := "Choir"
  associations :=
    [("conductor",
        { fieldName := "conductor", kind := .manyToOne, targetEntity := "Conductor" }),
      ("singers", { fieldName := "singers", kind := .oneToMany, targetEntity := "\\Singer" })]

/-- The singers are declared as advised; the conductor is not. -/
theorem checkClass_advice_choir :
    let advice := "Doctrine\\Common\\Collections\\Collection&iterable<Singer>"
    let conductor : InputProperty := ⟨"conductor", some "int", 3⟩
    let diagnostics (tolerates : Bool) (properties : List InputProperty) :=
      InputClass.diagnostics .empty { allowNullable := tolerates } choirMetadata
        { name := "Choir", properties := properties } initial
    (∀ tolerates, diagnostics tolerates [conductor, ⟨"singers", some advice, 4⟩] =
      diagnostics tolerates [conductor]) ∧
    (diagnostics true [conductor]).map (fun found => (found.line, found.code)) =
      [(3, 9001), (3, 9002)] := by
  intro advice conductor diagnostics
  obtain ⟨association, mapped, target, printed⟩ : ∃ association,
      choirMetadata.association? "singers" = some association ∧
      ReadableName (withoutLeadingSeparators association.targetEntity) ∧
      association.advice {} initial = advice :=
    ⟨_, rfl, by decide +kernel, by decide +kernel⟩
  refine ⟨fun tolerates => ?_, by decide +kernel⟩
  obtain ⟨_, silent⟩ := checkClass_advice .empty canonical_initial canonical_initial choirMetadata
    { name := "Choir" } ⟨"singers", some advice, 4⟩ [conductor] [] mapped target
    (fun _ => by decide +kernel) (congrArg some printed.symm)
  exact silent tolerates

end AssociationCheck
