/-
Learning more of the hierarchy creates no finding.

Entries that follow those of an input only add edges to its hierarchy, so more classes are known to
derive from others. What fitted before fits then, in the form in which it is compared then, and what
is still found for a property is worded as before.
-/

import AssociationCheck.Proofs.Analysis.Answers
import AssociationCheck.Proofs.Hierarchy.Changes
import AssociationCheck.Proofs.Rule.Learning

namespace AssociationCheck

open Building TypeStore

/-! ### Hierarchies -/

def HierarchyEntry.names (entry : HierarchyEntry) : List String := entry.name :: entry.parents

namespace Hierarchy

variable {hierarchy : Hierarchy} {named : Set ClassKey} {entries extra : List HierarchyEntry}

theorem AcyclicOn.addTo (sound : hierarchy.AcyclicOn named) (few : named.encard ≤ walkLimit)
    (entry : HierarchyEntry) (among : keys entry.names ⊆ named) :
    (entry.addTo hierarchy).AcyclicOn named ∧
      ∀ child parent, hierarchy.Parent child parent →
        (entry.addTo hierarchy).Parent child parent := by
  have parents : ∀ parent ∈ entry.parents, ClassKey.of parent ∈ named :=
    fun parent present => among ⟨parent, List.mem_cons_of_mem _ present, rfl⟩
  obtain ⟨_, _, _, edges, kept⟩ := (sound.declare _).addInheritance few entry.name parents
  refine ⟨kept, fun child parent edge => (edges child parent).mpr (.inl ?_)⟩
  simpa only [Parent, parents_declare] using edge

theorem AcyclicOn.foldl_addTo (sound : hierarchy.AcyclicOn named) (few : named.encard ≤ walkLimit)
    (among : keys (entries.flatMap HierarchyEntry.names) ⊆ named) :
    (entries.foldl HierarchyEntry.addTo hierarchy).AcyclicOn named ∧
      ∀ child parent, hierarchy.Parent child parent →
        (entries.foldl HierarchyEntry.addTo hierarchy).Parent child parent := by
  induction entries generalizing hierarchy with
  | nil => exact ⟨sound, fun _ _ edge => edge⟩
  | cons entry others ih =>
      rw [List.flatMap_cons, keys_append, Set.union_subset_iff] at among
      obtain ⟨soundNext, edgesNext⟩ := sound.addTo few entry among.1
      obtain ⟨soundLast, edgesLast⟩ := ih soundNext among.2
      exact ⟨soundLast, fun child parent edge => edgesLast _ _ (edgesNext child parent edge)⟩

/-- A hierarchy with more entries knows every derivation of the one with fewer. -/
theorem isSameOrDerived_ofEntries_append
    (few : (keys (standardClasses.map Prod.fst ++
      (entries ++ extra).flatMap HierarchyEntry.names)).encard ≤ walkLimit)
    {child ancestor : String}
    (related : (ofEntries entries).isSameOrDerived child ancestor = true) :
    (ofEntries (entries ++ extra)).isSameOrDerived child ancestor = true := by
  have standardAmong : keys (standardClasses.map Prod.fst) ⊆ keys (standardClasses.map Prod.fst ++
      (entries ++ extra).flatMap HierarchyEntry.names) := by
    rw [keys_append]
    exact Set.subset_union_left
  have entriesAmong : keys (entries.flatMap HierarchyEntry.names) ⊆
      keys (standardClasses.map Prod.fst ++ (entries ++ extra).flatMap HierarchyEntry.names) := by
    rw [List.flatMap_append, keys_append, keys_append]
    exact Set.subset_union_left.trans Set.subset_union_right
  have extraAmong : keys (extra.flatMap HierarchyEntry.names) ⊆
      keys (standardClasses.map Prod.fst ++ (entries ++ extra).flatMap HierarchyEntry.names) := by
    rw [List.flatMap_append, keys_append, keys_append]
    exact Set.subset_union_right.trans Set.subset_union_right
  obtain ⟨sound, _⟩ := (acyclicOn_standard few standardAmong).foldl_addTo few entriesAmong
  obtain ⟨soundMore, edges⟩ := sound.foldl_addTo few extraAmong
  rw [ofEntries, List.foldl_append,
    isSameOrDerived_iff_reaches (soundMore.fewAncestors few (.of child))]
  exact Relation.ReflTransGen.mono edges _ _ (reaches_of_isSameOrDerived related)

end Hierarchy

/-! ### Findings -/

/-- Where more fits, fewer diagnostics are found, with the same texts. -/
theorem findings_sublist (entity : EntityClass) (property : DeclaredProperty)
    (expected declared : String) {database databaseMore fits fitsMore : Bool}
    (fromDatabase : database = true → databaseMore = true)
    (fromProperty : fits = true → fitsMore = true) :
    (findings entity property databaseMore fitsMore expected declared).Sublist
      (findings entity property database fits expected declared) := by
  have single {before after : Bool} (keeps : before = true → after = true)
      (diagnostic : Diagnostic) : (if after then [] else [diagnostic]).Sublist
        (if before then [] else [diagnostic]) := by
    cases before with
    | false => cases after <;> simp
    | true => simp [keeps rfl]
  exact (single fromDatabase _).append (single fromProperty _)

section Property

variable {hierarchy further : Hierarchy} {options : CheckOptions}
  (learns : ∀ child ancestor, hierarchy.isSameOrDerived child ancestor = true →
    further.isSameOrDerived child ancestor = true)
include learns

theorem checkProperty_learning {store : TypeStore} (canonical : store.Canonical)
    {written : TypeId} (known : store.Contains written) (association : Association)
    (unlimited : ∀ answer ∈ (comparison further options association written store).answers further,
      answer.limited = false)
    (entity : EntityClass) (property : DeclaredProperty) :
    ((checkProperty further options entity property written association).run store).1.Sublist
      ((checkProperty hierarchy options entity property written association).run store).1 := by
  have before : (comparison hierarchy options association written store).Shows store hierarchy
      options association written := comparison_shows canonical known
  have after : (comparison further options association written store).Shows store further
      options association written := comparison_shows canonical known
  have normal := canonical.tree_normal known
  obtain ⟨expectedText, writtenText⟩ := after.texts_eq canonical known before rfl
  rw [checkProperty_comparison, checkProperty_comparison]
  dsimp only
  rw [expectedText, writtenText]
  apply findings_sublist
  · intro fits
    have trees := Subtype.fits_of_isSubtype before.continues.canonical before.expectedKnown
      before.declaredKnown fits
    rw [before.expected, before.declared] at trees
    have treesMore := Association.database_fits_learning learns normal trees
    rw [← after.expected, ← after.declared] at treesMore
    have yes := Subtype.relate_yes_of_fits after.continues.canonical after.expectedKnown
      after.declaredKnown treesMore (unlimited _ List.mem_cons_self)
    rw [Comparison.database, yes]
    rfl
  · intro fits
    have trees := Subtype.fits_of_isSubtype before.continues.canonical before.storedKnown
      before.expectedKnown fits
    rw [before.expected, before.stored] at trees
    have treesMore := Association.property_fits_learning learns normal trees
    rw [← after.stored, ← after.expected] at treesMore
    have yes := Subtype.relate_yes_of_fits after.continues.canonical after.storedKnown
      after.expectedKnown treesMore (unlimited _ (List.mem_cons_of_mem _ List.mem_cons_self))
    rw [Comparison.property, yes]
    rfl

theorem checkMapped_learning {store : TypeStore} (canonical : store.Canonical)
    {metadata : ClassMetadata} {property : DeclaredProperty}
    (known : ∀ id, property.declaredType = some id → store.Contains id)
    (unlimited : ∀ answer ∈ mappedAnswers further options metadata property store,
      answer.limited = false)
    (entity : EntityClass) :
    ((checkMapped further options metadata entity property).run store).1.Sublist
      ((checkMapped hierarchy options metadata entity property).run store).1 := by
  unfold mappedAnswers at unlimited
  unfold checkMapped
  cases typed : property.declaredType with
  | none => exact .slnil
  | some written =>
      cases mapped : metadata.association? property.name with
      | none => exact .slnil
      | some association =>
          rw [typed, mapped] at unlimited
          exact checkProperty_learning learns canonical (known written typed) association unlimited
            entity property

theorem findingsAlone_learning (metadata : Option ClassMetadata) (name file : String)
    (input : InputProperty)
    (unlimited : ∀ answer ∈ answersAlone further options metadata input, answer.limited = false) :
    (findingsAlone further options metadata name file input).Sublist
      (findingsAlone hierarchy options metadata name file input) := by
  cases metadata with
  | none => exact .slnil
  | some metadata =>
      obtain ⟨continues, declared⟩ := input.declare_ensures canonical_initial
      rw [findingsAlone_some, findingsAlone_some]
      exact checkMapped_learning learns continues.canonical declared.known unlimited _

end Property

/-! ### Runs -/

section Runs

variable {m : Type → Type} [Monad m] [LawfulMonad m] {ε : Type} (load : m (Except ε Snapshot))
  (options : CheckOptions) (input : AnalysisInput) {resolver : StaticResolver}
  {attached : List ClassMetadata}

/-- Entries of the hierarchy that follow those of an input create no finding: what a run finds with
them is, text by text, among what it finds without them, as long as few classes are named and no
answer of the run with them meets the limit. -/
theorem analyse_learning (after : resolver.After attached) (extra : List HierarchyEntry)
    (few : (Hierarchy.keys (Hierarchy.standardClasses.map Prod.fst ++
      (input.hierarchy ++ extra).flatMap HierarchyEntry.names)).encard ≤ Hierarchy.walkLimit)
    (unlimited : ∀ answer ∈ runAnswers options (input.append { hierarchy := extra }) resolver,
      answer.limited = false) :
    ∃ (without more : AnalysisResult) (next nextMore : StaticResolver),
      analyse load options input (.static resolver) = pure (without, .static next) ∧
      analyse load options (input.append { hierarchy := extra }) (.static resolver) =
        pure (more, .static nextMore) ∧
      more.diagnostics.Sublist without.diagnostics ∧
      more.classesChecked = without.classesChecked := by
  have knows := after.knows
  obtain ⟨next, _, finished⟩ := analyse_knows load options input knows
  obtain ⟨nextMore, _, finishedMore⟩ :=
    analyse_knows load options (input.append { hierarchy := extra }) knows
  refine ⟨_, _, next, nextMore, finished, finishedMore, ?_, ?_⟩
  · have learns : ∀ child ancestor,
        (Hierarchy.ofEntries input.hierarchy).isSameOrDerived child ancestor = true →
        (Hierarchy.ofEntries (input.hierarchy ++ extra)).isSameOrDerived child ancestor = true :=
      fun child ancestor related => Hierarchy.isSameOrDerived_ofEntries_append few related
    rw [runAnswers_alone options _ knows] at unlimited
    simp only [AnalysisInput.append, AnalysisInput.mappings, List.append_nil] at unlimited ⊢
    apply List.Sublist.flatMap_right
    intro checked isChecked
    apply List.Sublist.flatMap_right
    intro property isProperty
    apply findingsAlone_learning learns
    intro answer isAnswer
    exact unlimited answer (List.mem_flatMap.mpr ⟨checked, isChecked,
      List.mem_flatMap.mpr ⟨property, isProperty, isAnswer⟩⟩)
  · simp [AnalysisInput.append]

end Runs

def clubInput : AnalysisInput where
  classes :=
    [ { name := "Club"
        mapping := some { name := "Club", associations := [("members",
          { fieldName := "members", kind := .oneToMany, targetEntity := "Member" })] }
        properties := [⟨"members", some "Bag<Member>", 4⟩] } ]

/-- A bag is a collection, and not the other way round. -/
def bagEntries : List HierarchyEntry :=
  [ { name := "\\bag", parents := [Hierarchy.collection] },
    { name := Hierarchy.collection, parents := ["Bag"] } ]

/-- With a bag known to be a collection, the database still may hold collections that are none. -/
theorem analyse_learning_club :
    let without := analyse missingSnapshot {} clubInput (.static {})
    let more := analyse missingSnapshot {} (clubInput.append { hierarchy := bagEntries })
      (.static {})
    more.run.1.diagnostics.Sublist without.run.1.diagnostics ∧
      without.run.1.diagnostics.map (fun found => (found.line, found.code)) =
        [(4, 9001), (4, 9002)] ∧
      more.run.1.diagnostics.map (fun found => (found.line, found.code)) = [(4, 9001)] := by
  intro without more
  have few : (Hierarchy.keys (Hierarchy.standardClasses.map Prod.fst ++
      (clubInput.hierarchy ++ bagEntries).flatMap HierarchyEntry.names)).encard ≤
        Hierarchy.walkLimit := Hierarchy.few_keys (by decide)
  -- One computation for all three, since each would read the standard classes again.
  obtain ⟨unlimited, found⟩ :
      (∀ answer ∈ runAnswers {} (clubInput.append { hierarchy := bagEntries }) {},
        answer.limited = false) ∧
      without.run.1.diagnostics.map (fun found => (found.line, found.code)) =
        [(4, 9001), (4, 9002)] ∧
      more.run.1.diagnostics.map (fun found => (found.line, found.code)) = [(4, 9001)] := by
    decide +kernel
  obtain ⟨_, _, _, _, finished, finishedMore, fewer, _⟩ :=
    analyse_learning missingSnapshot {} clubInput .start bagEntries few unlimited
  refine ⟨?_, found⟩
  dsimp only [without, more]
  rw [finished, finishedMore]
  exact fewer

end AssociationCheck
