/-
Consistent entries may come in any order.

Entries are consistent when no class is declared twice and their parents, together with those of
the classes that are always there, lead in no circle. Then no parent is refused, whatever the order
of the entries, since a refusal would need a path that closes a circle with the refused edge. The
edges of the hierarchy are those that the entries declare, and what else it records of a class is
what the one entry for it says, so the answers of the hierarchy do not depend on the order.
-/

import AssociationCheck.Analysis.Run
import AssociationCheck.Proofs.Hierarchy.Changes

namespace AssociationCheck

/-! ### Declared parents -/

namespace HierarchyEntry

def kind (entry : HierarchyEntry) : ClassKind := if entry.isInterface then .interface else .concrete

def closed (entry : HierarchyEntry) : Bool := !entry.isInterface && entry.isFinal

def info (entry : HierarchyEntry) : ClassInfo :=
  ⟨withoutLeadingSeparators entry.name, entry.kind, entry.closed, []⟩

theorem addTo_eq (hierarchy : Hierarchy) (entry : HierarchyEntry) :
    entry.addTo hierarchy =
      ((hierarchy.declare entry.info).addInheritance entry.name entry.parents).2 := rfl

def pairs (entry : HierarchyEntry) : List (ClassKey × ClassKey) :=
  entry.parents.map fun parent => (.of entry.name, .of parent)

theorem mem_pairs (entry : HierarchyEntry) (child parent : ClassKey) :
    (child, parent) ∈ entry.pairs ↔
      child = .of entry.name ∧ parent ∈ entry.parents.map ClassKey.of := by
  simp only [pairs, List.mem_map, Prod.mk.injEq]
  constructor
  · rintro ⟨name, present, rfl, rfl⟩
    exact ⟨rfl, name, present, rfl⟩
  · rintro ⟨rfl, name, present, rfl⟩
    exact ⟨name, present, rfl, rfl⟩

end HierarchyEntry

namespace Hierarchy

variable {hierarchy first second : Hierarchy} {named : Set ClassKey} {child parent : String}
  {entries order : List HierarchyEntry}

def standardEntries : List HierarchyEntry :=
  standardClasses.map fun (name, kind, parents) =>
    { name := name, parents := parents, isInterface := kind == .interface }

theorem standard_eq : standard = standardEntries.foldl HierarchyEntry.addTo empty := by
  have same (hierarchy : Hierarchy) (name : String) (kind : ClassKind) (parents : List String) :
      (hierarchy.declareClass name kind false parents).2 =
        HierarchyEntry.addTo hierarchy
          { name := name, parents := parents, isInterface := kind == .interface } := by
    cases kind <;> rfl
  rw [standard, standardEntries, List.foldl_map]
  simp only [same]

theorem ofEntries_eq (entries : List HierarchyEntry) :
    ofEntries entries = (standardEntries ++ entries).foldl HierarchyEntry.addTo empty := by
  rw [ofEntries, standard_eq, List.foldl_append]

def takesAll (hierarchy : Hierarchy) : List HierarchyEntry → Bool
  | [] => true
  | entry :: others =>
      (hierarchy.declareClass entry.name entry.kind entry.closed entry.parents).1 &&
        (entry.addTo hierarchy).takesAll others

theorem takesAll_append (before after : List HierarchyEntry) :
    hierarchy.takesAll (before ++ after) =
      (hierarchy.takesAll before &&
        (before.foldl HierarchyEntry.addTo hierarchy).takesAll after) := by
  induction before generalizing hierarchy with
  | nil => rfl
  | cons entry others ih =>
      rw [List.cons_append, takesAll, takesAll, ih, List.foldl_cons, Bool.and_assoc]

/-! ### No parent is refused -/

/-- Where all parents that a child is given lead in no circle, it takes all of them over. -/
theorem TakesOver.all {child : ClassKey} {edges : ClassKey → ClassKey → Prop}
    {given taken : List ClassKey} (takes : TakesOver child edges given taken)
    (acyclic : ∀ key, ¬ Relation.TransGen
      (fun source target => edges source target ∨ (source = child ∧ target ∈ given)) key key) :
    taken = given := by
  induction takes with
  | none => rfl
  | @refused edges parent others taken back _ _ =>
      -- The path for which the parent was refused closes a circle with the refused edge.
      have upward : Relation.ReflTransGen (fun source target =>
          edges source target ∨ (source = child ∧ target ∈ parent :: others)) parent child :=
        Relation.ReflTransGen.mono (fun _ _ => Or.inl) _ _ back
      exact absurd (Relation.TransGen.head' (.inr ⟨rfl, List.mem_cons_self⟩) upward)
        (acyclic child)
  | @taken edges parent others taken _ _ ih =>
      rw [ih]
      intro key circle
      apply acyclic key
      refine Relation.TransGen.mono (fun source target edge => ?_) _ _ circle
      rcases edge with (old | ⟨isChild, isParent⟩) | ⟨isChild, later⟩
      · exact .inl old
      · exact .inr ⟨isChild, isParent ▸ List.mem_cons_self⟩
      · exact .inr ⟨isChild, List.mem_cons_of_mem parent later⟩

namespace AcyclicOn

theorem addTo_all (sound : hierarchy.AcyclicOn named) (few : named.encard ≤ walkLimit)
    (entry : HierarchyEntry) (among : ∀ pair ∈ entry.pairs, pair.2 ∈ named)
    (acyclic : ∀ key, ¬ Relation.TransGen
      (fun child parent => hierarchy.Parent child parent ∨ (child, parent) ∈ entry.pairs)
        key key) :
    (hierarchy.declareClass entry.name entry.kind entry.closed entry.parents).1 = true ∧
      (∀ child parent, (entry.addTo hierarchy).Parent child parent ↔
        hierarchy.Parent child parent ∨ (child, parent) ∈ entry.pairs) ∧
      (entry.addTo hierarchy).AcyclicOn named := by
  have sameEdges : (hierarchy.declare entry.info).Parent = hierarchy.Parent := by
    funext child parent
    simp only [Parent, parents_declare]
  have given : ∀ parent ∈ entry.parents, ClassKey.of parent ∈ named :=
    fun parent present => among _ (List.mem_map_of_mem present)
  obtain ⟨taken, takes, all, edges, kept⟩ :=
    (sound.declare entry.info).addInheritance few entry.name given
  rw [sameEdges] at takes edges
  have takesEach : taken = entry.parents.map .of := by
    apply takes.all
    intro key circle
    apply acyclic key
    refine Relation.TransGen.mono (fun child parent edge => ?_) _ _ circle
    exact edge.imp_right (entry.mem_pairs child parent).mpr
  refine ⟨all.mpr takesEach, fun child parent => ?_, kept⟩
  rw [entry.mem_pairs, ← takesEach]
  exact edges child parent

theorem foldl_addTo_all (few : named.encard ≤ walkLimit)
    (among : ∀ pair ∈ entries.flatMap HierarchyEntry.pairs, pair.2 ∈ named)
    (acyclic : ∀ key, ¬ Relation.TransGen (fun child parent => hierarchy.Parent child parent ∨
      (child, parent) ∈ entries.flatMap HierarchyEntry.pairs) key key)
    (sound : hierarchy.AcyclicOn named) :
    hierarchy.takesAll entries = true ∧
      (∀ child parent, (entries.foldl HierarchyEntry.addTo hierarchy).Parent child parent ↔
        hierarchy.Parent child parent ∨
          (child, parent) ∈ entries.flatMap HierarchyEntry.pairs) ∧
      (entries.foldl HierarchyEntry.addTo hierarchy).AcyclicOn named := by
  induction entries generalizing hierarchy with
  | nil => exact ⟨rfl, fun child parent => by simp, sound⟩
  | cons entry others ih =>
      simp only [List.flatMap_cons, List.mem_append] at among acyclic ⊢
      obtain ⟨taken, edges, soundNext⟩ := sound.addTo_all few entry
        (fun pair present => among pair (.inl present)) (fun key circle => acyclic key
          (Relation.TransGen.mono (fun _ _ edge => edge.imp_right .inl) _ _ circle))
      -- The edges of the entry have moved from the declared pairs into the hierarchy.
      have acyclicNext : ∀ key, ¬ Relation.TransGen (fun child parent =>
          (entry.addTo hierarchy).Parent child parent ∨
            (child, parent) ∈ others.flatMap HierarchyEntry.pairs) key key := by
        intro key circle
        apply acyclic key
        refine Relation.TransGen.mono (fun child parent edge => ?_) _ _ circle
        rw [edges, or_assoc] at edge
        exact edge
      obtain ⟨takenLater, edgesLater, kept⟩ :=
        ih (fun pair present => among pair (.inr present)) acyclicNext soundNext
      refine ⟨?_, fun child parent => ?_, kept⟩
      · rw [takesAll, taken, takenLater, Bool.and_self]
      · rw [List.foldl_cons, edgesLater, edges, or_assoc]

end AcyclicOn

/-! ### What else is recorded of a class -/

def mark? (hierarchy : Hierarchy) (key : ClassKey) : Option (ClassKind × Bool) :=
  (hierarchy.find? key).map fun info => (info.kind, info.isFinal)

theorem contains_eq (name : String) :
    hierarchy.contains name = (hierarchy.mark? (.of name)).isSome := by
  rw [mark?, Option.isSome_map]
  rfl

theorem isInterface_eq (name : String) :
    hierarchy.isInterface name =
      (hierarchy.mark? (.of name)).any fun mark => mark.1 == .interface := by
  rw [isInterface, get?, mark?]
  cases hierarchy.find? (.of name) <;> rfl

theorem isFinal_eq (name : String) :
    hierarchy.isFinal name = (hierarchy.mark? (.of name)).any Prod.snd := by
  rw [isFinal, get?, mark?]
  cases hierarchy.find? (.of name) <;> rfl

theorem mark?_set (key other : ClassKey) (info : ClassInfo) :
    (hierarchy.set key info).mark? other =
      if key = other then some (info.kind, info.isFinal) else hierarchy.mark? other := by
  rw [mark?, find?_set]
  split <;> rfl

theorem mark?_addParent (known : (hierarchy.mark? (.of child)).isSome = true) (key : ClassKey) :
    (hierarchy.addParent child parent).mark? key = hierarchy.mark? key := by
  rw [mark?, Option.isSome_map] at known
  obtain ⟨info, found⟩ := Option.isSome_iff_exists.mp known
  have stays (parents : List ClassName) :
      (hierarchy.set (.of child) { info with parents := parents }).mark? key =
        hierarchy.mark? key := by
    rw [mark?_set]
    split
    · rename_i isChild
      rw [mark?, ← isChild, found, Option.map_some]
    · rfl
  simp only [addParent, found, Option.getD_some]
  split
  · exact stays info.parents
  · exact stays _

theorem mark?_addInheritance (given : List String)
    (known : (hierarchy.mark? (.of child)).isSome = true) (key : ClassKey) :
    (hierarchy.addInheritance child given).2.mark? key = hierarchy.mark? key := by
  induction given generalizing hierarchy with
  | nil => rfl
  | cons parent others ih =>
      rw [addInheritance]
      split
      · exact ih known
      · rw [ih, mark?_addParent known]
        rw [mark?_addParent known]
        exact known

theorem mark?_addTo (entry : HierarchyEntry) (key : ClassKey) :
    (entry.addTo hierarchy).mark? key =
      if .of entry.name = key then some (entry.kind, entry.closed) else hierarchy.mark? key := by
  have declared (other : ClassKey) : (hierarchy.declare entry.info).mark? other =
      if .of entry.name = other then some (entry.kind, entry.closed)
      else hierarchy.mark? other := by
    rw [declare, mark?_set, HierarchyEntry.info, ClassKey.of_withoutLeadingSeparators]
  rw [← declared, HierarchyEntry.addTo_eq]
  apply mark?_addInheritance
  rw [declared, if_pos rfl]
  rfl

/-- The mark of a class is that of the one entry for it, and the old one where there is none. -/
theorem mark?_foldl_addTo (hierarchy : Hierarchy)
    (distinct : (entries.map fun entry => ClassKey.of entry.name).Nodup) (key : ClassKey) :
    (∃ entry ∈ entries, .of entry.name = key ∧
      (entries.foldl HierarchyEntry.addTo hierarchy).mark? key =
        some (entry.kind, entry.closed)) ∨
    ((∀ entry ∈ entries, .of entry.name ≠ key) ∧
      (entries.foldl HierarchyEntry.addTo hierarchy).mark? key = hierarchy.mark? key) := by
  induction entries generalizing hierarchy with
  | nil => exact .inr ⟨by simp, rfl⟩
  | cons entry others ih =>
      rw [List.map_cons, List.nodup_cons] at distinct
      rw [List.foldl_cons]
      -- A later entry of the same key would overwrite the mark; there is none.
      rcases ih (entry.addTo hierarchy) distinct.2 with
        ⟨later, present, isKey, marked⟩ | ⟨absent, marked⟩
      · exact .inl ⟨later, List.mem_cons_of_mem entry present, isKey, marked⟩
      · rw [mark?_addTo] at marked
        by_cases isKey : .of entry.name = key
        · rw [if_pos isKey] at marked
          exact .inl ⟨entry, List.mem_cons_self, isKey, marked⟩
        · rw [if_neg isKey] at marked
          exact .inr ⟨List.forall_mem_cons.mpr ⟨isKey, absent⟩, marked⟩

/-- The marks of classes that are declared once do not depend on the order. -/
theorem mark?_foldl_addTo_perm
    (distinct : (entries.map fun entry => ClassKey.of entry.name).Nodup)
    (reordered : order.Perm entries) (key : ClassKey) :
    (order.foldl HierarchyEntry.addTo hierarchy).mark? key =
      (entries.foldl HierarchyEntry.addTo hierarchy).mark? key := by
  have distinctOther : (order.map fun entry => ClassKey.of entry.name).Nodup :=
    (reordered.map _).nodup_iff.mpr distinct
  rcases mark?_foldl_addTo hierarchy distinctOther key with
    ⟨other, presentOther, isKeyOther, markedOther⟩ | ⟨absentOther, markedOther⟩
  · rcases mark?_foldl_addTo hierarchy distinct key with
      ⟨entry, present, isKey, marked⟩ | ⟨absent, _⟩
    · have same : other = entry := List.inj_on_of_nodup_map distinct
        (reordered.mem_iff.mp presentOther) present (isKeyOther.trans isKey.symm)
      rw [markedOther, marked, same]
    · exact absurd isKeyOther (absent other (reordered.mem_iff.mp presentOther))
  · rcases mark?_foldl_addTo hierarchy distinct key with
      ⟨entry, present, isKey, _⟩ | ⟨_, marked⟩
    · exact absurd isKey (absentOther entry (reordered.mem_iff.mpr present))
    · rw [markedOther, marked]

/-! ### Consistent entries -/

/-- No class is declared twice, and the declared parents, with those of the classes that are always
there, lead in no circle and name few classes. -/
structure Consistent (entries : List HierarchyEntry) : Prop where
  distinct : (entries.map fun entry => ClassKey.of entry.name).Nodup
  acyclic : ∀ key, ¬ Relation.TransGen (fun child parent =>
    (child, parent) ∈ (standardEntries ++ entries).flatMap HierarchyEntry.pairs) key key
  few : {key | ∃ pair ∈ (standardEntries ++ entries).flatMap HierarchyEntry.pairs,
    key = pair.1 ∨ key = pair.2}.encard ≤ walkLimit

namespace Consistent

/-- Entries are consistent where a rank falls from every child to its parents. -/
theorem of_rank (distinct : (entries.map fun entry => ClassKey.of entry.name).Nodup)
    (rank : ClassKey → Nat)
    (falls : ∀ pair ∈ (standardEntries ++ entries).flatMap HierarchyEntry.pairs,
      rank pair.2 < rank pair.1)
    (short : 2 * ((standardEntries ++ entries).flatMap HierarchyEntry.pairs).length ≤ walkLimit) :
    Consistent entries where
  distinct := distinct
  acyclic := by
    intro key circle
    have descends : ∀ ancestor, Relation.TransGen (fun child parent =>
        (child, parent) ∈ (standardEntries ++ entries).flatMap HierarchyEntry.pairs) key ancestor →
          rank ancestor < rank key := by
      intro ancestor path
      induction path with
      | single edge => exact falls _ edge
      | tail _ edge ih => exact (falls _ edge).trans ih
    exact Nat.lt_irrefl _ (descends key circle)
  few := by
    have listed : {key | ∃ pair ∈ (standardEntries ++ entries).flatMap HierarchyEntry.pairs,
        key = pair.1 ∨ key = pair.2} ⊆
          ((((standardEntries ++ entries).flatMap HierarchyEntry.pairs).flatMap
            fun pair => [pair.1, pair.2]).toFinset : Set ClassKey) := by
      rintro key ⟨pair, present, isPart⟩
      rw [Finset.mem_coe, List.mem_toFinset, List.mem_flatMap]
      exact ⟨pair, present, by simpa using isPart⟩
    refine (Set.encard_le_encard listed).trans ?_
    rw [Set.encard_coe_eq_coe_finsetCard]
    refine Nat.cast_le.mpr ((List.toFinset_card_le _).trans ?_)
    rw [List.length_flatMap]
    simpa [Nat.mul_comm] using short

theorem perm (consistent : Consistent entries) (reordered : order.Perm entries) :
    Consistent order := by
  have samePairs (pair : ClassKey × ClassKey) :
      pair ∈ (standardEntries ++ order).flatMap HierarchyEntry.pairs ↔
        pair ∈ (standardEntries ++ entries).flatMap HierarchyEntry.pairs :=
    ((reordered.append_left standardEntries).flatMap_right _).mem_iff
  constructor
  · exact (reordered.map _).nodup_iff.mpr consistent.distinct
  · simp only [samePairs]
    exact consistent.acyclic
  · simp only [samePairs]
    exact consistent.few

/-- No parent of consistent entries is refused, the edges of their hierarchy are those that are
declared, and its walk is exact. -/
theorem ofEntries_edges (consistent : Consistent entries) :
    standard.takesAll entries = true ∧
      (∀ child parent, (ofEntries entries).Parent child parent ↔
        (child, parent) ∈ (standardEntries ++ entries).flatMap HierarchyEntry.pairs) ∧
      ∀ child ancestor : String, (ofEntries entries).isDerivedFrom child ancestor = true ↔
        (ofEntries entries).Derives (.of child) (.of ancestor) := by
  -- The standard entries are added like the others, so all start from the empty hierarchy.
  have noEdge (child parent : ClassKey) : ¬ empty.Parent child parent := by
    intro edge
    obtain ⟨name, present, _⟩ := edge
    simp [parents] at present
  have acyclic : ∀ key, ¬ Relation.TransGen (fun child parent => empty.Parent child parent ∨
      (child, parent) ∈ (standardEntries ++ entries).flatMap HierarchyEntry.pairs) key key := by
    simp only [noEdge, false_or]
    exact consistent.acyclic
  obtain ⟨taken, edges, sound⟩ := AcyclicOn.empty.foldl_addTo_all consistent.few
    (fun pair present => ⟨pair, present, .inr rfl⟩) acyclic
  rw [← ofEntries_eq] at edges sound
  refine ⟨?_, fun child parent => ?_, fun child ancestor => ?_⟩
  · rw [takesAll_append, Bool.and_eq_true, ← standard_eq] at taken
    exact taken.2
  · rw [edges, or_iff_right (noEdge child parent)]
  · exact isDerivedFrom_iff_derives (sound.fewAncestors consistent.few (.of child))

end Consistent

/-! ### Hierarchies that answer alike -/

/-- Two hierarchies that give the same answers about all classes. -/
structure Alike (first second : Hierarchy) : Prop where
  contains : ∀ name, first.contains name = second.contains name
  isInterface : ∀ name, first.isInterface name = second.isInterface name
  isFinal : ∀ name, first.isFinal name = second.isFinal name
  isDerivedFrom : ∀ child ancestor,
    first.isDerivedFrom child ancestor = second.isDerivedFrom child ancestor

namespace Alike

theorem isSameOrDerived (alike : Alike first second) (child ancestor : String) :
    first.isSameOrDerived child ancestor = second.isSameOrDerived child ancestor := by
  rw [Hierarchy.isSameOrDerived, alike.isDerivedFrom, Hierarchy.isSameOrDerived]

theorem mayShareInstances (alike : Alike first second) (name other : String) :
    first.mayShareInstances name other = second.mayShareInstances name other := by
  simp only [Hierarchy.mayShareInstances, alike.isSameOrDerived, alike.isInterface, alike.isFinal]

theorem isTraversable (alike : Alike first second) (name : String) :
    first.isTraversable name = second.isTraversable name :=
  alike.isSameOrDerived name traversable

end Alike

/-- Consistent entries make hierarchies that answer alike, in whatever order they come. -/
theorem Consistent.alike (consistent : Consistent entries) (reordered : order.Perm entries) :
    (ofEntries order).Alike (ofEntries entries) := by
  have marks (key : ClassKey) : (ofEntries order).mark? key = (ofEntries entries).mark? key :=
    mark?_foldl_addTo_perm consistent.distinct reordered key
  obtain ⟨_, edges, exactly⟩ := consistent.ofEntries_edges
  obtain ⟨_, edgesOther, exactlyOther⟩ := (consistent.perm reordered).ofEntries_edges
  have sameEdges : (ofEntries order).Parent = (ofEntries entries).Parent := by
    funext child parent
    apply propext
    rw [edges, edgesOther]
    exact ((reordered.append_left standardEntries).flatMap_right _).mem_iff
  constructor
  · intro name
    rw [contains_eq, contains_eq, marks]
  · intro name
    rw [isInterface_eq, isInterface_eq, marks]
  · intro name
    rw [isFinal_eq, isFinal_eq, marks]
  · intro child ancestor
    rw [Bool.eq_iff_iff, exactly, exactlyOther, Derives, Derives, sameEdges]

end Hierarchy

end AssociationCheck
