/-
Changes keep a hierarchy acyclic.

A hierarchy is built by declarations and by the recording of parents. A parent is refused when the
walk finds the child among its ancestors, and the walk is exact only as long as there are few
classes; this in turn is all that keeps the hierarchy acyclic. Both are kept together by every
change, and with them each change is described by the edges that it adds.
-/

import AssociationCheck.Proofs.Hierarchy.Walk

namespace AssociationCheck.Hierarchy

variable {hierarchy first second : Hierarchy} {named : Set ClassKey}

/-! ### An edge more -/

def WithEdge (edges : ClassKey → ClassKey → Prop) (child parent : ClassKey) :
    ClassKey → ClassKey → Prop :=
  fun source target => edges source target ∨ (source = child ∧ target = parent)

section Edges

variable {edges : ClassKey → ClassKey → Prop} {child parent source target : ClassKey}

/-- With an edge more, a path goes the old ways only or once over the new edge. -/
theorem transGen_withEdge
    (path : Relation.TransGen (WithEdge edges child parent) source target) :
    Relation.TransGen edges source target ∨
      (Relation.ReflTransGen edges source child ∧ Relation.ReflTransGen edges parent target) := by
  induction path with
  | single edge =>
      rcases edge with old | ⟨rfl, rfl⟩
      · exact .inl (.single old)
      · exact .inr ⟨.refl, .refl⟩
  | tail _ edge ih =>
      rcases edge with old | ⟨rfl, rfl⟩
      · rcases ih with path | ⟨lower, upper⟩
        · exact .inl (path.tail old)
        · exact .inr ⟨lower, upper.tail old⟩
      · rcases ih with path | ⟨lower, _⟩
        · exact .inr ⟨path.to_reflTransGen, .refl⟩
        · exact .inr ⟨lower, .refl⟩

theorem acyclic_withEdge (acyclic : ∀ key, ¬ Relation.TransGen edges key key)
    (onward : ¬ Relation.ReflTransGen edges parent child) (key : ClassKey) :
    ¬ Relation.TransGen (WithEdge edges child parent) key key := by
  intro circle
  rcases transGen_withEdge circle with old | ⟨lower, upper⟩
  · exact acyclic key old
  · exact onward (upper.trans lower)

theorem transGen_or_iff {added : ClassKey → ClassKey → Prop} :
    Relation.TransGen (fun first second => edges first second ∨ added first second) source target ↔
      Relation.TransGen
        (fun first second => Relation.TransGen edges first second ∨ added first second)
        source target := by
  constructor
  · intro path
    exact Relation.TransGen.mono (fun lower upper step => step.imp_left .single) _ _ path
  · intro path
    refine Relation.TransGen.closed (fun lower upper step => ?_) source target path
    rcases step with old | new
    · exact Relation.TransGen.mono (fun _ _ => Or.inl) _ _ old
    · exact .single (.inr new)

end Edges

/-- The parents that a child is given and those of them that it takes over, in order: every one
from which no steps lead back to the child, the edges taken over before being counted. -/
inductive TakesOver (child : ClassKey) :
    (ClassKey → ClassKey → Prop) → List ClassKey → List ClassKey → Prop
  | none {edges} : TakesOver child edges [] []
  | refused {edges parent others taken} (back : Relation.ReflTransGen edges parent child)
      (rest : TakesOver child edges others taken) : TakesOver child edges (parent :: others) taken
  | taken {edges parent others taken} (onward : ¬ Relation.ReflTransGen edges parent child)
      (rest : TakesOver child (WithEdge edges child parent) others taken) :
      TakesOver child edges (parent :: others) (parent :: taken)

theorem TakesOver.sublist {child : ClassKey} {edges : ClassKey → ClassKey → Prop}
    {given taken : List ClassKey} (takes : TakesOver child edges given taken) :
    taken.Sublist given := by
  induction takes with
  | none => exact .slnil
  | refused _ _ ih => exact ih.cons _
  | taken _ _ ih => exact ih.cons_cons _

/-! ### What a change does to the edges -/

theorem parents_set (key other : ClassKey) (info : ClassInfo) :
    (hierarchy.set key info).parents other =
      if key = other then info.parents else hierarchy.parents other := by
  rw [parents, find?_set]
  by_cases same : key = other
  · rw [if_pos same, if_pos same]
  · rw [if_neg same, if_neg same, parents]

@[simp] theorem parents_declare (info : ClassInfo) (key : ClassKey) :
    (hierarchy.declare info).parents key = hierarchy.parents key := by
  rw [declare, parents_set]
  split
  · rename_i same
    rw [same]
  · rfl

theorem parents_getD_undeclared (name : String) (key : ClassKey) :
    ((hierarchy.find? key).getD (undeclared name)).parents = hierarchy.parents key := by
  rw [parents]
  cases hierarchy.find? key <;> rfl

theorem parents_addParent (child parent : String) (key : ClassKey) :
    (hierarchy.addParent child parent).parents key =
      if ClassKey.of child = key ∧ ∀ known ∈ hierarchy.parents key, known.key ≠ .of parent then
        hierarchy.parents key ++ [.of parent]
      else hierarchy.parents key := by
  simp only [addParent, ClassName.key_of, parents_getD_undeclared]
  by_cases recorded : (hierarchy.parents (.of child)).any
      (fun known => known.key == ClassKey.of parent) = true
  · rw [if_pos recorded, parents_set, parents_getD_undeclared]
    by_cases isChild : ClassKey.of child = key
    · have present : ¬ ∀ known ∈ hierarchy.parents key, known.key ≠ .of parent := by
        simpa [isChild] using recorded
      rw [if_pos isChild, if_neg (fun both => present both.2), isChild]
    · rw [if_neg isChild, if_neg (fun both => isChild both.1)]
  · rw [if_neg recorded, parents_set]
    by_cases isChild : ClassKey.of child = key
    · have absent : ∀ known ∈ hierarchy.parents key, known.key ≠ .of parent := by
        simpa [isChild] using recorded
      rw [if_pos isChild, if_pos ⟨isChild, absent⟩, isChild]
    · rw [if_neg isChild, if_neg (fun both => isChild both.1)]

theorem parent_addParent (child parent : String) :
    (hierarchy.addParent child parent).Parent =
      WithEdge hierarchy.Parent (.of child) (.of parent) := by
  funext source target
  apply propext
  rw [Parent, parents_addParent, WithEdge, Parent]
  split
  · rename_i isNew
    simp only [List.mem_append, List.mem_singleton, or_and_right, exists_or, exists_eq_left,
      ClassName.key_of, isNew.1, true_and, @eq_comm _ target]
  · rename_i old
    refine ⟨.inl, fun edge => ?_⟩
    rcases edge with recorded | ⟨rfl, rfl⟩
    · exact recorded
    · simpa using old

theorem walk_congr (same : ∀ key, first.parents key = second.parents key) (target : ClassKey)
    (steps : Nat) (visited : Std.TreeSet ClassKey) (ahead : List ClassName) :
    first.walk target steps visited ahead = second.walk target steps visited ahead := by
  induction steps generalizing visited ahead with
  | zero => rfl
  | succ steps ih => simp only [walk, same, ih]

@[simp] theorem isDerivedFrom_declare (info : ClassInfo) (child ancestor : String) :
    (hierarchy.declare info).isDerivedFrom child ancestor =
      hierarchy.isDerivedFrom child ancestor := by
  rw [isDerivedFrom, isDerivedFrom, parents_declare]
  exact walk_congr (parents_declare info) ..

/-! ### What every change keeps -/

def keys (names : List String) : Set ClassKey := {key | ∃ name ∈ names, key = .of name}

theorem keys_append (names others : List String) :
    keys (names ++ others) = keys names ∪ keys others := by
  ext key
  simp [keys, or_and_right, exists_or]

theorem encard_keys_le (names : List String) : (keys names).encard ≤ names.length := by
  have listed : keys names = ((names.map ClassKey.of).toFinset : Set ClassKey) := by
    ext key
    simp [keys, eq_comm]
  rw [listed, Set.encard_coe_eq_coe_finsetCard]
  exact_mod_cast (List.toFinset_card_le _).trans (List.length_map _).le

/-- A list of names is enough to see that there are few classes. -/
theorem few_keys {names : List String} (few : names.length ≤ walkLimit) :
    (keys names).encard ≤ walkLimit :=
  (encard_keys_le names).trans (by exact_mod_cast few)

/-- No class derives from itself, and the edges join classes of a set. -/
structure AcyclicOn (hierarchy : Hierarchy) (named : Set ClassKey) : Prop where
  acyclic : ∀ key, ¬ hierarchy.Derives key key
  inside : ∀ child parent, hierarchy.Parent child parent → parent ∈ named

namespace AcyclicOn

theorem mono {more : Set ClassKey} (sound : hierarchy.AcyclicOn named) (further : named ⊆ more) :
    hierarchy.AcyclicOn more :=
  ⟨sound.acyclic, fun child parent edge => further (sound.inside child parent edge)⟩

theorem fewAncestors (sound : hierarchy.AcyclicOn named) (few : named.encard ≤ walkLimit)
    (child : ClassKey) : hierarchy.FewAncestors child := by
  apply fewAncestors_of_subset few
  intro ancestor derives
  cases derives with
  | single edge => exact sound.inside _ _ edge
  | tail _ edge => exact sound.inside _ _ edge

theorem not_reaches (sound : hierarchy.AcyclicOn named) {source target : ClassKey}
    (absent : target ∉ named) (apart : source ≠ target) : ¬ hierarchy.Reaches source target := by
  intro reaches
  rcases Relation.ReflTransGen.cases_tail reaches with same | ⟨lower, _, edge⟩
  · exact apart same.symm
  · exact absent (sound.inside lower target edge)

theorem closesCycle_iff (sound : hierarchy.AcyclicOn named) (few : named.encard ≤ walkLimit)
    (child parent : String) :
    hierarchy.closesCycle child parent = true ↔ hierarchy.Reaches (.of parent) (.of child) := by
  rw [← isSameOrDerived_iff_reaches (sound.fewAncestors few _), closesCycle, isSameOrDerived,
    Bool.or_eq_true, Bool.or_eq_true, sameClass_iff, sameClass_iff, eq_comm]

theorem empty : Hierarchy.empty.AcyclicOn named := by
  have noEdge : ∀ child parent, ¬ Hierarchy.empty.Parent child parent := by
    intro child parent edge
    obtain ⟨name, present, _⟩ := edge
    simp [parents] at present
  refine ⟨fun key circle => ?_, fun child parent edge => absurd edge (noEdge child parent)⟩
  obtain ⟨_, edge, _⟩ := Relation.TransGen.head'_iff.mp circle
  exact noEdge _ _ edge

theorem declare (sound : hierarchy.AcyclicOn named) (info : ClassInfo) :
    (hierarchy.declare info).AcyclicOn named := by
  have same : (hierarchy.declare info).Parent = hierarchy.Parent := by
    funext child parent
    simp only [Parent, parents_declare]
  constructor
  · simpa only [Derives, same] using sound.acyclic
  · simpa only [same] using sound.inside

theorem addParent (sound : hierarchy.AcyclicOn named) {child parent : String}
    (onward : ¬ hierarchy.Reaches (.of parent) (.of child)) (among : ClassKey.of parent ∈ named) :
    (hierarchy.addParent child parent).AcyclicOn named := by
  constructor
  · rw [Derives, parent_addParent]
    exact acyclic_withEdge sound.acyclic onward
  · rw [parent_addParent]
    intro source target edge
    rcases edge with old | ⟨rfl, rfl⟩
    · exact sound.inside _ _ old
    · exact among

/-- Recording the parents of a child takes over those that close no circle, says whether these are
all, and adds no other edge. -/
theorem addInheritance (few : named.encard ≤ walkLimit) (child : String) {given : List String}
    (among : ∀ parent ∈ given, ClassKey.of parent ∈ named) (sound : hierarchy.AcyclicOn named) :
    ∃ taken, TakesOver (.of child) hierarchy.Parent (given.map .of) taken ∧
      ((hierarchy.addInheritance child given).1 = true ↔ taken = given.map .of) ∧
      (∀ source target, (hierarchy.addInheritance child given).2.Parent source target ↔
        hierarchy.Parent source target ∨ (source = .of child ∧ target ∈ taken)) ∧
      (hierarchy.addInheritance child given).2.AcyclicOn named := by
  induction given generalizing hierarchy with
  | nil => exact ⟨[], .none, by simp [Hierarchy.addInheritance], by simp [Hierarchy.addInheritance],
      sound⟩
  | cons parent others ih =>
      have later : ∀ other ∈ others, ClassKey.of other ∈ named :=
        fun other present => among other (List.mem_cons_of_mem _ present)
      rw [Hierarchy.addInheritance]
      by_cases closes : hierarchy.closesCycle child parent = true
      · rw [if_pos closes]
        obtain ⟨taken, takes, _, edges, kept⟩ := ih later sound
        refine ⟨taken, .refused ((sound.closesCycle_iff few ..).mp closes) takes, ?_, edges, kept⟩
        refine ⟨nofun, fun all => absurd takes.sublist.length_le ?_⟩
        simp [all]
      · rw [if_neg closes]
        have onward : ¬ hierarchy.Reaches (.of parent) (.of child) :=
          fun back => closes ((sound.closesCycle_iff few ..).mpr back)
        obtain ⟨taken, takes, all, edges, kept⟩ :=
          ih later (sound.addParent onward (among parent List.mem_cons_self))
        rw [parent_addParent] at takes edges
        refine ⟨.of parent :: taken, .taken onward takes, by simp [all], ?_, kept⟩
        intro source target
        rw [edges, WithEdge, List.mem_cons]
        grind

theorem declareClass (few : named.encard ≤ walkLimit) (name : String) (kind : ClassKind)
    (isFinal : Bool) {given : List String} (among : ∀ parent ∈ given, ClassKey.of parent ∈ named)
    (sound : hierarchy.AcyclicOn named) :
    (hierarchy.declareClass name kind isFinal given).2.AcyclicOn named :=
  have ⟨_, _, _, _, kept⟩ := addInheritance few name among (sound.declare _)
  kept

end AcyclicOn

/-! ### Histories of a hierarchy -/

inductive Change
  | declare (info : ClassInfo)
  | declareClass (name : String) (kind : ClassKind) (isFinal : Bool) (parents : List String)
  | addInheritance (child : String) (parents : List String)

namespace Change

def run (hierarchy : Hierarchy) : Change → Hierarchy
  | declare info => hierarchy.declare info
  | declareClass name kind isFinal parents =>
      (hierarchy.declareClass name kind isFinal parents).2
  | addInheritance child parents => (hierarchy.addInheritance child parents).2

theorem run_addInheritance (hierarchy : Hierarchy) (child : String) (parents : List String) :
    run hierarchy (addInheritance child parents) = (hierarchy.addInheritance child parents).2 := rfl

/-- The class names that a change is given; parents that come with a declaration are not taken
over. -/
def names : Change → List String
  | declare info => [info.name]
  | declareClass name _ _ parents => name :: parents
  | addInheritance child parents => child :: parents

end Change

/-- A hierarchy that changes lead to, from nothing or from the classes that are always there, with
the classes named on the way. -/
inductive Built : Hierarchy → Set ClassKey → Prop
  | empty : Built .empty ∅
  | standard : Built .standard (keys (standardClasses.map Prod.fst))
  | change {hierarchy : Hierarchy} {named : Set ClassKey} (built : Built hierarchy named)
      (change : Change) : Built (change.run hierarchy) (named ∪ keys change.names)

theorem AcyclicOn.run (few : named.encard ≤ walkLimit) {change : Change}
    (among : keys change.names ⊆ named) (sound : hierarchy.AcyclicOn named) :
    (change.run hierarchy).AcyclicOn named := by
  have parent {child : String} {given : List String} (listed : change.names = child :: given) :
      ∀ parent ∈ given, ClassKey.of parent ∈ named :=
    fun parent present => among ⟨parent, by simp [listed, present], rfl⟩
  cases change with
  | declare info => exact sound.declare info
  | declareClass name kind isFinal given =>
      exact sound.declareClass few name kind isFinal (parent rfl)
  | addInheritance child given =>
      obtain ⟨_, _, _, _, kept⟩ := sound.addInheritance few child (parent rfl)
      exact kept

theorem AcyclicOn.foldl_declareClass (few : named.encard ≤ walkLimit)
    (classes : List (String × ClassKind × List String))
    (among : ∀ entry ∈ classes, ∀ parent ∈ entry.2.2, ClassKey.of parent ∈ named)
    (sound : hierarchy.AcyclicOn named) :
    (classes.foldl (fun hierarchy (name, kind, parents) =>
      (hierarchy.declareClass name kind false parents).2) hierarchy).AcyclicOn named := by
  induction classes generalizing hierarchy with
  | nil => exact sound
  | cons entry others ih =>
      exact ih (fun other present => among other (List.mem_cons_of_mem _ present))
        (sound.declareClass few _ _ _ (among entry List.mem_cons_self))

theorem acyclicOn_standard (few : named.encard ≤ walkLimit)
    (among : keys (standardClasses.map Prod.fst) ⊆ named) : standard.AcyclicOn named := by
  have parents : ∀ entry ∈ standardClasses, ∀ parent ∈ entry.2.2,
      parent ∈ standardClasses.map Prod.fst := by decide
  exact AcyclicOn.foldl_declareClass few _
    (fun entry present parent given => among ⟨parent, parents entry present parent given, rfl⟩)
    .empty

theorem Built.acyclicOn (built : Built hierarchy named) (few : named.encard ≤ walkLimit) :
    hierarchy.AcyclicOn named := by
  induction built with
  | empty => exact .empty
  | standard => exact acyclicOn_standard few subset_rfl
  | change _ change ih =>
      have fewBefore := (Set.encard_le_encard Set.subset_union_left).trans few
      exact ((ih fewBefore).mono Set.subset_union_left).run few Set.subset_union_right

/-- As long as few classes are named, a hierarchy is acyclic and the walk is exact; recording the
parents of a child adds exactly the edges to those that close no circle, taken in order, says
whether these are all, and derives what old derivations and the new edges together lead to; a
declaration changes no derivation. -/
theorem Built.exact (built : Built hierarchy named) (few : named.encard ≤ walkLimit) :
    (∀ name, hierarchy.isDerivedFrom name name = false) ∧
    (∀ child ancestor, hierarchy.isDerivedFrom child ancestor = true ↔
      hierarchy.Derives (.of child) (.of ancestor)) ∧
    (∀ child given, (named ∪ keys (child :: given)).encard ≤ walkLimit →
      ∃ taken, TakesOver (.of child) hierarchy.Parent (given.map .of) taken ∧
        ((hierarchy.addInheritance child given).1 = true ↔ taken = given.map .of) ∧
        (∀ source target, (hierarchy.addInheritance child given).2.Parent source target ↔
          hierarchy.Parent source target ∨ (source = .of child ∧ target ∈ taken)) ∧
        ∀ source target,
          (hierarchy.addInheritance child given).2.isDerivedFrom source target = true ↔
            Relation.TransGen (fun lower upper =>
              hierarchy.Derives lower upper ∨ (lower = .of child ∧ upper ∈ taken))
              (.of source) (.of target)) ∧
    ∀ info child ancestor,
      (hierarchy.declare info).isDerivedFrom child ancestor =
        hierarchy.isDerivedFrom child ancestor := by
  have sound := built.acyclicOn few
  have walks (child ancestor : String) : hierarchy.isDerivedFrom child ancestor = true ↔
      hierarchy.Derives (.of child) (.of ancestor) :=
    isDerivedFrom_iff_derives (sound.fewAncestors few (.of child))
  refine ⟨fun name => ?_, walks, fun child given fewLater => ?_, isDerivedFrom_declare⟩
  · exact Bool.eq_false_iff.mpr fun circle => sound.acyclic _ ((walks name name).mp circle)
  · have wider := sound.mono (Set.subset_union_left (t := keys (child :: given)))
    have among : ∀ parent ∈ given, ClassKey.of parent ∈ named ∪ keys (child :: given) :=
      fun parent present => .inr ⟨parent, by simp [present], rfl⟩
    obtain ⟨taken, takes, all, edges, kept⟩ := wider.addInheritance fewLater child among
    refine ⟨taken, takes, all, edges, fun source target => ?_⟩
    rw [isDerivedFrom_iff_derives (kept.fewAncestors fewLater _), Derives,
      funext fun lower => funext fun upper => propext (edges lower upper)]
    exact transGen_or_iff

/-! ### Items and things -/

def itemHierarchy : Hierarchy := Change.run standard (.addInheritance "Item" ["Thing"])

theorem few_standard (names : List String) (short : names.length ≤ 20) :
    (keys (standardClasses.map Prod.fst) ∪ keys names).encard ≤ walkLimit := by
  rw [← keys_append]
  apply few_keys
  simp only [List.length_append, List.length_map, standardClasses, List.length_cons,
    List.length_nil, walkLimit]
  omega

theorem not_mem_standard {key : ClassKey} (new : key ∈ [ClassKey.of "Item", .of "thing"]) :
    key ∉ keys (standardClasses.map Prod.fst) := by
  have apart : ∀ key ∈ [ClassKey.of "Item", .of "thing"],
      ∀ name ∈ standardClasses.map Prod.fst, key ≠ .of name := by
    decide +kernel
  rintro ⟨name, listed, same⟩
  exact apart key new name listed same

theorem itemHierarchy_built :
    Built itemHierarchy (keys (standardClasses.map Prod.fst) ∪ keys ["Item", "Thing"]) :=
  .change .standard (.addInheritance "Item" ["Thing"])

theorem few_standard_self : (keys (standardClasses.map Prod.fst)).encard ≤ walkLimit :=
  (Set.encard_le_encard Set.subset_union_left).trans (few_standard [] (Nat.zero_le 20))

theorem acyclicOn_standard_self : standard.AcyclicOn (keys (standardClasses.map Prod.fst)) :=
  acyclicOn_standard few_standard_self subset_rfl

theorem itemHierarchy_parent :
    itemHierarchy.Parent = WithEdge standard.Parent (.of "Item") (.of "thing") := by
  have onward : ¬ standard.closesCycle "Item" "Thing" = true := by
    rw [acyclicOn_standard_self.closesCycle_iff few_standard_self]
    exact acyclicOn_standard_self.not_reaches (not_mem_standard (by simp)) (by decide)
  have sameThing : ClassKey.of "Thing" = .of "thing" := by decide
  rw [itemHierarchy, Change.run_addInheritance, addInheritance, if_neg onward, addInheritance,
    parent_addParent, sameThing]

theorem itemHierarchy_countable :
    ¬ itemHierarchy.Reaches (.of "Countable") (.of "thing") := by
  have sound := acyclicOn_standard_self
  rw [Reaches, itemHierarchy_parent, Relation.reflTransGen_iff_eq_or_transGen]
  rintro (same | path)
  · exact absurd same (by decide)
  · rcases transGen_withEdge path with old | ⟨lower, _⟩
    · exact sound.not_reaches (not_mem_standard (by simp)) (by decide) old.to_reflTransGen
    · exact sound.not_reaches (not_mem_standard (by simp)) (by decide) lower

/-- An item is a thing, so things cannot be items, but they can be countable. Items are then
countable too. -/
theorem exact_item_thing :
    let later := itemHierarchy.addInheritance "thing" ["\\Item", "Countable"]
    itemHierarchy.isDerivedFrom "Item" "Item" = false ∧
      TakesOver (.of "thing") itemHierarchy.Parent [.of "\\Item", .of "Countable"]
        [.of "Countable"] ∧
      later.1 = false ∧
      (∀ source target, later.2.Parent source target ↔
        itemHierarchy.Parent source target ∨
          (source = .of "thing" ∧ target = .of "Countable")) ∧
      later.2.isDerivedFrom "ITEM" "\\countable" = true := by
  obtain ⟨acyclic, _, records, _⟩ := itemHierarchy_built.exact (few_standard _ (by decide))
  obtain ⟨taken, takes, all, edges, derives⟩ := records "thing" ["\\Item", "Countable"] (by
    rw [Set.union_assoc, ← keys_append]
    exact few_standard _ (by decide))
  -- What the recording computes plays no part from here on.
  generalize itemHierarchy.addInheritance "thing" ["\\Item", "Countable"] = recorded at *
  have sameItem : ClassKey.of "\\Item" = .of "Item" ∧ ClassKey.of "ITEM" = .of "Item" := by decide
  have sameCountable : ClassKey.of "\\countable" = .of "Countable" := by decide
  have itemBelow : itemHierarchy.Derives (.of "Item") (.of "thing") := by
    rw [Derives, itemHierarchy_parent]
    exact .single (.inr ⟨rfl, rfl⟩)
  have onlyCountable : taken = [.of "Countable"] := by
    cases takes with
    | taken onward _ => exact absurd (sameItem.1 ▸ itemBelow.to_reflTransGen) onward
    | refused _ rest =>
        cases rest with
        | refused back _ => exact absurd back itemHierarchy_countable
        | taken _ rest =>
            cases rest
            rfl
  subst onlyCountable
  refine ⟨acyclic "Item", takes, ?_, ?_, ?_⟩
  · rw [← Bool.not_eq_true, all]
    decide
  · simpa only [List.mem_singleton] using edges
  · rw [derives, sameItem.2, sameCountable]
    exact .tail (.single (.inl itemBelow)) (.inr ⟨rfl, List.mem_singleton_self _⟩)

end AssociationCheck.Hierarchy
