/-
Equations between computations.

On the types of a canonical store, what is computed is a function of trees. Two computations that
come to one tree give one type, whichever is run first and whatever else is made between the two,
because the store keeps every type that it holds.
-/

import AssociationCheck.Proofs.Types.Canonical

namespace AssociationCheck.TypeStore

open Building

variable {store later : TypeStore} {id : TypeId} {build other : Building TypeId} {tree : TypeTree}

/-- Whichever of two computations is run first, the other one gives the same type then, at once or
after other types have been made. -/
structure SameType (build other : Building TypeId) (store : TypeStore) : Prop where
  continues : store.ContinuesTo (build.run store).2
  otherContinues : store.ContinuesTo (other.run store).2
  after : ∀ later, (build.run store).2.ContinuesTo later →
    (other.run later).1 = (build.run store).1
  before : ∀ later, (other.run store).2.ContinuesTo later →
    (build.run later).1 = (other.run store).1

theorem SameType.at_once (same : SameType build other store) :
    (other.run (build.run store).2).1 = (build.run store).1 :=
  same.after _ same.continues.canonical.continuesTo_refl

/-- The computation makes a tree in a store and in every store that continues it. -/
def KeepsMaking (build : Building TypeId) (store : TypeStore) (tree : TypeTree) : Prop :=
  ∀ later, store.ContinuesTo later → Makes build later tree

theorem KeepsMaking.onward (made : KeepsMaking build store tree)
    (continues : store.ContinuesTo later) : KeepsMaking build later tree :=
  fun last further => made last (continues.trans further)

theorem KeepsMaking.eq_of_run (made : KeepsMaking build store tree)
    (otherMade : KeepsMaking other store tree) (canonical : store.Canonical)
    (continues : (build.run store).2.ContinuesTo later) :
    (other.run later).1 = (build.run store).1 := by
  obtain ⟨first, known, makes⟩ := made store canonical.continuesTo_refl
  obtain ⟨further, otherKnown, otherMakes⟩ := otherMade later (first.trans continues)
  have since := continues.trans further
  have kept := first.canonical.tree_later since.grows known
  exact since.canonical.eq_of_tree_eq otherKnown (since.grows.contains known)
    (otherMakes.trans (kept.trans makes).symm)

theorem KeepsMaking.sameType (made : KeepsMaking build store tree)
    (otherMade : KeepsMaking other store tree) (canonical : store.Canonical) :
    SameType build other store where
  continues := (made store canonical.continuesTo_refl).1
  otherContinues := (otherMade store canonical.continuesTo_refl).1
  after _ continues := made.eq_of_run otherMade canonical continues
  before _ continues := otherMade.eq_of_run made canonical continues

/-! ### Functions of trees -/

/-- What is made of a type has a tree that is a function of the type's tree. -/
def Computes (next : TypeId → Building TypeId) (change : TypeTree → TypeTree) : Prop :=
  ∀ ⦃store id⦄, store.Canonical → store.Contains id →
    Makes (next id) store (change (store.tree id))

def ComputesAll (next : List TypeId → Building TypeId)
    (change : List TypeTree → TypeTree) : Prop :=
  ∀ ⦃store ids⦄, store.Canonical → (∀ id ∈ ids, store.Contains id) →
    Makes (next ids) store (change (ids.map store.tree))

theorem computes_pure : Computes pure (fun tree => tree) :=
  fun _ _ canonical known => makes_known canonical known

theorem computes_addNull : Computes addNull TypeTree.withNull :=
  fun _ _ canonical known => addNull_makes canonical known

theorem computes_removeNull : Computes removeNull TypeTree.withoutNull :=
  fun _ _ canonical known => removeNull_makes canonical known

theorem computesAll_union : ComputesAll union TypeTree.unite :=
  fun _ _ canonical known => union_makes canonical known

theorem computesAll_intersection : ComputesAll intersection TypeTree.meet :=
  fun _ _ canonical known => intersection_makes canonical known

variable {next : TypeId → Building TypeId} {nextAll : List TypeId → Building TypeId}
  {change : TypeTree → TypeTree} {changeAll : List TypeTree → TypeTree}

theorem Computes.keepsMaking (computes : Computes next change) (canonical : store.Canonical)
    (known : store.Contains id) : KeepsMaking (next id) store (change (store.tree id)) := by
  intro later continues
  have made := computes continues.canonical (continues.grows.contains known)
  rwa [canonical.tree_later continues.grows known] at made

theorem ComputesAll.keepsMaking (computes : ComputesAll nextAll changeAll)
    (canonical : store.Canonical) {ids : List TypeId} (known : ∀ id ∈ ids, store.Contains id) :
    KeepsMaking (nextAll ids) store (changeAll (ids.map store.tree)) := by
  intro later continues
  have made := computes continues.canonical
    (fun id present => continues.grows.contains (known id present))
  rwa [canonical.map_tree_later continues.grows known] at made

theorem Computes.bind (computes : Computes next change) (made : KeepsMaking build store tree) :
    KeepsMaking (build >>= next) store (change tree) := by
  intro later continues
  apply ensures_bind (made later continues)
  rintro id last ⟨further, known, same⟩
  have makes := computes further.canonical known
  rw [same] at makes
  exact makes.since further

/-! ### One after the other -/

variable {α : Type} {buildEach : α → Building TypeId} {treeOf : α → TypeTree} {items : List α}

theorem mapM_makes (canonical : store.Canonical)
    (each : ∀ item ∈ items, KeepsMaking (buildEach item) store (treeOf item)) :
    Ensures (items.mapM buildEach) store (fun ids later =>
      store.ContinuesTo later ∧ (∀ id ∈ ids, later.Contains id) ∧
        ids.map later.tree = items.map treeOf) := by
  induction items generalizing store with
  | nil => exact ⟨canonical.continuesTo_refl, fun _ present => absurd present List.not_mem_nil, rfl⟩
  | cons first others ih =>
      rw [List.mapM_cons]
      apply ensures_bind (each first List.mem_cons_self store canonical.continuesTo_refl)
      rintro id middle ⟨continues, known, same⟩
      apply ensures_bind (ih continues.canonical
        (fun item present => (each item (List.mem_cons_of_mem first present)).onward continues))
      rintro ids later ⟨further, idsKnown, trees⟩
      refine ensures_pure ⟨continues.trans further, ?_, ?_⟩
      · simpa using And.intro (further.grows.contains known) idsKnown
      · rw [List.map_cons, trees, continues.canonical.tree_later further.grows known, same,
          List.map_cons]

theorem ComputesAll.mapM_bind (computes : ComputesAll nextAll changeAll)
    (each : ∀ item ∈ items, KeepsMaking (buildEach item) store (treeOf item)) :
    KeepsMaking (items.mapM buildEach >>= nextAll) store (changeAll (items.map treeOf)) := by
  intro later continues
  apply ensures_bind (mapM_makes continues.canonical
    (fun item present => (each item present).onward continues))
  rintro ids last ⟨further, known, trees⟩
  have makes := computes further.canonical known
  rw [trees] at makes
  exact makes.since further

end AssociationCheck.TypeStore
