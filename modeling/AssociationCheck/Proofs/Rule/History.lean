/-
Histories of a store.

A store is reached from the built-in types by operations that are given types returned before.
Whatever the history was, the store keeps every type once, in normal form and after its parts, and
what an operation or a question gives is decided by the trees of the types it is about. Texts that
are no type expression are part of a history too: what is complete of them stays in the store.
-/

import AssociationCheck.Proofs.Rule.Trees
import AssociationCheck.Proofs.Subtype.Checker
import AssociationCheck.Proofs.Subtype.Trees
import AssociationCheck.Proofs.Types.Numbering

namespace AssociationCheck

open Building TypeStore

/-! ### Operations -/

inductive StoreOperation
  | object (name : String) (arguments : List TypeId)
  | iterable (key value : TypeId)
  | array (key value : TypeId)
  | union (members : List TypeId)
  | intersection (members : List TypeId)
  | addNull (id : TypeId)
  | removeNull (id : TypeId)
  | normalizeCollection (hierarchy : Hierarchy) (options : CheckOptions) (declared : TypeId)
  | parse (input : String)

namespace StoreOperation

def given : StoreOperation → List TypeId
  | object _ arguments => arguments
  | iterable key value => [key, value]
  | array key value => [key, value]
  | union members => members
  | intersection members => members
  | addNull id => [id]
  | removeNull id => [id]
  | normalizeCollection _ _ declared => [declared]
  | parse _ => []

def succeeding (build : Building TypeId) : Building (Except TypeParseError TypeId) := do
  pure (.ok (← build))

def build : StoreOperation → Building (Except TypeParseError TypeId)
  | object name arguments => succeeding (TypeStore.object name arguments)
  | iterable key value => succeeding (TypeStore.iterable key value)
  | array key value => succeeding (TypeStore.array key value)
  | union members => succeeding (TypeStore.union members)
  | intersection members => succeeding (TypeStore.intersection members)
  | addNull id => succeeding (TypeStore.addNull id)
  | removeNull id => succeeding (TypeStore.removeNull id)
  | normalizeCollection hierarchy options declared =>
      succeeding (AssociationCheck.normalizeCollection hierarchy options declared)
  | parse input => parseType input

/-- The tree of what an operation gives, from the trees of what it is given. -/
def result (tree : TypeId → TypeTree) : StoreOperation → Except TypeParseError TypeTree
  | object name arguments => .ok (.object (withoutLeadingSeparators name) (arguments.map tree))
  | iterable key value => .ok (.iterable (tree key) (tree value))
  | array key value => .ok (.array (tree key) (tree value))
  | union members => .ok (.unite (members.map tree))
  | intersection members => .ok (.meet (members.map tree))
  | addNull id => .ok (tree id).withNull
  | removeNull id => .ok (tree id).withoutNull
  | normalizeCollection hierarchy options declared =>
      .ok ((tree declared).normalize hierarchy options)
  | parse input => TypeExpr.treeOfText input

end StoreOperation

/-- The computation gives a type with a certain tree or a certain error, and leaves a canonical
store. -/
def Yields (build : Building (Except TypeParseError TypeId)) (store : TypeStore)
    (result : Except TypeParseError TypeTree) : Prop :=
  Ensures build store (fun made later => store.ContinuesTo later ∧
    (∀ id, made = .ok id → later.Contains id) ∧ made.map later.tree = result)

theorem yields_succeeding {build : Building TypeId} {store : TypeStore} {tree : TypeTree}
    (made : Makes build store tree) :
    Yields (StoreOperation.succeeding build) store (.ok tree) := by
  apply ensures_bind made
  rintro id later ⟨continues, known, same⟩
  refine ensures_pure ⟨continues, ?_, congrArg Except.ok same⟩
  intro other isOk
  cases isOk
  exact known

theorem StoreOperation.build_yields (operation : StoreOperation) {store : TypeStore}
    (canonical : store.Canonical) (known : ∀ id ∈ operation.given, store.Contains id) :
    Yields operation.build store (operation.result store.tree) := by
  have single {id : TypeId} (listed : operation.given = [id]) : store.Contains id :=
    known id (listed ▸ List.mem_singleton_self id)
  have both {key value : TypeId} (listed : operation.given = [key, value]) :
      store.Contains key ∧ store.Contains value :=
    ⟨known key (by simp [listed]), known value (by simp [listed])⟩
  cases operation with
  | object name arguments => exact yields_succeeding (object_makes canonical name known)
  | iterable key value =>
      exact yields_succeeding (iterable_makes canonical (both rfl).1 (both rfl).2)
  | array key value => exact yields_succeeding (array_makes canonical (both rfl).1 (both rfl).2)
  | union members => exact yields_succeeding (union_makes canonical known)
  | intersection members => exact yields_succeeding (intersection_makes canonical known)
  | addNull id => exact yields_succeeding (addNull_makes canonical (single rfl))
  | removeNull id => exact yields_succeeding (removeNull_makes canonical (single rfl))
  | normalizeCollection hierarchy options declared =>
      exact yields_succeeding (normalizeCollection_makes hierarchy options canonical (single rfl))
  | parse input => exact parseType_makes input canonical

/-! ### Histories -/

def returnedTypes : Except TypeParseError TypeId → List TypeId
  | .ok id => [id]
  | .error _ => []

/-- A store that operations lead to, with the types that they returned. -/
inductive Reached : TypeStore → List TypeId → Prop
  | start : Reached .initial [.mixed, .never, .null, .int, .string, .bool, .float]
  | after {store : TypeStore} {returned : List TypeId} (reached : Reached store returned)
      (operation : StoreOperation) (given : ∀ id ∈ operation.given, id ∈ returned) :
      Reached (operation.build.run store).2
        (returnedTypes (operation.build.run store).1 ++ returned)

variable {store first second : TypeStore} {returned others : List TypeId}

theorem Reached.canonical_and_contains (reached : Reached store returned) :
    store.Canonical ∧ ∀ id ∈ returned, store.Contains id := by
  induction reached with
  | start =>
      refine ⟨canonical_initial, ?_⟩
      change ∀ id : TypeId, id ∈ _ → id.index < initial.size
      decide
  | after reached operation given ih =>
      obtain ⟨canonical, known⟩ := ih
      obtain ⟨continues, made, _⟩ :=
        operation.build_yields canonical (fun id among => known id (given id among))
      refine ⟨continues.canonical, fun id present => ?_⟩
      rcases List.mem_append.mp present with isNew | among
      · apply made id
        revert isNew
        cases (operation.build.run _).1 with
        | ok other => exact fun isNew => congrArg Except.ok (List.mem_singleton.mp isNew).symm
        | error problem => exact fun isNew => absurd isNew List.not_mem_nil
      · exact continues.grows.contains (known id among)

theorem Reached.canonical (reached : Reached store returned) : store.Canonical :=
  reached.canonical_and_contains.1

theorem Reached.contains (reached : Reached store returned) {id : TypeId}
    (present : id ∈ returned) : store.Contains id :=
  reached.canonical_and_contains.2 id present

def StoreOperation.runAll : List StoreOperation → TypeStore → List TypeId →
    Option (TypeStore × List TypeId)
  | [], store, returned => some (store, returned)
  | operation :: operations, store, returned =>
      if ∀ id ∈ operation.given, id ∈ returned then
        runAll operations (operation.build.run store).2
          (returnedTypes (operation.build.run store).1 ++ returned)
      else none

theorem Reached.runAll (reached : Reached store returned) (operations : List StoreOperation)
    {later : TypeStore} {known : List TypeId}
    (ran : StoreOperation.runAll operations store returned = some (later, known)) :
    Reached later known := by
  induction operations generalizing store returned with
  | nil =>
      cases ran
      exact reached
  | cons operation operations ih =>
      rw [StoreOperation.runAll] at ran
      split at ran
      case isTrue given => exact ih (reached.after operation given) ran
      case isFalse => cases ran

/-- An operation on types that were returned before leaves every type and every class name what it
was. -/
theorem Reached.build_continues (reached : Reached store returned) (operation : StoreOperation)
    (given : ∀ id ∈ operation.given, id ∈ returned) :
    store.ContinuesTo (operation.build.run store).2 :=
  (operation.build_yields reached.canonical
    (fun id among => reached.contains (given id among))).1

/-- Whatever the history of a store is: a further operation changes no type, no class name and no
number of a class name; the types that were returned are types of the store; every type stands
after its parts; unions and intersections have several different members in normal form; the class
of an object type has one number, which it gets when the type is made; and types are equal exactly
when their trees are, which are complete. -/
theorem Reached.store_invariant (reached : Reached store returned) :
    (∀ operation : StoreOperation, (∀ id ∈ operation.given, id ∈ returned) →
      let later := (operation.build.run store).2
      (∀ id, store.Contains id → later.lookup id = store.lookup id) ∧
        (∀ atom, store.atoms.Contains atom →
          later.atoms.resolve atom = store.atoms.resolve atom) ∧
        ∀ name atom, store.atoms.find? name = some atom → later.atoms.find? name = some atom) ∧
    (∀ name arguments, ((object name arguments).run store).2.atoms =
      (store.atoms.intern (withoutLeadingSeparators name)).2) ∧
    (∀ id ∈ returned, store.Contains id) ∧
    (∀ id shape, store.lookup id = some shape → ∀ part ∈ shape.parts, part.index < id.index) ∧
    (∀ id members, store.lookup id = some (.union members) →
      UnitedMembers .mixed .never .null members ∧
        ∀ member ∈ members, ∀ inner, store.lookup member ≠ some (.union inner)) ∧
    (∀ id members, store.lookup id = some (.intersection members) →
      MetMembers .mixed .never members ∧
        ∀ member ∈ members, ∀ inner, store.lookup member ≠ some (.intersection inner)) ∧
    (∀ id name arguments, store.lookup id = some (.object name arguments) →
      ∃ atom, store.atoms.find? name = some atom ∧ store.atoms.resolve atom = name) ∧
    (∀ atom other, store.atoms.Contains atom → store.atoms.Contains other →
      (atom = other ↔ store.atoms.resolve atom = store.atoms.resolve other)) ∧
    (∀ id shape, store.lookup id = some shape → store.tree id = shape.unfold store.tree) ∧
    ∀ id other, store.Contains id → store.Contains other →
      (id = other ↔ store.tree id = store.tree other) := by
  have canonical := reached.canonical
  refine ⟨fun operation given => ?_, fun name arguments => atoms_intern store _,
    fun id => reached.contains, canonical.earlier, ?_, ?_, fun id name arguments => exists_atom, ?_,
    fun id shape => canonical.tree_of_lookup, ?_⟩
  · have grows := (reached.build_continues operation given).grows
    exact ⟨fun id => grows.lookup_eq, fun atom => grows.resolve_eq, fun name atom => grows.find?_eq⟩
  · intro id members found
    obtain ⟨form, whole⟩ := canonical.normal found
    refine ⟨form, fun member present inner isUnion => ?_⟩
    have closed := whole member present
    rw [isUnion] at closed
    cases closed
  · intro id members found
    obtain ⟨form, whole⟩ := canonical.normal found
    refine ⟨form, fun member present inner isIntersection => ?_⟩
    have closed := whole member present
    rw [isIntersection] at closed
    cases closed
  · exact fun atom other known otherKnown => ⟨congrArg store.atoms.resolve,
      Text.AtomTable.eq_of_resolve_eq (nodup_atoms store) known otherKnown⟩
  · exact fun id other known otherKnown => (canonical.tree_eq_iff known otherKnown).symm

/-- The store after `Book`, a text that is no type expression but has `Shelf` complete, and the
first of them with null. -/
def bookStore : TypeStore :=
  let books := ((StoreOperation.object "\\Book" []).build.run initial).2
  let shelves := ((StoreOperation.parse "Shelf|").build.run books).2
  ((StoreOperation.addNull ⟨7⟩).build.run shelves).2

theorem reached_bookStore :
    Reached bookStore [⟨9⟩, ⟨7⟩, .mixed, .never, .null, .int, .string, .bool, .float] := by
  let books := ((StoreOperation.object "\\Book" []).build.run initial).2
  let shelves := ((StoreOperation.parse "Shelf|").build.run books).2
  have book : returnedTypes ((StoreOperation.object "\\Book" []).build.run initial).1 = [⟨7⟩] := by
    decide +kernel
  have nothing : returnedTypes ((StoreOperation.parse "Shelf|").build.run books).1 = [] := by
    decide +kernel
  have bookOrNull : returnedTypes ((StoreOperation.addNull ⟨7⟩).build.run shelves).1 = [⟨9⟩] := by
    decide +kernel
  have first := Reached.start.after (.object "\\Book" []) (by simp [StoreOperation.given])
  rw [book] at first
  have second := first.after (.parse "Shelf|") (by simp [StoreOperation.given])
  rw [nothing] at second
  have third := second.after (.addNull ⟨7⟩) (by simp [StoreOperation.given])
  rw [bookOrNull] at third
  exact third

/-- Making `Book` or null again, with the members the other way round, gives the type that is
there already. -/
theorem store_invariant_bookStore :
    bookStore.lookup ⟨9⟩ = some (.union [⟨7⟩, .null]) ∧
      UnitedMembers .mixed .never .null [⟨7⟩, TypeId.null] ∧
      bookStore.tree ⟨9⟩ = .union [.object "Book" [], .scalar .null] ∧
      bookStore.tree ⟨9⟩ ≠ bookStore.tree ⟨7⟩ ∧
      returnedTypes ((StoreOperation.union [.null, ⟨7⟩]).build.run bookStore).1 = [⟨9⟩] ∧
      ((StoreOperation.union [.null, ⟨7⟩]).build.run bookStore).2.lookup ⟨8⟩ =
        bookStore.lookup ⟨8⟩ := by
  have union : bookStore.lookup ⟨9⟩ = some (.union [⟨7⟩, .null]) := by decide +kernel
  have known (id : TypeId) (inside : id.index < 10) : bookStore.Contains id := by
    have size : bookStore.size = 10 := by decide +kernel
    rwa [Contains, size]
  obtain ⟨kept, _, _, _, unions, _, _, _, _, trees⟩ := reached_bookStore.store_invariant
  have apart := trees ⟨9⟩ ⟨7⟩ (known _ (by decide)) (known _ (by decide))
  refine ⟨union, (unions _ _ union).1, by decide +kernel,
    fun same => absurd (apart.mpr same) (by decide), by decide +kernel, ?_⟩
  exact (kept (.union [.null, ⟨7⟩]) (by simp [StoreOperation.given])).1 ⟨8⟩ (known _ (by decide))

/-! ### Two levels -/

/-- A store with any history holds what a table of class names and shapes with numbers hold together
that have interned the same shapes. -/
theorem Reached.exists_interned (reached : Reached store returned) :
    ∃ shapes : List Shape, ((shapes.mapM intern).run initial).2 = store ∧
      ((shapes.mapM NumberedStore.intern).run .initial).2 = store.numbered ∧
      ∀ id, (store.numbered.lookup id).map (NumberedShape.named store.atoms) =
        store.lookup id := by
  have canonical := reached.canonical
  obtain ⟨shapes, named, numbered⟩ :=
    canonical.standard.exists_interned canonical.nodup_shapes
  rw [numbered_initial] at numbered
  exact ⟨shapes, named, numbered, fun id => (store.lookup_numbered id).2⟩

/-! ### Two histories -/

def madeTree (build : Building TypeId) (store : TypeStore) : TypeTree :=
  (build.run store).2.tree (build.run store).1

theorem madeTree_eq {build buildOther : Building TypeId} {tree treeOther : TypeTree}
    (made : Makes build first tree) (madeOther : Makes buildOther second treeOther)
    (same : tree = treeOther) : madeTree build first = madeTree buildOther second :=
  made.2.2.trans (same.trans madeOther.2.2.symm)

/-- Two stores with any histories give the same answers about types with the same trees, and make
types with the same trees from them. -/
theorem Reached.answers_agree (firstReached : Reached first returned)
    (secondReached : Reached second others) (hierarchy : Hierarchy) (options : CheckOptions)
    {id other target targetOther : TypeId} (ids : first.Agree second id other)
    (targets : first.Agree second target targetOther) {members memberOthers : List TypeId}
    (memberIds : List.Forall₂ (first.Agree second) members memberOthers) (input : String)
    (checker : SubtypeChecker) :
    checker.check first hierarchy id target = checker.check second hierarchy other targetOther ∧
      first.text id = second.text other ∧
      first.isNullable id = second.isNullable other ∧
      madeTree (union members) first = madeTree (union memberOthers) second ∧
      madeTree (intersection members) first = madeTree (intersection memberOthers) second ∧
      madeTree (addNull id) first = madeTree (addNull other) second ∧
      madeTree (removeNull id) first = madeTree (removeNull other) second ∧
      madeTree (normalizeCollection hierarchy options id) first =
        madeTree (normalizeCollection hierarchy options other) second ∧
      ((parseType input).run first).1.map ((parseType input).run first).2.tree =
        ((parseType input).run second).1.map ((parseType input).run second).2.tree := by
  have canonical := firstReached.canonical
  have canonicalOther := secondReached.canonical
  have related := ids.fromLevel_eq hierarchy canonical canonicalOther checker.depth targets
  have trees : members.map first.tree = memberOthers.map second.tree :=
    map_eq_of_forall₂ memberIds (fun _ _ agree => agree.tree)
  have known : ∀ member ∈ members, first.Contains member :=
    ((List.forall₂_and_left _ _).mp (memberIds.imp (fun _ _ agree => ⟨agree.known, agree⟩))).1
  have otherKnown : ∀ member ∈ memberOthers, second.Contains member :=
    ((List.forall₂_and_left _ _).mp
      (memberIds.flip.imp (fun _ _ agree => ⟨agree.otherKnown, agree⟩))).1
  refine ⟨by rw [SubtypeChecker.check_eq, SubtypeChecker.check_eq, related],
    ids.text_eq canonical canonicalOther, ?_, ?_, ?_, ?_, ?_, ?_, ?_⟩
  · rw [canonical.isNullable_tree ids.known, canonicalOther.isNullable_tree ids.otherKnown,
      ids.tree]
  · exact madeTree_eq (union_makes canonical known) (union_makes canonicalOther otherKnown)
      (congrArg TypeTree.unite trees)
  · exact madeTree_eq (intersection_makes canonical known)
      (intersection_makes canonicalOther otherKnown) (congrArg TypeTree.meet trees)
  · exact madeTree_eq (addNull_makes canonical ids.known)
      (addNull_makes canonicalOther ids.otherKnown) (congrArg TypeTree.withNull ids.tree)
  · exact madeTree_eq (removeNull_makes canonical ids.known)
      (removeNull_makes canonicalOther ids.otherKnown) (congrArg TypeTree.withoutNull ids.tree)
  · exact madeTree_eq (normalizeCollection_makes hierarchy options canonical ids.known)
      (normalizeCollection_makes hierarchy options canonicalOther ids.otherKnown)
      (congrArg (TypeTree.normalize hierarchy options) ids.tree)
  · exact (parseType_makes input canonical).2.2.trans
      (parseType_makes input canonicalOther).2.2.symm

def readStore : TypeStore := ((StoreOperation.parse "Book|null").build.run initial).2

theorem reached_readStore :
    Reached readStore [⟨8⟩, .mixed, .never, .null, .int, .string, .bool, .float] := by
  have bookOrNull : returnedTypes ((StoreOperation.parse "Book|null").build.run initial).1 =
      [⟨8⟩] := by
    decide +kernel
  have read := Reached.start.after (.parse "Book|null") (by simp [StoreOperation.given])
  rw [bookOrNull] at read
  exact read

theorem answers_agree_bookStore :
    bookStore.Agree readStore ⟨9⟩ ⟨8⟩ ∧ bookStore.Agree readStore ⟨7⟩ ⟨7⟩ ∧
      SubtypeChecker.check {} bookStore .empty ⟨9⟩ ⟨7⟩ =
        SubtypeChecker.check {} readStore .empty ⟨8⟩ ⟨7⟩ ∧
      bookStore.text ⟨9⟩ = readStore.text ⟨8⟩ ∧
      madeTree (union [⟨7⟩, ⟨9⟩]) bookStore = madeTree (union [⟨7⟩, ⟨8⟩]) readStore := by
  have orNull : bookStore.Agree readStore ⟨9⟩ ⟨8⟩ :=
    ⟨reached_bookStore.contains List.mem_cons_self, reached_readStore.contains List.mem_cons_self,
      by decide +kernel⟩
  have bookRead : readStore.lookup ⟨7⟩ = some (.object "Book" []) := by decide +kernel
  have book : bookStore.Agree readStore ⟨7⟩ ⟨7⟩ :=
    ⟨reached_bookStore.contains (by simp), contains_of_lookup bookRead, by decide +kernel⟩
  have agree := reached_bookStore.answers_agree reached_readStore .empty {} orNull book
    (.cons book (.cons orNull .nil)) "Shelf|" {}
  exact ⟨orNull, book, agree.1, agree.2.1, agree.2.2.2.1⟩

end AssociationCheck
