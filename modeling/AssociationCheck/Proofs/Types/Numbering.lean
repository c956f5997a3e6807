/-
Stores with two levels.

A store can be kept as a table of class names and, beside it, shapes in which a class is known by
the number of its name. Interning then takes two steps, one for the name and one for the shape with
its number. Numbering the names of a store gives the store with two levels that has interned the
same shapes, so both find the same identifiers and hold the same shapes under them.
-/

import AssociationCheck.Proofs.Types.Atoms

namespace AssociationCheck

open Text

/-! ### Shapes with numbers -/

/-- What a type is made of, where a class is known by the number of its name. -/
inductive NumberedShape
  | scalar (kind : Scalar)
  | object (atom : Atom) (arguments : List TypeId)
  | iterable (key value : TypeId)
  | array (key value : TypeId)
  | union (members : List TypeId)
  | intersection (members : List TypeId)
  deriving DecidableEq, Repr

def NumberedShape.named (table : AtomTable) : NumberedShape → Shape
  | scalar kind => .scalar kind
  | object atom arguments => .object (table.resolve atom) arguments
  | iterable key value => .iterable key value
  | array key value => .array key value
  | union members => .union members
  | intersection members => .intersection members

/-- The shape with the number of its class, which a new name gets. -/
def Shape.number (table : AtomTable) : Shape → NumberedShape
  | scalar kind => .scalar kind
  | object name arguments => .object (table.intern name).1 arguments
  | iterable key value => .iterable key value
  | array key value => .array key value
  | union members => .union members
  | intersection members => .intersection members

namespace Text.AtomTable

variable {table later : AtomTable} {text other : String}

theorem intern_of_not_mem (absent : text ∉ table.texts) :
    table.intern text = (⟨table.size⟩, ⟨table.texts.push text⟩) := by
  cases found : table.find? text with
  | none => rw [intern, found]
  | some atom => exact absurd (Array.mem_of_getElem? (getElem?_of_find? found)) absent

/-- A text that is kept has the number of no other text, kept or new. -/
theorem intern_fst_inj (present : text ∈ table.texts)
    (same : (table.intern text).1 = (table.intern other).1) : text = other := by
  obtain ⟨atom, interned, found⟩ := intern_of_mem present
  have placed := getElem?_of_find? found
  rw [interned] at same
  by_cases otherPresent : other ∈ table.texts
  · obtain ⟨otherAtom, otherInterned, otherFound⟩ := intern_of_mem otherPresent
    have otherPlaced := getElem?_of_find? otherFound
    rw [otherInterned] at same
    rw [show atom = otherAtom from same, otherPlaced] at placed
    exact (Option.some.inj placed).symm
  · rw [intern_of_not_mem otherPresent] at same
    rw [show atom = ⟨table.size⟩ from same] at placed
    exact absurd (Array.getElem?_eq_some_iff.mp placed).1 (Nat.lt_irrefl table.texts.size)

theorem getElem?_intern (table : AtomTable) (text : String) :
    (table.intern text).2.texts[(table.intern text).1.index]? = some text := by
  by_cases present : text ∈ table.texts
  · obtain ⟨atom, interned, found⟩ := intern_of_mem present
    rw [interned]
    exact getElem?_of_find? found
  · rw [intern_of_not_mem present]
    exact Array.getElem?_push_size

/-- A number that was given is given again by every later table. -/
theorem intern_fst_of_grown (once : later.texts.toList.Nodup)
    (grows : (table.intern text).2.texts.toList <+: later.texts.toList) :
    (later.intern text).1 = (table.intern text).1 := by
  have found := find?_of_getElem? once (getElem?_of_grown grows (table.getElem?_intern text))
  rw [intern, found]

end Text.AtomTable

/-! ### Numbering -/

namespace Shape

variable {table later : AtomTable} {shape other : Shape}

theorem named_number (inside : shape.NamedIn table) : (shape.number table).named table = shape := by
  cases shape with
  | object name arguments =>
      obtain ⟨atom, interned, found⟩ := AtomTable.intern_of_mem (inside name arguments rfl)
      rw [number, NumberedShape.named, interned, AtomTable.resolve,
        AtomTable.getElem?_of_find? found]
      rfl
  | _ => rfl

/-- A shape whose class is in the table has the numbers of no other shape. -/
theorem number_inj (inside : shape.NamedIn table) (same : shape.number table = other.number table) :
    shape = other := by
  cases shape with
  | object name arguments =>
      cases other with
      | object otherName others =>
          obtain ⟨sameAtom, rfl⟩ := NumberedShape.object.inj same
          rw [AtomTable.intern_fst_inj (inside name arguments rfl) sameAtom]
      | _ => cases same
  | _ =>
      cases other <;> cases same
      rfl

theorem number_of_grown (once : later.texts.toList.Nodup)
    (grows : (TypeStore.rememberName table shape).texts.toList <+: later.texts.toList) :
    shape.number later = shape.number table := by
  cases shape with
  | object name arguments => rw [number, number, AtomTable.intern_fst_of_grown once grows]
  | _ => rfl

end Shape

/-! ### Stores with numbers -/

structure NumberedStore where
  names : AtomTable
  shapes : Array NumberedShape
  deriving DecidableEq, Repr

namespace NumberedStore

def initial : NumberedStore :=
  ⟨.initial, #[.scalar .mixed, .scalar .never, .scalar .null, .scalar .int, .scalar .string,
    .scalar .bool, .scalar .float]⟩

def lookup (store : NumberedStore) (id : TypeId) : Option NumberedShape := store.shapes[id.index]?

def find? (store : NumberedStore) (shape : NumberedShape) : Option TypeId :=
  (store.shapes.idxOf? shape).map TypeId.mk

def intern (shape : Shape) : StateM NumberedStore TypeId := fun store =>
  let numbered := shape.number store.names
  let names := TypeStore.rememberName store.names shape
  match store.find? numbered with
  | some id => (id, ⟨names, store.shapes⟩)
  | none => (⟨store.shapes.size⟩, ⟨names, store.shapes.push numbered⟩)

end NumberedStore

namespace TypeStore

variable {store later : TypeStore} {shape : Shape} {id : TypeId}

/-- The store with its class names numbered. -/
def numbered (store : TypeStore) : NumberedStore :=
  ⟨store.atoms, store.shapes.map (Shape.number store.atoms)⟩

theorem numbered_initial : initial.numbered = .initial := by decide +kernel

theorem lookup_numbered (store : TypeStore) (id : TypeId) :
    store.numbered.lookup id = (store.lookup id).map (Shape.number store.atoms) ∧
      (store.numbered.lookup id).map (NumberedShape.named store.atoms) = store.lookup id := by
  have looked : store.numbered.lookup id = (store.lookup id).map (Shape.number store.atoms) :=
    Array.getElem?_map
  refine ⟨looked, ?_⟩
  rw [looked]
  cases found : store.lookup id with
  | none => rfl
  | some shape => exact congrArg some (Shape.named_number (namedIn_atoms found))

theorem idxOf?_map {α β : Type} [BEq α] [LawfulBEq α] [BEq β] [LawfulBEq β] {change : α → β}
    {items : List α} {item : α} (inj : ∀ other ∈ items, change other = change item → other = item) :
    (items.map change).idxOf? (change item) = items.idxOf? item := by
  induction items with
  | nil => rfl
  | cons first others ih =>
      have later := ih fun other present => inj other (List.mem_cons_of_mem _ present)
      have here : (change first == change item) = (first == item) := by
        rw [Bool.eq_iff_iff, beq_iff_eq, beq_iff_eq]
        exact ⟨inj first List.mem_cons_self, congrArg change⟩
      rw [List.map_cons, List.idxOf?_cons, List.idxOf?_cons, later, here]

theorem exists_lookup_of_mem (present : shape ∈ store.shapes) :
    ∃ id, store.lookup id = some shape := by
  obtain ⟨index, inside, same⟩ := Array.mem_iff_getElem.mp present
  exact ⟨⟨index⟩, Array.getElem?_eq_some_iff.mpr ⟨inside, same⟩⟩

theorem find?_numbered (store : TypeStore) (shape : Shape) :
    store.numbered.find? (shape.number store.atoms) = store.find? shape := by
  have inj : ∀ other ∈ store.shapes.toList,
      other.number store.atoms = shape.number store.atoms → other = shape := by
    intro other present same
    obtain ⟨id, found⟩ := exists_lookup_of_mem (Array.mem_toList_iff.mp present)
    exact Shape.number_inj (namedIn_atoms found) same
  have placed : (store.shapes.map (Shape.number store.atoms)).idxOf? (shape.number store.atoms) =
      store.shapes.idxOf? shape := by
    have listed : store.shapes.toList.toArray = store.shapes := Array.toArray_toList
    rw [← listed, List.map_toArray, List.idxOf?_toArray, List.idxOf?_toArray, idxOf?_map inj]
  exact congrArg (Option.map TypeId.mk) placed

theorem numbered_push (store : TypeStore) (shape : Shape) :
    numbered ⟨store.shapes.push shape⟩ =
      ⟨rememberName store.atoms shape, store.numbered.shapes.push (shape.number store.atoms)⟩ := by
  have once := nodup_atoms ⟨store.shapes.push shape⟩
  rw [atoms_push] at once
  have kept : store.shapes.map (Shape.number (rememberName store.atoms shape)) =
      store.shapes.map (Shape.number store.atoms) := by
    refine Array.map_congr_left fun other present => Shape.number_of_grown once ?_
    obtain ⟨id, found⟩ := exists_lookup_of_mem present
    rw [rememberName_of_namedIn (namedIn_atoms found)]
    exact prefix_rememberName store.atoms shape
  rw [numbered, atoms_push, Array.map_push, kept, Shape.number_of_grown once (List.prefix_refl _)]
  rfl

/-- Interning a shape on both levels finds the same identifier and keeps the numbering. -/
theorem intern_numbered (store : TypeStore) (shape : Shape) :
    (NumberedStore.intern shape).run store.numbered =
      (((intern shape).run store).1, ((intern shape).run store).2.numbered) := by
  have sameId : store.numbered.find? (shape.number store.numbered.names) = store.find? shape :=
    find?_numbered store shape
  change NumberedStore.intern shape store.numbered =
    ((intern shape store).1, (intern shape store).2.numbered)
  unfold NumberedStore.intern intern
  simp only [sameId]
  cases known : store.find? shape with
  | some id =>
      have kept := rememberName_of_namedIn (namedIn_atoms (lookup_of_find? known))
      exact congrArg (fun names => (id, NumberedStore.mk names store.numbered.shapes)) kept
  | none =>
      have size : store.numbered.shapes.size = store.size := Array.size_map
      rw [numbered_push, size]
      rfl

/-! ### Runs -/

theorem internAll_numbered (store : TypeStore) (shapes : List Shape) :
    (shapes.mapM NumberedStore.intern).run store.numbered =
      (((shapes.mapM intern).run store).1, ((shapes.mapM intern).run store).2.numbered) := by
  induction shapes generalizing store with
  | nil => rfl
  | cons shape others ih =>
      rw [List.mapM_cons, List.mapM_cons, StateT.run_bind, intern_numbered]
      change ((others.mapM NumberedStore.intern >>= fun ids => pure (_ :: ids)).run
        ((intern shape).run store).2.numbered) = _
      rw [StateT.run_bind, ih]
      rfl

theorem internAll_new (store : TypeStore) {added : List Shape}
    (once : (store.shapes.toList ++ added).Nodup) :
    ((added.mapM intern).run store).2.shapes.toList = store.shapes.toList ++ added := by
  induction added generalizing store with
  | nil => exact (List.append_nil _).symm
  | cons shape others ih =>
      have isNew : (intern shape).run store = (⟨store.size⟩, ⟨store.shapes.push shape⟩) := by
        rcases intern_run_cases shape store with ⟨id, found, _⟩ | added
        · have known := Array.mem_toList_iff.mpr (Array.mem_of_getElem? found)
          exact absurd rfl ((List.nodup_append.mp once).2.2 shape known shape List.mem_cons_self)
        · exact added
      have pushed : (store.shapes.push shape).toList = store.shapes.toList ++ [shape] :=
        Array.toList_push
      have rest := ih ⟨store.shapes.push shape⟩ (by
        rw [pushed, List.append_assoc]
        exact once)
      rw [List.mapM_cons, StateT.run_bind, isNew]
      change ((others.mapM intern).run ⟨store.shapes.push shape⟩).2.shapes.toList = _
      rw [rest, pushed, List.append_assoc]
      rfl

/-- A store in which no shape comes twice is what interning the new shapes leads to from an earlier
one, on both levels. -/
theorem GrowsTo.exists_interned (grows : store.GrowsTo later)
    (once : later.shapes.toList.Nodup) :
    ∃ added : List Shape, ((added.mapM intern).run store).2 = later ∧
      ((added.mapM NumberedStore.intern).run store.numbered).2 = later.numbered := by
  obtain ⟨added, split⟩ := grows.prefix_shapes
  have shapes := internAll_new store (split ▸ once)
  have same : ((added.mapM intern).run store).2 = later := by
    rw [split, Array.toList_inj] at shapes
    exact congrArg TypeStore.mk shapes
  exact ⟨added, same, by rw [internAll_numbered, same]⟩

end TypeStore

end AssociationCheck
