/-
The numbers of class names.

The class names of a store are numbered in the order in which they first occur. Making an object
type interns the name of its class and no other constructor interns a name, so the table that is
read off the store is the one that would be kept beside it. A name keeps its number as the store
grows, and two numbers name the same class only if they are the same.
-/

import AssociationCheck.Proofs.Types.Growth
import AssociationCheck.Text.AtomTable
import Mathlib.Data.List.Nodup

namespace AssociationCheck

namespace Text.AtomTable

variable {table : AtomTable} {text : String} {atom : Atom}

/-! ### Tables that keep every text once -/

def Contains (table : AtomTable) (atom : Atom) : Prop := atom.index < table.size

theorem getElem?_of_find? (found : table.find? text = some atom) :
    table.texts[atom.index]? = some text := by
  obtain ⟨index, known, rfl⟩ := Option.map_eq_some_iff.mp found
  rw [Array.idxOf?, Option.map_eq_some_iff] at known
  obtain ⟨place, known, rfl⟩ := known
  simpa using (Array.finIdxOf?_eq_some_iff.mp known).1

theorem not_mem_of_find?_eq_none (unknown : table.find? text = none) : text ∉ table.texts := by
  rw [find?, Option.map_eq_none_iff, Array.idxOf?, Option.map_eq_none_iff] at unknown
  exact Array.finIdxOf?_eq_none_iff.mp unknown

theorem find?_isSome (present : text ∈ table.texts) : ∃ atom, table.find? text = some atom := by
  cases found : table.find? text with
  | some atom => exact ⟨atom, rfl⟩
  | none => exact absurd present (not_mem_of_find?_eq_none found)

/-- A known text keeps its number and the table; a new one is added at the end. -/
theorem texts_intern (table : AtomTable) (text : String) :
    (table.intern text).2.texts =
      if text ∈ table.texts then table.texts else table.texts.push text := by
  unfold intern
  cases found : table.find? text with
  | some atom => rw [if_pos (Array.mem_of_getElem? (getElem?_of_find? found))]
  | none => rw [if_neg (not_mem_of_find?_eq_none found)]

theorem prefix_intern (table : AtomTable) (text : String) :
    table.texts.toList <+: (table.intern text).2.texts.toList := by
  rw [texts_intern]
  split
  · exact List.prefix_refl _
  · rw [Array.toList_push]
    exact List.prefix_append _ _

theorem nodup_intern (once : table.texts.toList.Nodup) (text : String) :
    (table.intern text).2.texts.toList.Nodup := by
  rw [texts_intern]
  split
  · exact once
  · rename_i absent
    rw [Array.toList_push]
    exact List.nodup_append.mpr ⟨once, by simp, by
      rintro other present _ isText rfl
      exact absent (List.mem_singleton.mp isText ▸ Array.mem_toList_iff.mp present)⟩

theorem resolve_of_grown {later : AtomTable} (grows : table.texts.toList <+: later.texts.toList)
    (known : table.Contains atom) : later.resolve atom = table.resolve atom := by
  obtain ⟨added, split⟩ := grows
  have inside : atom.index < table.texts.toList.length := known
  rw [resolve, resolve, ← Array.getElem?_toList, ← Array.getElem?_toList, ← split,
    List.getElem?_append_left inside]

theorem eq_of_resolve_eq (once : table.texts.toList.Nodup) {other : Atom}
    (known : table.Contains atom) (otherKnown : table.Contains other)
    (same : table.resolve atom = table.resolve other) : atom = other := by
  have inside : atom.index < table.texts.toList.length := known
  have otherInside : other.index < table.texts.toList.length := otherKnown
  rw [resolve, resolve, ← Array.getElem?_toList, ← Array.getElem?_toList,
    List.getElem?_eq_getElem inside, List.getElem?_eq_getElem otherInside] at same
  cases atom
  cases other
  exact congrArg Atom.mk ((List.Nodup.getElem_inj_iff once).mp same)

theorem getElem?_of_grown {later : AtomTable} (grows : table.texts.toList <+: later.texts.toList)
    (placed : table.texts[atom.index]? = some text) : later.texts[atom.index]? = some text := by
  obtain ⟨added, split⟩ := grows
  have inside := (Array.getElem?_eq_some_iff.mp placed).1
  rw [← Array.getElem?_toList] at placed ⊢
  rwa [← split, List.getElem?_append_left inside]

theorem find?_of_getElem? (once : table.texts.toList.Nodup)
    (placed : table.texts[atom.index]? = some text) : table.find? text = some atom := by
  obtain ⟨other, found⟩ := find?_isSome (Array.mem_of_getElem? placed)
  have otherPlaced := getElem?_of_find? found
  have resolved : table.resolve atom = table.resolve other := by
    rw [resolve, resolve, placed, otherPlaced]
  rw [found, eq_of_resolve_eq once (Array.getElem?_eq_some_iff.mp placed).1
    (Array.getElem?_eq_some_iff.mp otherPlaced).1 resolved]

theorem find?_of_grown {later : AtomTable} (once : later.texts.toList.Nodup)
    (grows : table.texts.toList <+: later.texts.toList) (found : table.find? text = some atom) :
    later.find? text = some atom :=
  find?_of_getElem? once (getElem?_of_grown grows (getElem?_of_find? found))

theorem intern_of_mem (present : text ∈ table.texts) :
    ∃ atom, table.intern text = (atom, table) ∧ table.find? text = some atom := by
  obtain ⟨atom, found⟩ := find?_isSome present
  exact ⟨atom, by rw [intern, found], found⟩

theorem mem_intern (table : AtomTable) (text : String) : text ∈ (table.intern text).2.texts := by
  rw [texts_intern]
  split
  · assumption
  · exact Array.mem_push_self

end Text.AtomTable

def Shape.NamedIn (table : Text.AtomTable) (shape : Shape) : Prop :=
  ∀ name arguments, shape = .object name arguments → name ∈ table.texts

namespace TypeStore

open Building Text

variable {store later : TypeStore} {shape : Shape}

/-! ### The class names of a store -/

def rememberName (table : AtomTable) : Shape → AtomTable
  | .object name _ => (table.intern name).2
  | _ => table

theorem rememberName_of_namedIn {table : AtomTable} (inside : shape.NamedIn table) :
    rememberName table shape = table := by
  cases shape with
  | object name arguments =>
      obtain ⟨atom, interned, _⟩ := AtomTable.intern_of_mem (inside name arguments rfl)
      rw [rememberName, interned]
  | _ => rfl

/-- The class names of a store, numbered in the order in which they first occur. -/
def atoms (store : TypeStore) : AtomTable :=
  store.shapes.toList.foldl rememberName .initial

theorem atoms_push (store : TypeStore) (shape : Shape) :
    (TypeStore.mk (store.shapes.push shape)).atoms = rememberName store.atoms shape := by
  rw [atoms, Array.toList_push, List.foldl_append]
  rfl

theorem prefix_rememberName (table : AtomTable) (shape : Shape) :
    table.texts.toList <+: (rememberName table shape).texts.toList := by
  cases shape with
  | object name arguments => exact table.prefix_intern name
  | _ => exact List.prefix_refl _

theorem prefix_foldl_rememberName (shapes : List Shape) (table : AtomTable) :
    table.texts.toList <+: (shapes.foldl rememberName table).texts.toList := by
  induction shapes generalizing table with
  | nil => exact List.prefix_refl _
  | cons shape others ih => exact (prefix_rememberName table shape).trans (ih _)

theorem nodup_atoms (store : TypeStore) : store.atoms.texts.toList.Nodup := by
  have each (shapes : List Shape) : ∀ table : AtomTable, table.texts.toList.Nodup →
      (shapes.foldl rememberName table).texts.toList.Nodup := by
    induction shapes with
    | nil => exact fun _ once => once
    | cons shape others ih =>
        intro table once
        apply ih
        cases shape with
        | object name arguments => exact AtomTable.nodup_intern once name
        | _ => exact once
  exact each store.shapes.toList .initial (by decide)

theorem mem_atoms_of_mem {name : String} {arguments : List TypeId} {shapes : List Shape}
    (present : .object name arguments ∈ shapes) (table : AtomTable) :
    name ∈ (shapes.foldl rememberName table).texts := by
  induction shapes generalizing table with
  | nil => cases present
  | cons shape others ih =>
      rcases List.mem_cons.mp present with rfl | among
      · exact Array.mem_toList_iff.mp ((prefix_foldl_rememberName others _).subset
          (Array.mem_toList_iff.mpr (table.mem_intern name)))
      · exact ih among _

theorem mem_atoms {id : TypeId} {name : String} {arguments : List TypeId}
    (found : store.lookup id = some (.object name arguments)) : name ∈ store.atoms.texts :=
  mem_atoms_of_mem (Array.mem_toList_iff.mpr (Array.mem_of_getElem? found)) .initial

theorem namedIn_atoms {id : TypeId} (found : store.lookup id = some shape) :
    shape.NamedIn store.atoms := by
  rintro name arguments rfl
  exact mem_atoms found

theorem exists_atom {id : TypeId} {name : String} {arguments : List TypeId}
    (found : store.lookup id = some (.object name arguments)) :
    ∃ atom, store.atoms.find? name = some atom ∧ store.atoms.resolve atom = name := by
  obtain ⟨atom, known⟩ := AtomTable.find?_isSome (mem_atoms found)
  exact ⟨atom, known, by rw [AtomTable.resolve, AtomTable.getElem?_of_find? known]; rfl⟩

/-- Interning a shape interns the class name in it and nothing else. -/
theorem atoms_intern (store : TypeStore) (shape : Shape) :
    ((intern shape).run store).2.atoms = rememberName store.atoms shape := by
  rcases intern_run_cases shape store with ⟨id, found, same⟩ | added
  · rw [same, rememberName_of_namedIn (namedIn_atoms found)]
  · rw [added]
    exact atoms_push store shape

/-! ### Later stores -/

theorem GrowsTo.prefix_shapes (grows : store.GrowsTo later) :
    store.shapes.toList <+: later.shapes.toList := by
  apply List.prefix_iff_getElem?.mpr
  intro index inside
  have found : store.lookup ⟨index⟩ = some store.shapes.toList[index] := by
    rw [lookup, ← Array.getElem?_toList, List.getElem?_eq_getElem inside]
  have kept := grows found
  rwa [lookup, ← Array.getElem?_toList] at kept

theorem GrowsTo.prefix_atoms (grows : store.GrowsTo later) :
    store.atoms.texts.toList <+: later.atoms.texts.toList := by
  obtain ⟨added, split⟩ := grows.prefix_shapes
  rw [atoms, atoms, ← split, List.foldl_append]
  exact prefix_foldl_rememberName added _

theorem GrowsTo.resolve_eq (grows : store.GrowsTo later) {atom : Atom}
    (known : store.atoms.Contains atom) : later.atoms.resolve atom = store.atoms.resolve atom :=
  AtomTable.resolve_of_grown grows.prefix_atoms known

theorem GrowsTo.find?_eq (grows : store.GrowsTo later) {name : String} {atom : Atom}
    (found : store.atoms.find? name = some atom) : later.atoms.find? name = some atom :=
  AtomTable.find?_of_grown (nodup_atoms later) grows.prefix_atoms found

end TypeStore

end AssociationCheck
