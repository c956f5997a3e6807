/-
Trees of types.

In a store in which every type stands after its parts, unfolding a type comes to an end. The tree
of a type is its shape with the trees of its parts in place of their identifiers, and stays the
same as the store grows.
-/

import AssociationCheck.Proofs.Types.WellFormed
import AssociationCheck.Types.Text
import Mathlib.Data.List.Forall2

namespace AssociationCheck

/-! ### Equality of trees -/

namespace TypeTree

mutual

def same : TypeTree → TypeTree → Bool
  | .unknown, .unknown => true
  | .elided, .elided => true
  | .scalar kind, .scalar other => kind == other
  | .object name arguments, .object other others => name == other && sameAll arguments others
  | .iterable key value, .iterable other item => same key other && same value item
  | .array key value, .array other item => same key other && same value item
  | .union members, .union others => sameAll members others
  | .intersection members, .intersection others => sameAll members others
  | _, _ => false

def sameAll : List TypeTree → List TypeTree → Bool
  | [], [] => true
  | tree :: trees, other :: others => same tree other && sameAll trees others
  | _, _ => false

end

mutual

theorem same_iff (tree other : TypeTree) : tree.same other = true ↔ tree = other := by
  cases tree with
  | unknown => cases other <;> simp [same]
  | elided => cases other <;> simp [same]
  | scalar kind => cases other <;> simp [same]
  | object name arguments => cases other <;> simp [same, sameAll_iff arguments]
  | iterable key value => cases other <;> simp [same, same_iff key, same_iff value]
  | array key value => cases other <;> simp [same, same_iff key, same_iff value]
  | union members => cases other <;> simp [same, sameAll_iff members]
  | intersection members => cases other <;> simp [same, sameAll_iff members]

theorem sameAll_iff (trees others : List TypeTree) :
    sameAll trees others = true ↔ trees = others := by
  cases trees with
  | nil => cases others <;> simp [sameAll]
  | cons tree trees => cases others <;> simp [sameAll, same_iff tree, sameAll_iff trees]

end

instance : DecidableEq TypeTree := fun tree other => decidable_of_iff _ (same_iff tree other)

end TypeTree

/-! ### One level -/

/-- A shape with trees in place of the identifiers of its parts. -/
def Shape.unfold (tree : TypeId → TypeTree) : Shape → TypeTree
  | scalar kind => .scalar kind
  | object name arguments => .object name (arguments.map tree)
  | iterable key value => .iterable (tree key) (tree value)
  | array key value => .array (tree key) (tree value)
  | union members => .union (members.map tree)
  | intersection members => .intersection (members.map tree)

theorem Shape.unfold_congr {first second : TypeId → TypeTree} {shape : Shape}
    (parts : ∀ part ∈ shape.parts, first part = second part) :
    shape.unfold first = shape.unfold second := by
  cases shape with
  | scalar kind => rfl
  | object name arguments => exact congrArg (TypeTree.object name) (List.map_congr_left parts)
  | iterable key value =>
      rw [unfold, unfold, parts key (by simp [Shape.parts]), parts value (by simp [Shape.parts])]
  | array key value =>
      rw [unfold, unfold, parts key (by simp [Shape.parts]), parts value (by simp [Shape.parts])]
  | union members => exact congrArg TypeTree.union (List.map_congr_left parts)
  | intersection members => exact congrArg TypeTree.intersection (List.map_congr_left parts)

/-- Two shapes of the same kind with the same name, whose parts are related one by one. -/
inductive Shape.Alike (related : TypeId → TypeId → Prop) : Shape → Shape → Prop
  | scalar (kind : Scalar) : Alike related (.scalar kind) (.scalar kind)
  | object (name : String) {arguments others : List TypeId}
      (parts : List.Forall₂ related arguments others) :
      Alike related (.object name arguments) (.object name others)
  | iterable {key value other item : TypeId} (keys : related key other)
      (values : related value item) : Alike related (.iterable key value) (.iterable other item)
  | array {key value other item : TypeId} (keys : related key other)
      (values : related value item) : Alike related (.array key value) (.array other item)
  | union {members others : List TypeId} (parts : List.Forall₂ related members others) :
      Alike related (.union members) (.union others)
  | intersection {members others : List TypeId} (parts : List.Forall₂ related members others) :
      Alike related (.intersection members) (.intersection others)

theorem forall₂_of_map_eq {first second : TypeId → TypeTree} {ids others : List TypeId}
    (same : ids.map first = others.map second) :
    List.Forall₂ (fun id other => id ∈ ids ∧ other ∈ others ∧ first id = second other) ids
      others := by
  induction ids generalizing others with
  | nil =>
      rw [List.map_eq_nil_iff.mp same.symm]
      exact .nil
  | cons id ids ih =>
      cases others with
      | nil => cases same
      | cons other others =>
          obtain ⟨head, tail⟩ := List.cons.inj same
          refine .cons ⟨List.mem_cons_self, List.mem_cons_self, head⟩ ((ih tail).imp ?_)
          exact fun _ _ both =>
            ⟨List.mem_cons_of_mem _ both.1, List.mem_cons_of_mem _ both.2.1, both.2.2⟩

theorem Shape.alike_of_unfold_eq {first second : TypeId → TypeTree} {shape other : Shape}
    (same : shape.unfold first = other.unfold second) :
    shape.Alike (fun part item => part ∈ shape.parts ∧ item ∈ other.parts ∧
      first part = second item) other := by
  cases shape with
  | scalar kind =>
      cases other with
      | scalar kind =>
          rw [TypeTree.scalar.inj same]
          exact .scalar kind
      | _ => cases same
  | object name arguments =>
      cases other with
      | object name others =>
          obtain ⟨rfl, arguments⟩ := TypeTree.object.inj same
          exact .object _ (forall₂_of_map_eq arguments)
      | _ => cases same
  | iterable key value =>
      cases other with
      | iterable other item =>
          obtain ⟨keys, values⟩ := TypeTree.iterable.inj same
          exact .iterable ⟨by simp [parts], by simp [parts], keys⟩
            ⟨by simp [parts], by simp [parts], values⟩
      | _ => cases same
  | array key value =>
      cases other with
      | array other item =>
          obtain ⟨keys, values⟩ := TypeTree.array.inj same
          exact .array ⟨by simp [parts], by simp [parts], keys⟩
            ⟨by simp [parts], by simp [parts], values⟩
      | _ => cases same
  | union members =>
      cases other with
      | union others => exact .union (forall₂_of_map_eq (TypeTree.union.inj same))
      | _ => cases same
  | intersection members =>
      cases other with
      | intersection others =>
          exact .intersection (forall₂_of_map_eq (TypeTree.intersection.inj same))
      | _ => cases same

theorem Shape.Alike.imp {related weaker : TypeId → TypeId → Prop} {shape other : Shape}
    (alike : shape.Alike related other) (implied : ∀ part item, related part item →
      weaker part item) : shape.Alike weaker other := by
  cases alike with
  | scalar kind => exact .scalar kind
  | object name parts => exact .object name (parts.imp implied)
  | iterable keys values => exact .iterable (implied _ _ keys) (implied _ _ values)
  | array keys values => exact .array (implied _ _ keys) (implied _ _ values)
  | union parts => exact .union (parts.imp implied)
  | intersection parts => exact .intersection (parts.imp implied)

theorem Shape.Alike.eq {related : TypeId → TypeId → Prop} {shape other : Shape}
    (alike : shape.Alike related other) (same : ∀ part item, related part item → part = item) :
    shape = other := by
  have lists {ids items : List TypeId} (parts : List.Forall₂ related ids items) : ids = items :=
    List.forall₂_eq_eq_eq ▸ parts.imp same
  cases alike with
  | scalar kind => rfl
  | object name parts => rw [lists parts]
  | iterable keys values => rw [same _ _ keys, same _ _ values]
  | array keys values => rw [same _ _ keys, same _ _ values]
  | union parts => rw [lists parts]
  | intersection parts => rw [lists parts]

namespace TypeStore

variable {store later : TypeStore} {id : TypeId} {shape : Shape}

theorem treeWithin_of_lookup (levels : Nat) (found : store.lookup id = some shape) :
    store.treeWithin (levels + 1) id = shape.unfold (store.treeWithin levels) := by
  rw [treeWithin, found]
  cases shape <;> rfl

/-! ### Whole trees -/

/-- The tree of a type with nothing left out: a type that stands after its parts has no more
levels than the store has types. -/
def tree (store : TypeStore) (id : TypeId) : TypeTree := store.treeWithin store.size id

/-- Numbers of levels that reach below a type give it the same tree, also in a later store. -/
theorem WellFormed.treeWithin_later (formed : store.WellFormed) (grows : store.GrowsTo later)
    (known : store.Contains id) {levels more : Nat} (enough : id.index < levels)
    (enoughMore : id.index < more) : later.treeWithin more id = store.treeWithin levels id := by
  induction levels generalizing id more with
  | zero => omega
  | succ levels ih =>
      obtain ⟨shape, found⟩ := exists_lookup known
      obtain ⟨more, rfl⟩ : ∃ fewer, more = fewer + 1 := ⟨more - 1, by omega⟩
      rw [treeWithin_of_lookup levels found, treeWithin_of_lookup more (grows found)]
      apply Shape.unfold_congr
      intro part present
      have earlier := formed.earlier found part present
      exact ih (formed.contains_part found present) (by omega) (by omega)

theorem WellFormed.tree_later (formed : store.WellFormed) (grows : store.GrowsTo later)
    (known : store.Contains id) : later.tree id = store.tree id :=
  formed.treeWithin_later grows known known (grows.contains known)

theorem WellFormed.map_tree_later (formed : store.WellFormed) (grows : store.GrowsTo later)
    {ids : List TypeId} (known : ∀ id ∈ ids, store.Contains id) :
    ids.map later.tree = ids.map store.tree :=
  List.map_congr_left (fun id present => formed.tree_later grows (known id present))

theorem WellFormed.tree_of_lookup (formed : store.WellFormed)
    (found : store.lookup id = some shape) : store.tree id = shape.unfold store.tree := by
  have known : store.Contains id := contains_of_lookup found
  have inside : id.index < store.size := known
  obtain ⟨levels, size⟩ : ∃ levels, store.size = levels + 1 := ⟨store.size - 1, by omega⟩
  rw [tree, size, treeWithin_of_lookup levels found]
  apply Shape.unfold_congr
  intro part present
  have earlier := formed.earlier found part present
  exact formed.treeWithin_later (GrowsTo.refl store) (formed.contains_part found present)
    (Nat.lt_trans earlier inside) (by omega)

theorem WellFormed.tree_scalar (formed : store.WellFormed) (kind : Scalar) :
    store.tree kind.id = .scalar kind :=
  formed.tree_of_lookup (lookup_scalar formed.standard kind)

end TypeStore

end AssociationCheck
