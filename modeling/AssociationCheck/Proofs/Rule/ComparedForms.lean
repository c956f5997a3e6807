/-
The form in which a declared tree is compared.

Instances of a class with arguments that derives from the collection interface are compared as
collections of their last argument. Bringing a tree into this form keeps it in normal form and may
be done before or after joining. What fits a collection, and what a collection fits, is read off its
two members.
-/

import AssociationCheck.Proofs.Rule.Trees
import AssociationCheck.Proofs.Subtype.Members

namespace AssociationCheck.TypeTree

variable {hierarchy : Hierarchy} {options : CheckOptions} {name : String}
  {target tree value : TypeTree} {arguments trees : List TypeTree}

/-! ### Normal form and joining -/

@[simp] theorem normalize_union (members : List TypeTree) :
    normalize hierarchy options (.union members) =
      unite (members.map (normalize hierarchy options)) := by
  rw [normalize, normalizeAll_eq_map]

@[simp] theorem normalize_intersection (members : List TypeTree) :
    normalize hierarchy options (.intersection members) =
      meet (members.map (normalize hierarchy options)) := by
  rw [normalize, normalizeAll_eq_map]

theorem normalize_object_of_last (last : arguments.getLast? = some value) :
    normalize hierarchy options (.object name arguments) =
      if hierarchy.isSameOrDerived name options.collectionInterface then collectionOf name value
      else .object name arguments := by
  rw [normalize, last]

theorem normalize_object_of_nil (none : arguments.getLast? = none) :
    normalize hierarchy options (.object name arguments) = .object name arguments := by
  rw [normalize, none]

def instances (name : String) : TypeTree := .object (withoutLeadingSeparators name) []

def yielding (value : TypeTree) : TypeTree := .iterable (.scalar .mixed) value

theorem normal_instances (name : String) : (instances name).Normal := .object _ (by simp)

theorem Normal.yielding (normal : value.Normal) :
    (TypeTree.yielding value).Normal := .iterable (.scalar .mixed) normal

theorem Normal.collection_members (name : String) (normal : value.Normal) :
    ∀ member ∈ [instances name, TypeTree.yielding value], member.Normal := by
  intro member present
  rcases List.mem_cons.mp present with rfl | present
  · exact normal_instances name
  · rw [List.mem_singleton.mp present]
    exact normal.yielding

theorem Normal.collectionOf (name : String) (normal : value.Normal) :
    (TypeTree.collectionOf name value).Normal :=
  .meet (normal.collection_members name)

theorem Normal.normalize (normal : tree.Normal) :
    (TypeTree.normalize hierarchy options tree).Normal := by
  induction normal with
  | scalar kind => exact .scalar kind
  | @object name arguments each =>
      cases last : arguments.getLast? with
      | none =>
          rw [normalize_object_of_nil last]
          exact .object name each
      | some value =>
          rw [normalize_object_of_last last]
          split
          · exact .collectionOf name (each value (List.mem_of_getLast? last))
          · exact .object name each
  | iterable _ values => exact .iterable (.scalar .mixed) values
  | array _ values => exact .array (.scalar .mixed) values
  | union _ _ _ ih =>
      rw [normalize_union]
      exact .unite (List.forall_mem_map.mpr ih)
  | intersection _ _ _ ih =>
      rw [normalize_intersection]
      exact .meet (List.forall_mem_map.mpr ih)

theorem normal_map_normalize (normal : ∀ tree ∈ trees, tree.Normal) :
    ∀ tree ∈ trees.map (normalize hierarchy options), tree.Normal :=
  List.forall_mem_map.mpr fun tree present => (normal tree present).normalize

theorem normalize_unite (normal : ∀ tree ∈ trees, tree.Normal) :
    normalize hierarchy options (unite trees) =
      unite (trees.map (normalize hierarchy options)) := by
  apply Joining.lawful_uniting.map_join normalize_union (fun kind => rfl)
  · intro tree _
    cases tree <;> first | exact .inl rfl | exact .inr rfl
  · intro tree present member among
    exact ((normal tree present).of_mem_unionMembers among).1.normalize.flat_uniting
  · intro tree present member among
    exact ((normal tree present).of_mem_unionMembers among).1.normalize.unite_single

theorem normalize_meet (normal : ∀ tree ∈ trees, tree.Normal) :
    normalize hierarchy options (meet trees) =
      meet (trees.map (normalize hierarchy options)) := by
  apply Joining.lawful_meeting.map_join normalize_intersection (fun kind => rfl)
  · intro tree _
    cases tree <;> first | exact .inl rfl | exact .inr rfl
  · intro tree present member among
    exact ((normal tree present).of_mem_intersectionMembers among).1.normalize.flat_meeting
  · intro tree present member among
    exact ((normal tree present).of_mem_intersectionMembers among).1.normalize.meet_single

theorem normalize_collectionOf (name : String) (normal : value.Normal) :
    normalize hierarchy options (collectionOf name value) = collectionOf name value :=
  normalize_meet (normal.collection_members name)

/-! ### Undivided trees -/

/-- Trees in normal form are undivided, unions or intersections. -/
@[elab_as_elim]
theorem Normal.divide {motive : (tree : TypeTree) → tree.Normal → Prop}
    (undivided : ∀ tree (normal : tree.Normal), tree.Undivided → motive tree normal)
    (union : ∀ members (normal : (TypeTree.union members).Normal)
      (each : ∀ member ∈ members, member.Normal),
      (∀ member present, motive member (each member present)) → motive (.union members) normal)
    (intersection : ∀ members (normal : (TypeTree.intersection members).Normal)
      (each : ∀ member ∈ members, member.Normal),
      (∀ member present, motive member (each member present)) →
        motive (.intersection members) normal)
    {tree : TypeTree} (normal : tree.Normal) : motive tree normal := by
  induction normal with
  | scalar kind => exact undivided _ _ ⟨rfl, rfl⟩
  | object name each => exact undivided _ _ ⟨rfl, rfl⟩
  | iterable keys values => exact undivided _ _ ⟨rfl, rfl⟩
  | array keys values => exact undivided _ _ ⟨rfl, rfl⟩
  | union form whole each ih => exact union _ _ each ih
  | intersection form whole each ih => exact intersection _ _ each ih

/-- The forms in which an undivided tree is compared. -/
inductive Compared (hierarchy : Hierarchy) (options : CheckOptions) : TypeTree → TypeTree → Prop
  | kept (tree : TypeTree) : Compared hierarchy options tree tree
  | collection {name : String} {arguments : List TypeTree} {value : TypeTree}
      (last : arguments.getLast? = some value)
      (derived : hierarchy.isSameOrDerived name options.collectionInterface = true) :
      Compared hierarchy options (.object name arguments) (collectionOf name value)
  | iterable (key value : TypeTree) :
      Compared hierarchy options (.iterable key value) (.iterable (.scalar .mixed) value)
  | array (key value : TypeTree) :
      Compared hierarchy options (.array key value) (.array (.scalar .mixed) value)

theorem Undivided.compared (undivided : tree.Undivided) :
    Compared hierarchy options tree (normalize hierarchy options tree) := by
  cases tree with
  | object name arguments =>
      cases last : arguments.getLast? with
      | none =>
          rw [normalize_object_of_nil last]
          exact .kept _
      | some value =>
          rw [normalize_object_of_last last]
          by_cases derived : hierarchy.isSameOrDerived name options.collectionInterface = true
          · rw [if_pos derived]
            exact .collection last derived
          · rw [if_neg derived]
            exact .kept _
  | iterable key value => exact .iterable key value
  | array key value => exact .array key value
  | union members => exact absurd rfl (ne_union_of_whole undivided.1 _)
  | intersection members => exact absurd rfl (ne_intersection_of_whole undivided.2 _)
  | _ => exact .kept _

/-! ### Collections -/

theorem iteratedTypes_of_last (last : arguments.getLast? = some value) :
    (iteratedTypes arguments).2 = value := by
  rw [List.getLast?_eq_head?_reverse] at last
  unfold iteratedTypes
  cases reversed : arguments.reverse with
  | nil => simp [reversed] at last
  | cons first others =>
      rw [reversed] at last
      cases others <;> exact Option.some.inj last

theorem mem_argumentPairs_nil {targets : List TypeTree} (present : value ∈ targets) :
    (.scalar .mixed, value) ∈ argumentPairs [] targets := by
  induction targets with
  | nil => cases present
  | cons target targets ih =>
      rw [argumentPairs]
      rcases List.mem_cons.mp present with rfl | later
      · exact List.mem_cons_self
      · exact List.mem_cons_of_mem _ (ih later)

theorem collection_form (name : String) (value : TypeTree) :
    MetMembers (.scalar .mixed) (.scalar .never) [instances name, yielding value] := by
  constructor <;> simp [instances, yielding]

theorem undivided_collection_members (name : String) (value : TypeTree) :
    ∀ member ∈ [instances name, yielding value], member.Undivided := by
  simp [Undivided, instances, yielding, unionMembers, intersectionMembers]

theorem collectionOf_eq (name : String) (value : TypeTree) :
    collectionOf name value = .intersection [instances name, yielding value] :=
  meet_members (collection_form name value) fun member present =>
    (undivided_collection_members name value member present).2

theorem collectionOf_fits_iff (normal : value.Normal) (undivided : target.Undivided)
    (proper : target ≠ .scalar .mixed) :
    (collectionOf name value).Fits hierarchy target ↔
      (instances name).Fits hierarchy target ∨ (yielding value).Fits hierarchy target := by
  have whole := Normal.collectionOf name normal
  rw [collectionOf_eq] at whole ⊢
  rw [whole.intersection_fits_iff undivided proper]
  simp

theorem fits_collectionOf_iff (normal : value.Normal) (treeNormal : tree.Normal) :
    tree.Fits hierarchy (collectionOf name value) ↔
      tree.Fits hierarchy (instances name) ∧ tree.Fits hierarchy (yielding value) := by
  have whole := Normal.collectionOf name normal
  rw [collectionOf_eq] at whole ⊢
  rw [treeNormal.fits_undivided_iff whole (undivided_collection_members name value)]
  simp

/-- Instances of a class without arguments, and what yields values with any keys, fit a class with
arguments only where these are all `mixed`. -/
theorem eq_mixed_of_collection_fits {other : String} (normal : value.Normal)
    (present : tree ∈ arguments)
    (fits : (collectionOf name value).Fits hierarchy (.object other arguments)) :
    tree = .scalar .mixed ∧ hierarchy.isSameOrDerived name other = true := by
  rw [collectionOf_fits_iff normal ⟨rfl, rfl⟩ (by simp)] at fits
  rcases fits with fits | fits
  · cases fits with
    | refl => cases present
    | object derived comparable covariant =>
        have mixedFits := covariant _ (mem_argumentPairs_nil present)
        exact ⟨mixed_fits_iff.mp mixedFits, by simpa using derived⟩
  · cases fits

/-! ### Without null -/

theorem Normal.withoutNull (normal : tree.Normal) : tree.withoutNull.Normal := by
  cases tree with
  | union members =>
      cases normal with
      | union form whole each =>
          exact .unite fun member present => each member (List.mem_of_mem_filter present)
  | scalar kind => cases kind <;> exact .scalar _
  | _ => exact normal

theorem withoutNull_fits_iff (normal : tree.Normal) :
    tree.withoutNull.Fits hierarchy target ↔
      ∀ member ∈ tree.unionMembers, member = .scalar .null ∨ member.Fits hierarchy target := by
  cases normal with
  | @union members _ _ each =>
      have kept : ∀ member ∈ members.filter (fun member => member != .scalar .null),
          member.Normal := fun member present => each member (List.mem_of_mem_filter present)
      rw [withoutNull, unite_fits_iff kept]
      constructor
      · intro fits member present
        by_cases isNull : member = .scalar .null
        · exact .inl isNull
        · exact .inr (fits member (List.mem_filter.mpr ⟨present, by simpa using isNull⟩))
      · intro fits member present
        obtain ⟨among, proper⟩ := List.mem_filter.mp present
        exact (fits member among).resolve_left (by simpa using proper)
  | scalar kind => cases kind <;> simp [withoutNull, unionMembers, Fits.bottom]
  | _ => simp [withoutNull, unionMembers]

end AssociationCheck.TypeTree
