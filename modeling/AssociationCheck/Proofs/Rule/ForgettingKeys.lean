/-
The form in which declared types are compared, as a canonical form.

Bringing a type into this form forgets the keys of its iterables and arrays and all arguments of its
collections but the last. Members that differ in nothing else become one, so unions and
intersections may get shorter or come to nothing. What is forgotten beforehand, with unions and
intersections brought into normal form again, makes no difference.
-/

import AssociationCheck.Proofs.Rule.History
import AssociationCheck.Proofs.Rule.Learning
import AssociationCheck.Proofs.Types.Equations

namespace AssociationCheck

/-! ### Trees -/

namespace TypeTree

variable {hierarchy : Hierarchy} {options : CheckOptions} {tree : TypeTree}
  {arguments : List TypeTree}

mutual

/-- A tree without the keys of its iterables and arrays, with the last argument alone for classes
that are or derive from the collection interface. Only unions and intersections are looked into. -/
def forgetKeys (hierarchy : Hierarchy) (options : CheckOptions) : TypeTree → TypeTree
  | .object name arguments =>
      if hierarchy.isSameOrDerived name options.collectionInterface then
        .object name arguments.getLast?.toList
      else .object name arguments
  | .iterable _ value => .iterable (.scalar .mixed) value
  | .array _ value => .array (.scalar .mixed) value
  | .union members => .union (forgetAllKeys hierarchy options members)
  | .intersection members => .intersection (forgetAllKeys hierarchy options members)
  | .scalar kind => .scalar kind
  | .unknown => .unknown
  | .elided => .elided

def forgetAllKeys (hierarchy : Hierarchy) (options : CheckOptions) : List TypeTree → List TypeTree
  | [] => []
  | tree :: others => forgetKeys hierarchy options tree :: forgetAllKeys hierarchy options others

end

mutual

/-- A tree with its unions and intersections brought into normal form, from the inside. -/
def renormalize : TypeTree → TypeTree
  | .object name arguments => .object name (renormalizeAll arguments)
  | .iterable key value => .iterable (renormalize key) (renormalize value)
  | .array key value => .array (renormalize key) (renormalize value)
  | .union members => unite (renormalizeAll members)
  | .intersection members => meet (renormalizeAll members)
  | .scalar kind => .scalar kind
  | .unknown => .unknown
  | .elided => .elided

def renormalizeAll : List TypeTree → List TypeTree
  | [] => []
  | tree :: others => renormalize tree :: renormalizeAll others

end

theorem forgetAllKeys_eq_map (trees : List TypeTree) :
    forgetAllKeys hierarchy options trees = trees.map (forgetKeys hierarchy options) := by
  induction trees with
  | nil => rfl
  | cons tree others ih => rw [forgetAllKeys, ih, List.map_cons]

theorem renormalizeAll_eq_map (trees : List TypeTree) :
    renormalizeAll trees = trees.map renormalize := by
  induction trees with
  | nil => rfl
  | cons tree others ih => rw [renormalizeAll, ih, List.map_cons]

theorem renormalizeAll_eq_self {trees : List TypeTree}
    (each : ∀ tree ∈ trees, tree.renormalize = tree) : renormalizeAll trees = trees := by
  rw [renormalizeAll_eq_map, List.map_congr_left each, List.map_id']

theorem Normal.renormalize (normal : tree.Normal) : tree.renormalize = tree := by
  induction normal with
  | scalar kind => rfl
  | object name _ ih => rw [TypeTree.renormalize, renormalizeAll_eq_self ih]
  | iterable _ _ keys values => rw [TypeTree.renormalize, keys, values]
  | array _ _ keys values => rw [TypeTree.renormalize, keys, values]
  | union form whole _ ih =>
      rw [TypeTree.renormalize, renormalizeAll_eq_self ih, unite_members form whole]
  | intersection form whole _ ih =>
      rw [TypeTree.renormalize, renormalizeAll_eq_self ih, meet_members form whole]

def keyless (hierarchy : Hierarchy) (options : CheckOptions) (tree : TypeTree) : TypeTree :=
  (tree.forgetKeys hierarchy options).renormalize

@[simp] theorem keyless_union (members : List TypeTree) :
    keyless hierarchy options (.union members) =
      unite (members.map (keyless hierarchy options)) := by
  rw [keyless, forgetKeys, renormalize, forgetAllKeys_eq_map, renormalizeAll_eq_map, List.map_map]
  rfl

@[simp] theorem keyless_intersection (members : List TypeTree) :
    keyless hierarchy options (.intersection members) =
      meet (members.map (keyless hierarchy options)) := by
  rw [keyless, forgetKeys, renormalize, forgetAllKeys_eq_map, renormalizeAll_eq_map, List.map_map]
  rfl

/-! ### Undivided trees -/

theorem Normal.forgetKeys (normal : tree.Normal) (undivided : tree.Undivided) :
    (TypeTree.forgetKeys hierarchy options tree).Normal := by
  cases normal with
  | scalar kind => exact .scalar kind
  | @object name arguments each =>
      rw [TypeTree.forgetKeys]
      split
      · apply Normal.object name
        intro argument present
        exact each argument (List.mem_of_getLast? (Option.mem_toList.mp present))
      · exact .object name each
  | iterable _ values => exact .iterable (.scalar .mixed) values
  | array _ values => exact .array (.scalar .mixed) values
  | union => exact absurd rfl (ne_union_of_whole undivided.1 _)
  | intersection => exact absurd rfl (ne_intersection_of_whole undivided.2 _)

theorem normalize_forgetKeys (undivided : tree.Undivided) :
    normalize hierarchy options (tree.forgetKeys hierarchy options) =
      normalize hierarchy options tree := by
  cases tree with
  | object name arguments =>
      by_cases derived : hierarchy.isSameOrDerived name options.collectionInterface = true
      · rw [forgetKeys, if_pos derived]
        cases last : arguments.getLast? with
        | none =>
            rw [List.getLast?_eq_none_iff.mp last]
            rfl
        | some value =>
            have alone : [value].getLast? = some value := rfl
            rw [Option.toList_some, normalize_object_of_last alone, if_pos derived,
              normalize_object_of_last last, if_pos derived]
      · rw [forgetKeys, if_neg derived]
  | iterable key value => rfl
  | array key value => rfl
  | union members => exact absurd rfl (ne_union_of_whole undivided.1 _)
  | intersection members => exact absurd rfl (ne_intersection_of_whole undivided.2 _)
  | _ => rfl

/-! ### Trees in normal form -/

theorem Normal.keyless (normal : tree.Normal) :
    (TypeTree.keyless hierarchy options tree).Normal := by
  induction normal using Normal.divide with
  | undivided tree normal undivided =>
      have forgotten : (tree.forgetKeys hierarchy options).Normal := normal.forgetKeys undivided
      rw [TypeTree.keyless, forgotten.renormalize]
      exact forgotten
  | union members _ _ ih =>
      rw [keyless_union]
      exact .unite (List.forall_mem_map.mpr ih)
  | intersection members _ _ ih =>
      rw [keyless_intersection]
      exact .meet (List.forall_mem_map.mpr ih)

/-- A tree is compared in the same form as the tree without its keys. -/
theorem Normal.normalize_keyless (normal : tree.Normal) :
    TypeTree.normalize hierarchy options (TypeTree.keyless hierarchy options tree) =
      TypeTree.normalize hierarchy options tree := by
  induction normal using Normal.divide with
  | undivided tree normal undivided =>
      have forgotten : (tree.forgetKeys hierarchy options).Normal := normal.forgetKeys undivided
      rw [TypeTree.keyless, forgotten.renormalize, normalize_forgetKeys undivided]
  | union members _ each ih =>
      rw [keyless_union, normalize_union,
        normalize_unite (List.forall_mem_map.mpr fun _ present => (each _ present).keyless),
        List.map_map]
      exact congrArg TypeTree.unite (List.map_congr_left ih)
  | intersection members _ each ih =>
      rw [keyless_intersection, normalize_intersection,
        normalize_meet (List.forall_mem_map.mpr fun _ present => (each _ present).keyless),
        List.map_map]
      exact congrArg TypeTree.meet (List.map_congr_left ih)

end TypeTree

/-! ### Stores -/

open Building TypeStore

variable {store : TypeStore} {returned : List TypeId}

theorem computes_normalizeCollection (hierarchy : Hierarchy) (options : CheckOptions) :
    Computes (normalizeCollection hierarchy options) (TypeTree.normalize hierarchy options) :=
  fun _ _ canonical known => normalizeCollection_makes hierarchy options canonical known

/-- Bringing a type into the form in which it is compared is done once and for all, and types that
are the same without their keys have one such form. -/
theorem Reached.compared_without_keys (reached : Reached store returned) (hierarchy : Hierarchy)
    (options : CheckOptions) {declared other : TypeId} (known : store.Contains declared)
    (otherKnown : store.Contains other) :
    let compared := normalizeCollection hierarchy options
    SameType (do compared (← compared declared)) (compared declared) store ∧
      ((store.tree declared).keyless hierarchy options =
          (store.tree other).keyless hierarchy options →
        SameType (compared declared) (compared other) store) := by
  have canonical := reached.canonical
  have normal := canonical.tree_normal known
  have otherNormal := canonical.tree_normal otherKnown
  have computes := computes_normalizeCollection hierarchy options
  have made := computes.keepsMaking canonical known
  constructor
  · have again := computes.bind made
    rw [normal.normalize_normalize (fun _ _ derived => derived)] at again
    exact again.sameType made canonical
  · intro same
    have otherMade := computes.keepsMaking canonical otherKnown
    have forms : (store.tree declared).normalize hierarchy options =
        (store.tree other).normalize hierarchy options := by
      calc (store.tree declared).normalize hierarchy options
        _ = ((store.tree declared).keyless hierarchy options).normalize hierarchy options :=
            normal.normalize_keyless.symm
        _ = ((store.tree other).keyless hierarchy options).normalize hierarchy options :=
            congrArg (TypeTree.normalize hierarchy options) same
        _ = (store.tree other).normalize hierarchy options := otherNormal.normalize_keyless
    rw [← forms] at otherMade
    exact made.sameType otherMade canonical

/-- The store after `Bag<int,Book>|iterable<int,Book>|iterable<string,Book>` and
`Bag<Book>|iterable<Book>`, with all that they are made of. -/
def keyedStore : TypeStore where
  shapes := TypeStore.initial.shapes ++
    #[.object "Book" [], .object "Bag" [.int, ⟨7⟩], .iterable .int ⟨7⟩, .iterable .string ⟨7⟩,
      .union [⟨8⟩, ⟨9⟩, ⟨10⟩], .object "Bag" [⟨7⟩], .iterable .mixed ⟨7⟩, .union [⟨12⟩, ⟨13⟩]]

theorem reached_keyedStore :
    Reached keyedStore [⟨14⟩, ⟨13⟩, ⟨12⟩, ⟨11⟩, ⟨10⟩, ⟨9⟩, ⟨8⟩, ⟨7⟩, .mixed, .never, .null, .int,
      .string, .bool, .float] :=
  Reached.start.runAll
    [.object "Book" [], .object "Bag" [.int, ⟨7⟩], .iterable .int ⟨7⟩, .iterable .string ⟨7⟩,
      .union [⟨8⟩, ⟨9⟩, ⟨10⟩], .object "Bag" [⟨7⟩], .iterable .mixed ⟨7⟩, .union [⟨12⟩, ⟨13⟩]]
    (by with_unfolding_all rfl)

/-- Without their keys two members of the first type are the same, and then the two types are. -/
theorem compared_without_keys_keyedStore :
    let options : CheckOptions := { collectionInterface := "Bag" }
    let compared := normalizeCollection .empty options
    let form := ((compared ⟨11⟩).run keyedStore).1
    let later := ((compared ⟨11⟩).run keyedStore).2
    let twice : Building TypeId := do compared (← compared ⟨11⟩)
    (keyedStore.tree ⟨11⟩).keyless .empty options =
        (keyedStore.tree ⟨14⟩).keyless .empty options ∧
      later.lookup form = some (.union [⟨16⟩, ⟨13⟩]) ∧
      ((compared ⟨14⟩).run later).1 = form ∧ (twice.run later).1 = form := by
  intro options compared form later twice
  have known : keyedStore.Contains ⟨11⟩ := reached_keyedStore.contains (by simp)
  have otherKnown : keyedStore.Contains ⟨14⟩ := reached_keyedStore.contains (by simp)
  let bag : TypeTree := .object "Bag" [.object "Book" []]
  let books : TypeTree := .iterable (.scalar .mixed) (.object "Book" [])
  have first : (keyedStore.tree ⟨11⟩).forgetKeys .empty options = .union [bag, books, books] := by
    decide +kernel
  have second : (keyedStore.tree ⟨14⟩).forgetKeys .empty options = .union [bag, books] := by
    decide +kernel
  have keyless : (keyedStore.tree ⟨11⟩).keyless .empty options =
      (keyedStore.tree ⟨14⟩).keyless .empty options := by
    rw [TypeTree.keyless, TypeTree.keyless, first, second]
    decide +kernel
  obtain ⟨again, once⟩ := reached_keyedStore.compared_without_keys .empty options known otherKnown
  exact ⟨keyless, by decide +kernel, (once keyless).at_once,
    again.before later again.otherContinues.canonical.continuesTo_refl⟩

end AssociationCheck
