/-
The values of a type.

A value is null, a simple value, an array of entries, or an object with the name of its class and
the entries that iterating it yields. The values of a type are given by the shape of the type and
the values of its parts: a class has the objects of it and of the classes below it, unions and
intersections are those of sets. An object that cannot be iterated says nothing of type arguments.
-/

import AssociationCheck.Proofs.Hierarchy.Ancestry
import AssociationCheck.Proofs.Types.WellFormed
import AssociationCheck.Subtype

namespace AssociationCheck

/-! ### Values -/

inductive Value
  | null
  | int (number : Int)
  | string (text : String)
  | bool (truth : Bool)
  | float (number : Float)
  | array (entries : List (Value × Value))
  | object (className : String) (entries : List (Value × Value))

def Scalar.Admits : Scalar → Value → Prop
  | mixed, _ => True
  | null, .null => True
  | int, .int _ => True
  | string, .string _ => True
  | bool, .bool _ => True
  | float, .float _ => True
  | _, _ => False

/-- The values of a shape, given those of its parts. -/
def Shape.Admits (hierarchy : Hierarchy) (holds : TypeId → Value → Prop) : Shape → Value → Prop
  | scalar kind, value => kind.Admits value
  | object name arguments, .object className entries =>
      hierarchy.Reaches (.of className) (.of name) ∧
        (arguments ≠ [] → hierarchy.Reaches (.of name) (.of Hierarchy.traversable) →
          ∀ entry ∈ entries, holds (Subtype.iteratedTypes arguments).1 entry.1 ∧
            holds (Subtype.iteratedTypes arguments).2 entry.2)
  | iterable key value, .array entries =>
      ∀ entry ∈ entries, holds key entry.1 ∧ holds value entry.2
  | iterable key value, .object className entries =>
      hierarchy.Reaches (.of className) (.of Hierarchy.traversable) ∧
        ∀ entry ∈ entries, holds key entry.1 ∧ holds value entry.2
  | array key value, .array entries =>
      ∀ entry ∈ entries, holds key entry.1 ∧ holds value entry.2
  | union members, value => ∃ member ∈ members, holds member value
  | intersection members, value => ∀ member ∈ members, holds member value
  | _, _ => False

namespace TypeStore

/-- A value of a type of a store. The rules follow the shapes; a value needs finitely many of
them. -/
inductive Holds (store : TypeStore) (hierarchy : Hierarchy) : TypeId → Value → Prop
  | scalar {id kind value} (found : store.lookup id = some (.scalar kind))
      (admitted : kind.Admits value) : Holds store hierarchy id value
  | object {id name arguments className entries}
      (found : store.lookup id = some (.object name arguments))
      (below : hierarchy.Reaches (.of className) (.of name))
      (keys : arguments ≠ [] → hierarchy.Reaches (.of name) (.of Hierarchy.traversable) →
        ∀ entry ∈ entries, Holds store hierarchy (Subtype.iteratedTypes arguments).1 entry.1)
      (values : arguments ≠ [] → hierarchy.Reaches (.of name) (.of Hierarchy.traversable) →
        ∀ entry ∈ entries, Holds store hierarchy (Subtype.iteratedTypes arguments).2 entry.2) :
      Holds store hierarchy id (.object className entries)
  | iterableArray {id key value entries} (found : store.lookup id = some (.iterable key value))
      (keys : ∀ entry ∈ entries, Holds store hierarchy key entry.1)
      (values : ∀ entry ∈ entries, Holds store hierarchy value entry.2) :
      Holds store hierarchy id (.array entries)
  | iterableObject {id key value className entries}
      (found : store.lookup id = some (.iterable key value))
      (iterates : hierarchy.Reaches (.of className) (.of Hierarchy.traversable))
      (keys : ∀ entry ∈ entries, Holds store hierarchy key entry.1)
      (values : ∀ entry ∈ entries, Holds store hierarchy value entry.2) :
      Holds store hierarchy id (.object className entries)
  | array {id key value entries} (found : store.lookup id = some (.array key value))
      (keys : ∀ entry ∈ entries, Holds store hierarchy key entry.1)
      (values : ∀ entry ∈ entries, Holds store hierarchy value entry.2) :
      Holds store hierarchy id (.array entries)
  | union {id members member value} (found : store.lookup id = some (.union members))
      (present : member ∈ members) (held : Holds store hierarchy member value) :
      Holds store hierarchy id value
  | intersection {id members value} (found : store.lookup id = some (.intersection members))
      (held : ∀ member ∈ members, Holds store hierarchy member value) :
      Holds store hierarchy id value

variable {store later : TypeStore} {hierarchy : Hierarchy} {id : TypeId} {value : Value}

theorem Holds.admitted (held : store.Holds hierarchy id value) :
    ∃ shape, store.lookup id = some shape ∧
      shape.Admits hierarchy (store.Holds hierarchy) value := by
  cases held with
  | scalar found admitted => exact ⟨_, found, admitted⟩
  | object found below keys values =>
      exact ⟨_, found, below, fun given iterates entry present =>
        ⟨keys given iterates entry present, values given iterates entry present⟩⟩
  | iterableArray found keys values =>
      exact ⟨_, found, fun entry present => ⟨keys entry present, values entry present⟩⟩
  | iterableObject found iterates keys values =>
      exact ⟨_, found, iterates, fun entry present =>
        ⟨keys entry present, values entry present⟩⟩
  | array found keys values =>
      exact ⟨_, found, fun entry present => ⟨keys entry present, values entry present⟩⟩
  | union found present held => exact ⟨_, found, _, present, held⟩
  | intersection found held => exact ⟨_, found, held⟩

theorem holds_iff {shape : Shape} (found : store.lookup id = some shape) :
    store.Holds hierarchy id value ↔ shape.Admits hierarchy (store.Holds hierarchy) value := by
  constructor
  · intro held
    obtain ⟨other, again, admitted⟩ := held.admitted
    rw [lookup_unique found again]
    exact admitted
  · intro admitted
    cases shape with
    | scalar kind => exact .scalar found admitted
    | object name arguments =>
        cases value with
        | object className entries =>
            exact .object found admitted.1
              (fun given iterates entry present => (admitted.2 given iterates entry present).1)
              (fun given iterates entry present => (admitted.2 given iterates entry present).2)
        | _ => exact admitted.elim
    | iterable key value =>
        cases ‹Value› with
        | array entries =>
            exact .iterableArray found (fun entry present => (admitted entry present).1)
              (fun entry present => (admitted entry present).2)
        | object className entries =>
            exact .iterableObject found admitted.1
              (fun entry present => (admitted.2 entry present).1)
              (fun entry present => (admitted.2 entry present).2)
        | _ => exact admitted.elim
    | array key value =>
        cases ‹Value› with
        | array entries =>
            exact .array found (fun entry present => (admitted entry present).1)
              (fun entry present => (admitted entry present).2)
        | _ => exact admitted.elim
    | union members =>
        obtain ⟨member, present, held⟩ := admitted
        exact .union found present held
    | intersection members => exact .intersection found admitted

/-! ### Values in later stores -/

theorem Holds.grow (held : store.Holds hierarchy id value) (grows : store.GrowsTo later) :
    later.Holds hierarchy id value := by
  induction held with
  | scalar found admitted => exact .scalar (grows found) admitted
  | object found below _ _ keys values => exact .object (grows found) below keys values
  | iterableArray found _ _ keys values => exact .iterableArray (grows found) keys values
  | iterableObject found iterates _ _ keys values =>
      exact .iterableObject (grows found) iterates keys values
  | array found _ _ keys values => exact .array (grows found) keys values
  | union found present _ ih => exact .union (grows found) present ih
  | intersection found _ ih => exact .intersection (grows found) ih

theorem iteratedTypes_cases (arguments : List TypeId) :
    ((Subtype.iteratedTypes arguments).1 = .mixed ∨
        (Subtype.iteratedTypes arguments).1 ∈ arguments) ∧
      ((Subtype.iteratedTypes arguments).2 = .mixed ∨
        (Subtype.iteratedTypes arguments).2 ∈ arguments) := by
  have within : ∀ id, id ∈ arguments.reverse → id ∈ arguments := fun _ => List.mem_reverse.mp
  unfold Subtype.iteratedTypes
  split
  · exact ⟨Or.inl rfl, Or.inl rfl⟩
  · rename_i value reversed
    exact ⟨Or.inl rfl, Or.inr (within value (by simp [reversed]))⟩
  · rename_i value key others reversed
    exact ⟨Or.inr (within key (by simp [reversed])), Or.inr (within value (by simp [reversed]))⟩

theorem WellFormed.contains_iteratedTypes (formed : store.WellFormed) {name : String}
    {arguments : List TypeId} (found : store.lookup id = some (.object name arguments)) :
    store.Contains (Subtype.iteratedTypes arguments).1 ∧
      store.Contains (Subtype.iteratedTypes arguments).2 := by
  have scalar := contains_scalar formed.standard .mixed
  obtain ⟨key, value⟩ := iteratedTypes_cases arguments
  constructor
  · rcases key with same | present
    · rw [same]
      exact scalar
    · exact formed.contains_part found present
  · rcases value with same | present
    · rw [same]
      exact scalar
    · exact formed.contains_part found present

/-- A type has no more values in a later store; its parts are those that it had. -/
theorem Holds.shrink (held : later.Holds hierarchy id value) (formed : store.WellFormed)
    (grows : store.GrowsTo later) (known : store.Contains id) :
    store.Holds hierarchy id value := by
  induction held with
  | scalar found admitted =>
      rw [grows.lookup_eq known] at found
      exact .scalar found admitted
  | object found below _ _ keys values =>
      rw [grows.lookup_eq known] at found
      obtain ⟨keyKnown, valueKnown⟩ := formed.contains_iteratedTypes found
      exact .object found below
        (fun given iterates entry present => keys given iterates entry present keyKnown)
        (fun given iterates entry present => values given iterates entry present valueKnown)
  | iterableArray found _ _ keys values =>
      rw [grows.lookup_eq known] at found
      have keyKnown := formed.contains_part found List.mem_cons_self
      have valueKnown := formed.contains_part found (List.mem_cons_of_mem _ List.mem_cons_self)
      exact .iterableArray found (fun entry present => keys entry present keyKnown)
        (fun entry present => values entry present valueKnown)
  | iterableObject found iterates _ _ keys values =>
      rw [grows.lookup_eq known] at found
      have keyKnown := formed.contains_part found List.mem_cons_self
      have valueKnown := formed.contains_part found (List.mem_cons_of_mem _ List.mem_cons_self)
      exact .iterableObject found iterates (fun entry present => keys entry present keyKnown)
        (fun entry present => values entry present valueKnown)
  | array found _ _ keys values =>
      rw [grows.lookup_eq known] at found
      have keyKnown := formed.contains_part found List.mem_cons_self
      have valueKnown := formed.contains_part found (List.mem_cons_of_mem _ List.mem_cons_self)
      exact .array found (fun entry present => keys entry present keyKnown)
        (fun entry present => values entry present valueKnown)
  | union found present _ ih =>
      rw [grows.lookup_eq known] at found
      exact .union found present (ih (formed.contains_part found present))
  | intersection found _ ih =>
      rw [grows.lookup_eq known] at found
      exact .intersection found
        (fun member present => ih member present (formed.contains_part found present))

theorem WellFormed.holds_later_iff (formed : store.WellFormed) (grows : store.GrowsTo later)
    (known : store.Contains id) :
    later.Holds hierarchy id value ↔ store.Holds hierarchy id value :=
  ⟨fun held => held.shrink formed grows known, fun held => held.grow grows⟩

/-! ### Values of built-in types -/

theorem holds_scalar_iff (standard : initial.GrowsTo store) (kind : Scalar) :
    store.Holds hierarchy kind.id value ↔ kind.Admits value :=
  holds_iff (lookup_scalar standard kind)

theorem holds_mixed (standard : initial.GrowsTo store) : store.Holds hierarchy .mixed value :=
  (holds_scalar_iff standard .mixed).mpr trivial

theorem not_holds_never (standard : initial.GrowsTo store) :
    ¬ store.Holds hierarchy .never value := by
  intro held
  have impossible := (holds_scalar_iff standard .never).mp held
  cases value <;> exact impossible

theorem holds_null_iff (standard : initial.GrowsTo store) :
    store.Holds hierarchy .null value ↔ value = .null := by
  rw [show TypeId.null = Scalar.null.id from rfl, holds_scalar_iff standard]
  cases value <;> simp [Scalar.Admits]

/-! ### Values of unions and intersections -/

/-- Opening nested unions keeps the values, however many levels are opened. -/
theorem holds_flatten_union_iff (levels : Nat) (id : TypeId) :
    (∃ leaf ∈ store.flatten Shape.unionMembers? levels id, store.Holds hierarchy leaf value) ↔
      store.Holds hierarchy id value := by
  induction levels generalizing id with
  | zero => simp [flatten]
  | succ levels ih =>
      rw [flatten]
      split
      · rename_i members opened
        obtain ⟨shape, found, opened⟩ := Option.bind_eq_some_iff.mp opened
        have isUnion : shape = .union members := by
          cases shape <;> simp_all [Shape.unionMembers?]
        rw [isUnion] at found
        rw [holds_iff found]
        constructor
        · rintro ⟨leaf, leafOf, held⟩
          obtain ⟨member, present, below⟩ := List.mem_flatMap.mp leafOf
          exact ⟨member, present, (ih member).mp ⟨leaf, below, held⟩⟩
        · rintro ⟨member, present, held⟩
          obtain ⟨leaf, below, held⟩ := (ih member).mpr held
          exact ⟨leaf, List.mem_flatMap.mpr ⟨member, present, below⟩, held⟩
      · simp

theorem holds_flatten_intersection_iff (levels : Nat) (id : TypeId) :
    (∀ leaf ∈ store.flatten Shape.intersectionMembers? levels id,
        store.Holds hierarchy leaf value) ↔ store.Holds hierarchy id value := by
  induction levels generalizing id with
  | zero => simp [flatten]
  | succ levels ih =>
      rw [flatten]
      split
      · rename_i members opened
        obtain ⟨shape, found, opened⟩ := Option.bind_eq_some_iff.mp opened
        have isIntersection : shape = .intersection members := by
          cases shape <;> simp_all [Shape.intersectionMembers?]
        rw [isIntersection] at found
        rw [holds_iff found]
        constructor
        · exact fun all member present => (ih member).mp
            (fun leaf below => all leaf (List.mem_flatMap.mpr ⟨member, present, below⟩))
        · intro all leaf leafOf
          obtain ⟨member, present, below⟩ := List.mem_flatMap.mp leafOf
          exact (ih member).mpr (all member present) leaf below
      · simp

theorem holds_unionLeaves_iff (members : List TypeId) :
    (∃ leaf ∈ store.unionLeaves members, store.Holds hierarchy leaf value) ↔
      ∃ member ∈ members, store.Holds hierarchy member value := by
  simp only [unionLeaves, List.mem_flatMap]
  constructor
  · rintro ⟨leaf, ⟨member, present, below⟩, held⟩
    exact ⟨member, present, (holds_flatten_union_iff _ member).mp ⟨leaf, below, held⟩⟩
  · rintro ⟨member, present, held⟩
    obtain ⟨leaf, below, held⟩ := (holds_flatten_union_iff store.size member).mpr held
    exact ⟨leaf, ⟨member, present, below⟩, held⟩

theorem holds_intersectionLeaves_iff (members : List TypeId) :
    (∀ leaf ∈ store.intersectionLeaves members, store.Holds hierarchy leaf value) ↔
      ∀ member ∈ members, store.Holds hierarchy member value := by
  simp only [intersectionLeaves, List.mem_flatMap]
  constructor
  · intro all member present
    exact (holds_flatten_intersection_iff _ member).mp
      (fun leaf below => all leaf ⟨member, present, below⟩)
  · rintro all leaf ⟨member, present, below⟩
    exact (holds_flatten_intersection_iff _ member).mpr (all member present) leaf below

open Building

theorem union_denotes (formed : store.WellFormed) {members : List TypeId}
    (known : ∀ member ∈ members, store.Contains member) :
    Ensures (union members) store (fun id later => ∀ value,
      later.Holds hierarchy id value ↔ ∃ member ∈ members, store.Holds hierarchy member value) := by
  apply ensures_get_bind
  rcases store.normalizeUnion_cases members with ⟨absorbs, form⟩ | ⟨ids, mem_ids, form⟩
  · rw [form]
    intro value
    rw [← holds_unionLeaves_iff members]
    exact ⟨fun held => ⟨_, absorbs, held⟩, fun _ => holds_mixed formed.standard⟩
  · have values (value : Value) : (∃ id ∈ ids, store.Holds hierarchy id value) ↔
        ∃ member ∈ members, store.Holds hierarchy member value := by
      rw [← holds_unionLeaves_iff members]
      constructor
      · rintro ⟨id, present, held⟩
        exact ⟨id, ((mem_ids id).mp present).1, held⟩
      · rintro ⟨id, present, held⟩
        refine ⟨id, (mem_ids id).mpr ⟨present, ?_⟩, held⟩
        rintro rfl
        exact not_holds_never formed.standard held
    rcases form with ⟨rfl, form⟩ | ⟨id, rfl, form⟩ | form <;> rw [form]
    · intro value
      rw [← values]
      exact ⟨fun held => absurd held (not_holds_never formed.standard), fun held => by simp at held⟩
    · intro value
      rw [← values]
      change store.Holds hierarchy id value ↔ _
      simp
    · apply (intern_ensures (.union ids) store).weaken
      rintro id later ⟨grows, found⟩ value
      rw [holds_iff found, ← values]
      constructor
      · rintro ⟨member, present, held⟩
        have inside := contains_of_mem_unionLeaves formed known ((mem_ids member).mp present).1
        exact ⟨member, present, held.shrink formed grows inside⟩
      · rintro ⟨member, present, held⟩
        exact ⟨member, present, held.grow grows⟩

theorem intersection_denotes (formed : store.WellFormed) {members : List TypeId}
    (known : ∀ member ∈ members, store.Contains member) :
    Ensures (intersection members) store (fun id later => ∀ value,
      later.Holds hierarchy id value ↔ ∀ member ∈ members, store.Holds hierarchy member value) := by
  apply ensures_get_bind
  rcases store.normalizeIntersection_cases members with ⟨absorbs, form⟩ | ⟨ids, mem_ids, form⟩
  · rw [form]
    intro value
    rw [← holds_intersectionLeaves_iff members]
    exact ⟨fun held => absurd held (not_holds_never formed.standard), fun all => all _ absorbs⟩
  · have values (value : Value) : (∀ id ∈ ids, store.Holds hierarchy id value) ↔
        ∀ member ∈ members, store.Holds hierarchy member value := by
      rw [← holds_intersectionLeaves_iff members]
      constructor
      · intro all leaf present
        by_cases top : leaf = .mixed
        · rw [top]
          exact holds_mixed formed.standard
        · exact all leaf ((mem_ids leaf).mpr ⟨present, top⟩)
      · exact fun all id present => all id ((mem_ids id).mp present).1
    rcases form with ⟨rfl, form⟩ | ⟨id, rfl, form⟩ | form <;> rw [form]
    · intro value
      rw [← values]
      exact ⟨fun _ _ present => absurd present List.not_mem_nil,
        fun _ => holds_mixed formed.standard⟩
    · intro value
      rw [← values]
      change store.Holds hierarchy id value ↔ _
      simp
    · apply (intern_ensures (.intersection ids) store).weaken
      rintro id later ⟨grows, found⟩ value
      rw [holds_iff found, ← values]
      constructor
      · intro all member present
        have inside :=
          contains_of_mem_intersectionLeaves formed known ((mem_ids member).mp present).1
        exact (all member present).shrink formed grows inside
      · exact fun all member present => (all member present).grow grows

end TypeStore

end AssociationCheck
