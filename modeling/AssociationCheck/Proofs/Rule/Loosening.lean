/-
What the normal form of a declared type means.

In normal form a type loses the types of its keys and, where it is a collection class with
arguments, all arguments but the last. Its values are given here level by level, along the unions
and intersections that are opened; none of the values that the type had is lost.
-/

import AssociationCheck.Proofs.Rule.Meaning
import Mathlib.Data.List.Forall2

namespace AssociationCheck

open Building TypeStore

namespace TypeStore

/-- The values of the normal form of a type down to a number of levels. -/
def Loosened (store : TypeStore) (hierarchy : Hierarchy) (options : CheckOptions) :
    Nat → TypeId → Value → Prop
  | 0, id, value => store.Holds hierarchy id value
  | levels + 1, id, value =>
      match store.lookup id with
      | some (.object name arguments) =>
          match arguments.getLast? with
          | some item =>
              if hierarchy.isSameOrDerived name options.collectionInterface then
                value.IsInstance hierarchy name ∧
                  value.Yields hierarchy (store.Holds hierarchy item)
              else store.Holds hierarchy id value
          | none => store.Holds hierarchy id value
      | some (.iterable _ item) => value.Yields hierarchy (store.Holds hierarchy item)
      | some (.array _ item) => value.Lists (store.Holds hierarchy item)
      | some (.union members) =>
          ∃ member ∈ members, store.Loosened hierarchy options levels member value
      | some (.intersection members) =>
          ∀ member ∈ members, store.Loosened hierarchy options levels member value
      | _ => store.Holds hierarchy id value

variable {store later : TypeStore} {hierarchy : Hierarchy} {options : CheckOptions} {id : TypeId}
  {value : Value}

/-! ### Widening -/

/-- A type keeps its values in normal form, since collections can be iterated. -/
theorem Holds.loosened (held : store.Holds hierarchy id value)
    (iterates : hierarchy.Reaches (.of options.collectionInterface) (.of Hierarchy.traversable))
    (levels : Nat) : store.Loosened hierarchy options levels id value := by
  induction levels generalizing id with
  | zero => exact held
  | succ levels ih =>
      obtain ⟨shape, found, admitted⟩ := held.admitted
      cases shape with
      | scalar kind =>
          simp only [Loosened, found]
          exact held
      | object name arguments =>
          simp only [Loosened, found]
          cases last : arguments.getLast? with
          | none => exact held
          | some item =>
              by_cases collects :
                  hierarchy.isSameOrDerived name options.collectionInterface = true
              · have below := Hierarchy.reaches_of_isSameOrDerived collects
                simp only [collects, if_true]
                exact ⟨held.isInstance found, held.yields_last found (below.trans iterates) last⟩
              · simp only [collects]
                exact held
      | iterable key item =>
          simp only [Loosened, found]
          exact held.yields found
      | array key item =>
          simp only [Loosened, found]
          exact held.lists found
      | union members =>
          obtain ⟨member, present, inside⟩ := admitted
          simp only [Loosened, found]
          exact ⟨member, present, ih inside⟩
      | intersection members =>
          simp only [Loosened, found]
          exact fun member present => ih (admitted member present)

/-! ### Later stores -/

theorem WellFormed.loosened_later_iff (formed : store.WellFormed) (grows : store.GrowsTo later)
    (levels : Nat) (known : store.Contains id) :
    later.Loosened hierarchy options levels id value ↔
      store.Loosened hierarchy options levels id value := by
  induction levels generalizing id with
  | zero => exact formed.holds_later_iff grows known
  | succ levels ih =>
      obtain ⟨shape, found⟩ := exists_lookup known
      have held : later.Holds hierarchy id value ↔ store.Holds hierarchy id value :=
        formed.holds_later_iff grows known
      have items (part : TypeId) (present : part ∈ shape.parts) (item : Value) :
          later.Holds hierarchy part item ↔ store.Holds hierarchy part item :=
        formed.holds_later_iff grows (formed.contains_part found present)
      have members (part : TypeId) (present : part ∈ shape.parts) :
          later.Loosened hierarchy options levels part value ↔
            store.Loosened hierarchy options levels part value :=
        ih (formed.contains_part found present)
      cases shape with
      | scalar kind =>
          simp only [Loosened, grows found, found]
          exact held
      | object name arguments =>
          simp only [Loosened, grows found, found]
          cases last : arguments.getLast? with
          | none => exact held
          | some item =>
              have present : item ∈ arguments := List.mem_of_getLast? last
              simp only [held, Value.yields_congr (items item present)]
      | iterable key item =>
          simp only [Loosened, grows found, found]
          exact Value.yields_congr (items item (by simp [Shape.parts])) value
      | array key item =>
          simp only [Loosened, grows found, found]
          exact Value.lists_congr (items item (by simp [Shape.parts])) value
      | union ids =>
          simp only [Loosened, grows found, found]
          exact exists_congr (fun member => and_congr_right (fun present => members member present))
      | intersection ids =>
          simp only [Loosened, grows found, found]
          exact forall₂_congr members

/-- All numbers of levels that reach below a type give its normal form the same values. -/
theorem WellFormed.loosened_levels_iff (formed : store.WellFormed) {levels more : Nat}
    (enough : id.index < levels) (enoughMore : id.index < more) :
    store.Loosened hierarchy options levels id value ↔
      store.Loosened hierarchy options more id value := by
  induction levels generalizing id more with
  | zero => exact absurd enough (Nat.not_lt_zero _)
  | succ levels ih =>
      obtain ⟨more, rfl⟩ : ∃ less, more = less + 1 := ⟨more - 1, by omega⟩
      have members (shape : Shape) (found : store.lookup id = some shape) (part : TypeId)
          (present : part ∈ shape.parts) :
          store.Loosened hierarchy options levels part value ↔
            store.Loosened hierarchy options more part value := by
        have below := formed.earlier found part present
        exact ih (by omega) (by omega)
      simp only [Loosened]
      split
      · rfl
      · rfl
      · rfl
      · rename_i ids found
        exact exists_congr (fun part => and_congr_right (members _ found part))
      · rename_i ids found
        exact forall₂_congr (members _ found)
      · rfl

end TypeStore

/-! ### Normal forms -/

variable {store : TypeStore} (hierarchy : Hierarchy) (options : CheckOptions)

/-- A type of a later store has the values of the normal form of a type. -/
def Loosens (store : TypeStore) (levels : Nat) (declared : TypeId) (later : TypeStore)
    (id : TypeId) : Prop :=
  later.Contains id ∧ ∀ value,
    later.Holds hierarchy id value ↔ store.Loosened hierarchy options levels declared value

variable {hierarchy options}

theorem Loosens.grow {later last : TypeStore} {levels : Nat} {declared id : TypeId}
    (loosens : Loosens hierarchy options store levels declared later id)
    (further : later.ExtendsTo last) (formed : later.WellFormed) :
    Loosens hierarchy options store levels declared last id :=
  ⟨further.contains loosens.1, fun value =>
    (formed.holds_later_iff further.grows loosens.1).trans (loosens.2 value)⟩

theorem Loosens.earlier {middle later : TypeStore} {levels : Nat} {declared id : TypeId}
    (loosens : Loosens hierarchy options middle levels declared later id)
    (formed : store.WellFormed) (grows : store.GrowsTo middle) (known : store.Contains declared) :
    Loosens hierarchy options store levels declared later id :=
  ⟨loosens.1, fun value => (loosens.2 value).trans (formed.loosened_later_iff grows levels known)⟩

theorem loosens_iterable (formed : store.WellFormed) {levels : Nat} {key item declared : TypeId}
    (found : store.lookup declared = some (.iterable key item)) {later : TypeStore} {id : TypeId}
    (further : store.ExtendsTo later) (normal : later.lookup id = some (.iterable .mixed item)) :
    Loosens hierarchy options store (levels + 1) declared later id := by
  refine ⟨contains_of_lookup normal, fun value => ?_⟩
  have items (other : Value) :
      later.Holds hierarchy item other ↔ store.Holds hierarchy item other :=
    formed.holds_later_iff further.grows (formed.contains_part found (by simp [Shape.parts]))
  rw [holds_iterable_iff further.wellFormed.standard normal, Value.yields_congr items]
  simp only [Loosened, found]

theorem loosens_array (formed : store.WellFormed) {levels : Nat} {key item declared : TypeId}
    (found : store.lookup declared = some (.array key item)) {later : TypeStore} {id : TypeId}
    (further : store.ExtendsTo later) (normal : later.lookup id = some (.array .mixed item)) :
    Loosens hierarchy options store (levels + 1) declared later id := by
  refine ⟨contains_of_lookup normal, fun value => ?_⟩
  have items (other : Value) :
      later.Holds hierarchy item other ↔ store.Holds hierarchy item other :=
    formed.holds_later_iff further.grows (formed.contains_part found (by simp [Shape.parts]))
  rw [holds_array_iff further.wellFormed.standard normal, Value.lists_congr items]
  simp only [Loosened, found]

theorem loosens_collection (formed : store.WellFormed) {levels : Nat} {name : String}
    {arguments : List TypeId} {item declared : TypeId}
    (found : store.lookup declared = some (.object name arguments))
    (last : arguments.getLast? = some item)
    (collects : hierarchy.isSameOrDerived name options.collectionInterface = true) :
    Ensures (collectionOf name item) store (fun id later => store.ExtendsTo later ∧
      Loosens hierarchy options store (levels + 1) declared later id) := by
  have itemKnown : store.Contains item := formed.contains_part found (List.mem_of_getLast? last)
  obtain ⟨further, known⟩ := collectionOf_extends formed name itemKnown
  obtain ⟨grows, meets⟩ := collectionOf_ensures formed.standard name item
  refine ⟨further, known, fun value => ?_⟩
  rw [holds_meets_iff further.wellFormed.standard meets,
    Value.yields_congr (fun other => formed.holds_later_iff grows itemKnown),
    Value.isInstance_withoutLeadingSeparators]
  simp [Loosened, found, last, collects]

theorem normalizeEach_denotes {levels : Nat}
    (each : ∀ {store : TypeStore}, store.WellFormed → ∀ {declared}, store.Contains declared →
      Ensures (normalizeWithin hierarchy options levels declared) store (fun id later =>
        store.ExtendsTo later ∧ Loosens hierarchy options store levels declared later id))
    (members : List TypeId) {store : TypeStore} (formed : store.WellFormed)
    (known : ∀ member ∈ members, store.Contains member) :
    Ensures (members.mapM (normalizeWithin hierarchy options levels)) store (fun ids later =>
      store.ExtendsTo later ∧
        List.Forall₂ (fun member id => Loosens hierarchy options store levels member later id)
          members ids) := by
  induction members generalizing store with
  | nil => exact ⟨formed.extendsTo_refl, .nil⟩
  | cons first others ih =>
      rw [List.mapM_cons]
      apply ensures_bind (each formed (known first List.mem_cons_self))
      rintro id middle ⟨extended, loosens⟩
      have othersKnown (member : TypeId) (present : member ∈ others) : store.Contains member :=
        known member (List.mem_cons_of_mem first present)
      apply ensures_bind (ih extended.wellFormed
        (fun member present => extended.contains (othersKnown member present)))
      rintro ids later ⟨further, loosenOthers⟩
      refine ensures_pure ⟨extended.trans further, .cons ?_ ?_⟩
      · exact loosens.grow further extended.wellFormed
      -- The others were brought into normal form in the store that the first one left.
      · have both := (List.forall₂_and_left others ids).mpr ⟨othersKnown, loosenOthers⟩
        exact both.imp (fun _ _ one => one.2.earlier formed extended.grows one.1)

theorem contains_of_loosens {levels : Nat} {later : TypeStore} {members ids : List TypeId}
    (loosen : List.Forall₂
      (fun member id => Loosens hierarchy options store levels member later id) members ids) :
    ∀ id ∈ ids, later.Contains id := by
  induction loosen with
  | nil => simp
  | cons first _ ih => simpa using And.intro first.1 ih

theorem exists_loosens_iff {levels : Nat} {later : TypeStore} {members ids : List TypeId}
    (loosen : List.Forall₂
      (fun member id => Loosens hierarchy options store levels member later id) members ids)
    (value : Value) :
    (∃ id ∈ ids, later.Holds hierarchy id value) ↔
      ∃ member ∈ members, store.Loosened hierarchy options levels member value := by
  induction loosen with
  | nil => simp
  | cons first _ ih => simp only [List.exists_mem_cons_iff, first.2 value, ih]

theorem forall_loosens_iff {levels : Nat} {later : TypeStore} {members ids : List TypeId}
    (loosen : List.Forall₂
      (fun member id => Loosens hierarchy options store levels member later id) members ids)
    (value : Value) :
    (∀ id ∈ ids, later.Holds hierarchy id value) ↔
      ∀ member ∈ members, store.Loosened hierarchy options levels member value := by
  induction loosen with
  | nil => simp
  | cons first _ ih => simp only [List.forall_mem_cons, first.2 value, ih]

theorem loosens_union {levels : Nat} {members ids : List TypeId} {declared : TypeId}
    (found : store.lookup declared = some (.union members)) {middle : TypeStore}
    (formed : middle.WellFormed)
    (loosen : List.Forall₂
      (fun member id => Loosens hierarchy options store levels member middle id) members ids) :
    Ensures (union ids) middle (fun id later => middle.ExtendsTo later ∧
      Loosens hierarchy options store (levels + 1) declared later id) := by
  have known := contains_of_loosens loosen
  have denotes : Ensures (union ids) middle (fun id later => ∀ value,
      later.Holds hierarchy id value ↔ ∃ member ∈ ids, middle.Holds hierarchy member value) :=
    union_denotes formed known
  obtain ⟨further, unionKnown⟩ := union_extends formed known
  refine ⟨further, unionKnown, fun value => ?_⟩
  rw [denotes value, exists_loosens_iff loosen]
  simp only [Loosened, found]

theorem loosens_intersection {levels : Nat} {members ids : List TypeId} {declared : TypeId}
    (found : store.lookup declared = some (.intersection members)) {middle : TypeStore}
    (formed : middle.WellFormed)
    (loosen : List.Forall₂
      (fun member id => Loosens hierarchy options store levels member middle id) members ids) :
    Ensures (intersection ids) middle (fun id later => middle.ExtendsTo later ∧
      Loosens hierarchy options store (levels + 1) declared later id) := by
  have known := contains_of_loosens loosen
  have denotes : Ensures (intersection ids) middle (fun id later => ∀ value,
      later.Holds hierarchy id value ↔ ∀ member ∈ ids, middle.Holds hierarchy member value) :=
    intersection_denotes formed known
  obtain ⟨further, intersectionKnown⟩ := intersection_extends formed known
  refine ⟨further, intersectionKnown, fun value => ?_⟩
  rw [denotes value, forall_loosens_iff loosen]
  simp only [Loosened, found]

theorem ensures_loosens_self (formed : store.WellFormed) {levels : Nat} {declared : TypeId}
    (known : store.Contains declared)
    (same : ∀ value, store.Loosened hierarchy options levels declared value ↔
      store.Holds hierarchy declared value) :
    Ensures (pure declared) store (fun id later =>
      store.ExtendsTo later ∧ Loosens hierarchy options store levels declared later id) :=
  ensures_pure ⟨formed.extendsTo_refl, known, fun value => (same value).symm⟩

theorem normalizeWithin_object_denotes (formed : store.WellFormed) (levels : Nat) {name : String}
    {arguments : List TypeId} {declared : TypeId}
    (found : store.lookup declared = some (.object name arguments)) :
    Ensures (normalizeWithin hierarchy options (levels + 1) declared) store (fun id later =>
      store.ExtendsTo later ∧ Loosens hierarchy options store (levels + 1) declared later id) := by
  have known : store.Contains declared := contains_of_lookup found
  rw [normalizeWithin]
  apply ensures_get_bind
  simp only [found]
  cases last : arguments.getLast? with
  | none =>
      exact ensures_loosens_self formed known (fun value => by simp [Loosened, found, last])
  | some item =>
      simp only
      by_cases collects : hierarchy.isSameOrDerived name options.collectionInterface = true
      · rw [if_pos collects]
        exact loosens_collection formed found last collects
      · rw [if_neg collects]
        exact ensures_loosens_self formed known
          (fun value => by simp [Loosened, found, last, collects])

theorem normalizeWithin_iterable_denotes (formed : store.WellFormed) (levels : Nat)
    {key item declared : TypeId} (found : store.lookup declared = some (.iterable key item)) :
    Ensures (normalizeWithin hierarchy options (levels + 1) declared) store (fun id later =>
      store.ExtendsTo later ∧ Loosens hierarchy options store (levels + 1) declared later id) := by
  rw [normalizeWithin]
  apply ensures_get_bind
  simp only [found]
  by_cases anyKey : key = .mixed
  · rw [if_pos anyKey]
    rw [anyKey] at found
    exact ensures_pure ⟨formed.extendsTo_refl,
      loosens_iterable formed found formed.extendsTo_refl found⟩
  · rw [if_neg anyKey]
    apply (iterable_extends formed (contains_scalar formed.standard .mixed)
      (formed.contains_part found (by simp [Shape.parts]))).weaken
    rintro id later ⟨further, normal⟩
    exact ⟨further, loosens_iterable formed found further normal⟩

theorem normalizeWithin_array_denotes (formed : store.WellFormed) (levels : Nat)
    {key item declared : TypeId} (found : store.lookup declared = some (.array key item)) :
    Ensures (normalizeWithin hierarchy options (levels + 1) declared) store (fun id later =>
      store.ExtendsTo later ∧ Loosens hierarchy options store (levels + 1) declared later id) := by
  rw [normalizeWithin]
  apply ensures_get_bind
  simp only [found]
  by_cases anyKey : key = .mixed
  · rw [if_pos anyKey]
    rw [anyKey] at found
    exact ensures_pure ⟨formed.extendsTo_refl,
      loosens_array formed found formed.extendsTo_refl found⟩
  · rw [if_neg anyKey]
    apply (array_extends formed (contains_scalar formed.standard .mixed)
      (formed.contains_part found (by simp [Shape.parts]))).weaken
    rintro id later ⟨further, normal⟩
    exact ⟨further, loosens_array formed found further normal⟩

/-- Bringing a type into normal form gives it the values that its normal form is said to have. -/
theorem normalizeWithin_denotes (hierarchy : Hierarchy) (options : CheckOptions) (levels : Nat)
    {store : TypeStore} (formed : store.WellFormed) {declared : TypeId}
    (known : store.Contains declared) :
    Ensures (normalizeWithin hierarchy options levels declared) store (fun id later =>
      store.ExtendsTo later ∧ Loosens hierarchy options store levels declared later id) := by
  induction levels generalizing store declared with
  | zero => exact ensures_pure ⟨formed.extendsTo_refl, known, fun _ => Iff.rfl⟩
  | succ levels ih =>
      obtain ⟨shape, found⟩ := exists_lookup known
      have parts : ∀ part ∈ shape.parts, store.Contains part :=
        fun part present => formed.contains_part found present
      cases shape with
      | object name arguments => exact normalizeWithin_object_denotes formed levels found
      | iterable key item => exact normalizeWithin_iterable_denotes formed levels found
      | array key item => exact normalizeWithin_array_denotes formed levels found
      | scalar kind =>
          rw [normalizeWithin]
          apply ensures_get_bind
          rw [found]
          exact ensures_loosens_self formed known (fun value => by simp [Loosened, found])
      | union members =>
          rw [normalizeWithin]
          apply ensures_get_bind
          rw [found]
          apply ensures_bind (normalizeEach_denotes ih members formed parts)
          rintro ids middle ⟨extended, loosen⟩
          apply (loosens_union found extended.wellFormed loosen).weaken
          rintro id later ⟨further, loosens⟩
          exact ⟨extended.trans further, loosens⟩
      | intersection members =>
          rw [normalizeWithin]
          apply ensures_get_bind
          rw [found]
          apply ensures_bind (normalizeEach_denotes ih members formed parts)
          rintro ids middle ⟨extended, loosen⟩
          apply (loosens_intersection found extended.wellFormed loosen).weaken
          rintro id later ⟨further, loosens⟩
          exact ⟨extended.trans further, loosens⟩

end AssociationCheck
