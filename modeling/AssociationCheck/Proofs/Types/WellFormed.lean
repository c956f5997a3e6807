/-
Stores in which no type contains itself.

The constructors are only ever given types that the store holds already, so every type stands
after its parts.
-/

import AssociationCheck.Proofs.Types.Growth

namespace AssociationCheck

def Shape.parts : Shape → List TypeId
  | scalar _ => []
  | object _ arguments => arguments
  | iterable key value => [key, value]
  | array key value => [key, value]
  | union members => members
  | intersection members => members

namespace TypeStore

open Building

variable {store later last : TypeStore} {id part : TypeId} {shape : Shape}

/-- The built-in types stand first, and every type stands after its parts. -/
structure WellFormed (store : TypeStore) : Prop where
  standard : initial.GrowsTo store
  earlier : ∀ ⦃id shape⦄, store.lookup id = some shape →
    ∀ part ∈ shape.parts, part.index < id.index

structure ExtendsTo (store later : TypeStore) : Prop where
  grows : store.GrowsTo later
  wellFormed : later.WellFormed

theorem ExtendsTo.trans (first : store.ExtendsTo later) (second : later.ExtendsTo last) :
    store.ExtendsTo last :=
  ⟨first.grows.trans second.grows, second.wellFormed⟩

theorem ExtendsTo.contains (first : store.ExtendsTo later) (known : store.Contains id) :
    later.Contains id :=
  first.grows.contains known

theorem WellFormed.extendsTo_refl (formed : store.WellFormed) : store.ExtendsTo store :=
  ⟨GrowsTo.refl store, formed⟩

/-! ### Built-in types and parts -/

theorem lookup_scalar (standard : initial.GrowsTo store) (kind : Scalar) :
    store.lookup kind.id = some (.scalar kind) := by
  apply standard
  cases kind <;> rfl

theorem contains_scalar (standard : initial.GrowsTo store) (kind : Scalar) :
    store.Contains kind.id :=
  contains_of_lookup (lookup_scalar standard kind)

theorem WellFormed.contains_part (formed : store.WellFormed) (found : store.lookup id = some shape)
    (present : part ∈ shape.parts) : store.Contains part :=
  Nat.lt_trans (formed.earlier found part present) (contains_of_lookup found)

theorem wellFormed_initial : initial.WellFormed where
  standard := GrowsTo.refl initial
  earlier := by
    intro id shape found part present
    have simple : ∀ shape ∈ initial.shapes, shape.parts = [] := by decide
    rw [simple shape (Array.mem_of_getElem? found)] at present
    cases present

/-! ### Interning -/

theorem WellFormed.push (formed : store.WellFormed)
    (known : ∀ part ∈ shape.parts, store.Contains part) :
    WellFormed ⟨store.shapes.push shape⟩ where
  standard := formed.standard.trans (growsTo_push store shape)
  earlier := by
    intro id other found part present
    rw [lookup_push] at found
    split at found
    · rename_i last
      cases found
      rw [last]
      exact known part present
    · exact formed.earlier found part present

theorem intern_extends (formed : store.WellFormed)
    (known : ∀ part ∈ shape.parts, store.Contains part) :
    Ensures (intern shape) store
      (fun id later => store.ExtendsTo later ∧ later.lookup id = some shape) := by
  obtain ⟨grows, found⟩ := intern_ensures shape store
  refine ⟨⟨grows, ?_⟩, found⟩
  rcases intern_run_cases shape store with ⟨id, _, same⟩ | added
  · rw [same]
    exact formed
  · rw [added]
    exact formed.push known

theorem object_extends (formed : store.WellFormed) (name : String) {arguments : List TypeId}
    (known : ∀ argument ∈ arguments, store.Contains argument) :
    Ensures (object name arguments) store (fun id later => store.ExtendsTo later ∧
      later.lookup id = some (.object (withoutLeadingSeparators name) arguments)) :=
  intern_extends formed known

theorem iterable_extends (formed : store.WellFormed) {key value : TypeId}
    (keyKnown : store.Contains key) (valueKnown : store.Contains value) :
    Ensures (iterable key value) store
      (fun id later => store.ExtendsTo later ∧ later.lookup id = some (.iterable key value)) := by
  apply intern_extends formed
  simpa [Shape.parts] using And.intro keyKnown valueKnown

theorem array_extends (formed : store.WellFormed) {key value : TypeId}
    (keyKnown : store.Contains key) (valueKnown : store.Contains value) :
    Ensures (array key value) store
      (fun id later => store.ExtendsTo later ∧ later.lookup id = some (.array key value)) := by
  apply intern_extends formed
  simpa [Shape.parts] using And.intro keyKnown valueKnown

/-! ### Normal forms -/

def unionLeaves (store : TypeStore) (members : List TypeId) : List TypeId :=
  members.flatMap (store.flatten Shape.unionMembers? store.size)

def intersectionLeaves (store : TypeStore) (members : List TypeId) : List TypeId :=
  members.flatMap (store.flatten Shape.intersectionMembers? store.size)

/-- The normal form of a union is `mixed` where that is a member, and otherwise has the opened
members but `never`. -/
theorem normalizeUnion_cases (store : TypeStore) (members : List TypeId) :
    (.mixed ∈ store.unionLeaves members ∧ store.normalizeUnion members = .known .mixed) ∨
      ∃ ids, (∀ id, id ∈ ids ↔ id ∈ store.unionLeaves members ∧ id ≠ .never) ∧
        ((ids = [] ∧ store.normalizeUnion members = .known .never) ∨
          (∃ id, ids = [id] ∧ store.normalizeUnion members = .known id) ∨
          store.normalizeUnion members = .stored (.union ids)) := by
  let flat := store.unionLeaves members
  let proper := (flat.filter (fun id => id != .null && id != .never)).eraseDups
  let ids := if flat.contains .null then proper ++ [.null] else proper
  have mem_proper (id : TypeId) : id ∈ proper ↔ id ∈ flat ∧ id ≠ .null ∧ id ≠ .never := by
    simp [proper]
  by_cases absorbed : proper.contains .mixed = true
  · have present := ((mem_proper .mixed).mp (List.contains_iff_mem.mp absorbed)).1
    exact Or.inl ⟨present, if_pos absorbed⟩
  · have opened : store.normalizeUnion members = _ := if_neg absorbed
    refine Or.inr ⟨ids, ?_, ?_⟩
    · intro id
      have apart : TypeId.null ≠ .never := by decide
      by_cases nullable : flat.contains .null = true
      · have present : .null ∈ flat := List.contains_iff_mem.mp nullable
        have nullLast : ids = proper ++ [.null] := if_pos nullable
        rw [nullLast, List.mem_append, mem_proper, List.mem_singleton]
        constructor
        · rintro (⟨inside, _, possible⟩ | rfl)
          · exact ⟨inside, possible⟩
          · exact ⟨present, apart⟩
        · rintro ⟨inside, possible⟩
          by_cases isNull : id = .null
          · exact Or.inr isNull
          · exact Or.inl ⟨inside, isNull, possible⟩
      · have absent : .null ∉ flat := fun present => nullable (List.contains_iff_mem.mpr present)
        have noNull : ids = proper := if_neg nullable
        rw [noNull, mem_proper]
        constructor
        · exact fun both => ⟨both.1, both.2.2⟩
        · exact fun both => ⟨both.1, fun isNull => absent (isNull ▸ both.1), both.2⟩
    · split at opened
      · exact Or.inl ⟨‹_›, opened⟩
      · exact Or.inr (Or.inl ⟨_, ‹_›, opened⟩)
      · exact Or.inr (Or.inr opened)

/-- The normal form of an intersection is `never` where that is a member, and otherwise has the
opened members but `mixed`. -/
theorem normalizeIntersection_cases (store : TypeStore) (members : List TypeId) :
    (.never ∈ store.intersectionLeaves members ∧
        store.normalizeIntersection members = .known .never) ∨
      ∃ ids, (∀ id, id ∈ ids ↔ id ∈ store.intersectionLeaves members ∧ id ≠ .mixed) ∧
        ((ids = [] ∧ store.normalizeIntersection members = .known .mixed) ∨
          (∃ id, ids = [id] ∧ store.normalizeIntersection members = .known id) ∨
          store.normalizeIntersection members = .stored (.intersection ids)) := by
  let flat := store.intersectionLeaves members
  let proper := (flat.filter (fun id => id != .mixed)).eraseDups
  have mem_proper (id : TypeId) : id ∈ proper ↔ id ∈ flat ∧ id ≠ .mixed := by
    simp [proper]
  by_cases absorbed : proper.contains .never = true
  · have present := ((mem_proper .never).mp (List.contains_iff_mem.mp absorbed)).1
    exact Or.inl ⟨present, if_pos absorbed⟩
  · have opened : store.normalizeIntersection members = _ := if_neg absorbed
    refine Or.inr ⟨proper, mem_proper, ?_⟩
    split at opened
    · exact Or.inl ⟨‹_›, opened⟩
    · exact Or.inr (Or.inl ⟨_, ‹_›, opened⟩)
    · exact Or.inr (Or.inr opened)

/-! ### Unions and intersections -/

theorem contains_of_mem_flatten (formed : store.WellFormed)
    {members? : Shape → Option (List TypeId)}
    (opens : ∀ shape members, members? shape = some members → members = shape.parts)
    (levels : Nat) {leaf : TypeId} (known : store.Contains id)
    (leafOf : leaf ∈ store.flatten members? levels id) : store.Contains leaf := by
  induction levels generalizing id with
  | zero =>
      rw [List.mem_singleton.mp leafOf]
      exact known
  | succ levels ih =>
      rw [flatten] at leafOf
      split at leafOf
      · rename_i members opened
        obtain ⟨shape, found, opened⟩ := Option.bind_eq_some_iff.mp opened
        obtain ⟨member, present, below⟩ := List.mem_flatMap.mp leafOf
        rw [opens shape members opened] at present
        exact ih (formed.contains_part found present) below
      · rw [List.mem_singleton.mp leafOf]
        exact known

theorem parts_of_unionMembers? (shape : Shape) (members : List TypeId)
    (opened : shape.unionMembers? = some members) : members = shape.parts := by
  cases shape <;> simp_all [Shape.unionMembers?, Shape.parts]

theorem parts_of_intersectionMembers? (shape : Shape) (members : List TypeId)
    (opened : shape.intersectionMembers? = some members) : members = shape.parts := by
  cases shape <;> simp_all [Shape.intersectionMembers?, Shape.parts]

theorem contains_of_mem_unionLeaves (formed : store.WellFormed) {members : List TypeId}
    (known : ∀ member ∈ members, store.Contains member) {leaf : TypeId}
    (leafOf : leaf ∈ store.unionLeaves members) : store.Contains leaf := by
  obtain ⟨member, present, below⟩ := List.mem_flatMap.mp leafOf
  exact contains_of_mem_flatten formed parts_of_unionMembers? _ (known member present) below

theorem contains_of_mem_intersectionLeaves (formed : store.WellFormed) {members : List TypeId}
    (known : ∀ member ∈ members, store.Contains member) {leaf : TypeId}
    (leafOf : leaf ∈ store.intersectionLeaves members) : store.Contains leaf := by
  obtain ⟨member, present, below⟩ := List.mem_flatMap.mp leafOf
  exact contains_of_mem_flatten formed parts_of_intersectionMembers? _ (known member present) below

theorem settle_known_extends (formed : store.WellFormed) (known : store.Contains id) :
    Ensures (settle (.known id)) store
      (fun id later => store.ExtendsTo later ∧ later.Contains id) :=
  ⟨formed.extendsTo_refl, known⟩

theorem settle_stored_extends (formed : store.WellFormed)
    (known : ∀ part ∈ shape.parts, store.Contains part) :
    Ensures (settle (.stored shape)) store
      (fun id later => store.ExtendsTo later ∧ later.Contains id) :=
  (intern_extends formed known).weaken (fun _ _ stored => ⟨stored.1, contains_of_lookup stored.2⟩)

theorem union_extends (formed : store.WellFormed) {members : List TypeId}
    (known : ∀ member ∈ members, store.Contains member) :
    Ensures (union members) store
      (fun id later => store.ExtendsTo later ∧ later.Contains id) := by
  apply ensures_get_bind
  rcases store.normalizeUnion_cases members with ⟨_, form⟩ | ⟨ids, mem_ids, form⟩
  · rw [form]
    exact settle_known_extends formed (contains_scalar formed.standard .mixed)
  · have idsKnown : ∀ id ∈ ids, store.Contains id := fun id present =>
      contains_of_mem_unionLeaves formed known ((mem_ids id).mp present).1
    rcases form with ⟨_, form⟩ | ⟨id, rfl, form⟩ | form <;> rw [form]
    · exact settle_known_extends formed (contains_scalar formed.standard .never)
    · exact settle_known_extends formed (idsKnown id List.mem_cons_self)
    · exact settle_stored_extends formed idsKnown

theorem intersection_extends (formed : store.WellFormed) {members : List TypeId}
    (known : ∀ member ∈ members, store.Contains member) :
    Ensures (intersection members) store
      (fun id later => store.ExtendsTo later ∧ later.Contains id) := by
  apply ensures_get_bind
  rcases store.normalizeIntersection_cases members with ⟨_, form⟩ | ⟨ids, mem_ids, form⟩
  · rw [form]
    exact settle_known_extends formed (contains_scalar formed.standard .never)
  · have idsKnown : ∀ id ∈ ids, store.Contains id := fun id present =>
      contains_of_mem_intersectionLeaves formed known ((mem_ids id).mp present).1
    rcases form with ⟨_, form⟩ | ⟨id, rfl, form⟩ | form <;> rw [form]
    · exact settle_known_extends formed (contains_scalar formed.standard .mixed)
    · exact settle_known_extends formed (idsKnown id List.mem_cons_self)
    · exact settle_stored_extends formed idsKnown

theorem addNull_extends (formed : store.WellFormed) (known : store.Contains id) :
    Ensures (addNull id) store (fun id later => store.ExtendsTo later ∧ later.Contains id) := by
  apply union_extends formed
  have nullKnown : store.Contains .null := contains_scalar formed.standard .null
  simpa using And.intro known nullKnown

theorem removeNull_extends (formed : store.WellFormed) (known : store.Contains id) :
    Ensures (removeNull id) store (fun id later => store.ExtendsTo later ∧ later.Contains id) := by
  unfold removeNull
  split
  · exact ⟨formed.extendsTo_refl, contains_scalar formed.standard .never⟩
  · apply ensures_get_bind
    split
    · rename_i members found
      apply union_extends formed
      intro member present
      exact formed.contains_part found (List.mem_filter.mp present).1
    · exact ⟨formed.extendsTo_refl, known⟩

end TypeStore

end AssociationCheck
