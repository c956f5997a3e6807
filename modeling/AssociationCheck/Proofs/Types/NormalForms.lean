/-
Unions and intersections of trees.

The normal form of a union or intersection is made of a list of members, whatever the members are:
identifiers of a store or whole trees. Giving the members other names changes nothing, as long as
different members get different names, so a store computes on identifiers what its trees mean.
-/

import AssociationCheck.Proofs.Types.Trees

namespace AssociationCheck

/-! ### Lists without repetitions -/

theorem nodup_eraseDups {α : Type} [BEq α] [LawfulBEq α] (items : List α) :
    items.eraseDups.Nodup := by
  match items with
  | [] => simp
  | first :: others =>
      rw [List.eraseDups_cons, List.nodup_cons]
      exact ⟨by simp, nodup_eraseDups _⟩
termination_by items.length
decreasing_by exact Nat.lt_succ_of_le (List.length_filter_le _ _)

section Renaming

variable {α β : Type} [BEq α] [LawfulBEq α] [BEq β] [LawfulBEq β] {known : α → Prop}
  {rename : α → β}
  (apart : ∀ first second, known first → known second → rename first = rename second →
    first = second)
include apart

theorem beq_rename {first second : α} (firstKnown : known first) (secondKnown : known second) :
    (rename first == rename second) = (first == second) := by
  rw [Bool.eq_iff_iff, beq_iff_eq, beq_iff_eq]
  exact ⟨apart first second firstKnown secondKnown, congrArg rename⟩

theorem contains_map_rename {items : List α} (itemsKnown : ∀ item ∈ items, known item) {item : α}
    (itemKnown : known item) : (items.map rename).contains (rename item) = items.contains item := by
  induction items with
  | nil => rfl
  | cons first others ih =>
      rw [List.map_cons, List.contains_cons, List.contains_cons,
        beq_rename apart itemKnown (itemsKnown first List.mem_cons_self),
        ih (fun other present => itemsKnown other (List.mem_cons_of_mem _ present))]

theorem eraseDups_map_rename {items : List α} (itemsKnown : ∀ item ∈ items, known item) :
    (items.map rename).eraseDups = items.eraseDups.map rename := by
  match items with
  | [] => rfl
  | first :: others =>
      have firstKnown := itemsKnown first List.mem_cons_self
      have othersKnown (other : α) (present : other ∈ others) : known other :=
        itemsKnown other (List.mem_cons_of_mem _ present)
      have same : others.filter ((fun item => !item == rename first) ∘ rename) =
          others.filter (fun item => !item == first) := by
        apply List.filter_congr
        intro other present
        rw [Function.comp_apply, beq_rename apart (othersKnown other present) firstKnown]
      rw [List.map_cons, List.eraseDups_cons, List.eraseDups_cons, List.map_cons,
        List.filter_map, same]
      have keptKnown (other : α) (present : other ∈ others.filter (fun item => !item == first)) :
          known other :=
        othersKnown other (List.mem_filter.mp present).1
      rw [eraseDups_map_rename keptKnown]
termination_by items.length
decreasing_by exact Nat.lt_succ_of_le (List.length_filter_le _ _)

end Renaming

/-! ### Members in normal form -/

section Members

variable {α : Type} [BEq α]

/-- The members of a union in normal form, from all that are given: no member twice, without the
one that has no values, null last, and the one with all values alone. -/
def unitedMembers (top bottom null : α) (given : List α) : List α :=
  let proper := (given.filter (fun item => item != null && item != bottom)).eraseDups
  if proper.contains top then [top]
  else if given.contains null then proper ++ [null] else proper

/-- The members of an intersection in normal form, from all that are given: no member twice,
without the one with all values, and the one that has no values alone. -/
def metMembers (top bottom : α) (given : List α) : List α :=
  let proper := (given.filter (fun item => item != top)).eraseDups
  if proper.contains bottom then [bottom] else proper

variable [LawfulBEq α] {top bottom null item : α} {given : List α}

theorem unitedMembers_cases (top bottom null : α) (given : List α) :
    (top ∈ given ∧ unitedMembers top bottom null given = [top]) ∨
      ∃ proper : List α, proper.Nodup ∧
        (∀ item, item ∈ proper ↔ item ∈ given ∧ item ≠ null ∧ item ≠ bottom) ∧ top ∉ proper ∧
        ((null ∈ given ∧ unitedMembers top bottom null given = proper ++ [null]) ∨
          unitedMembers top bottom null given = proper) := by
  let proper := (given.filter (fun item => item != null && item != bottom)).eraseDups
  have mem_proper (item : α) : item ∈ proper ↔ item ∈ given ∧ item ≠ null ∧ item ≠ bottom := by
    simp [proper]
  by_cases absorbed : proper.contains top = true
  · exact Or.inl ⟨((mem_proper top).mp (List.contains_iff_mem.mp absorbed)).1, if_pos absorbed⟩
  · have opened : unitedMembers top bottom null given =
        if given.contains null then proper ++ [null] else proper := if_neg absorbed
    refine Or.inr ⟨proper, nodup_eraseDups _, mem_proper,
      fun present => absorbed (List.contains_iff_mem.mpr present), ?_⟩
    by_cases nullable : given.contains null = true
    · exact Or.inl ⟨List.contains_iff_mem.mp nullable, by rw [opened, if_pos nullable]⟩
    · exact Or.inr (by rw [opened, if_neg nullable])

theorem mem_of_mem_unitedMembers (present : item ∈ unitedMembers top bottom null given) :
    item ∈ given := by
  rcases unitedMembers_cases top bottom null given with
    ⟨inside, form⟩ | ⟨proper, _, mem_proper, _, ⟨inside, form⟩ | form⟩ <;> rw [form] at present
  · rw [List.mem_singleton.mp present]
    exact inside
  · rcases List.mem_append.mp present with among | isNull
    · exact ((mem_proper item).mp among).1
    · rw [List.mem_singleton.mp isNull]
      exact inside
  · exact ((mem_proper item).mp present).1

/-- Several members of a union: each once, neither of the two extremes, and null last. -/
structure UnitedMembers (top bottom null : α) (members : List α) : Prop where
  several : 2 ≤ members.length
  once : members.Nodup
  noTop : top ∉ members
  noBottom : bottom ∉ members
  nullLast : null ∉ members.dropLast

theorem unitedMembers_form (topProper : top ≠ null) (bottomProper : bottom ≠ null)
    (several : 2 ≤ (unitedMembers top bottom null given).length) :
    UnitedMembers top bottom null (unitedMembers top bottom null given) := by
  rcases unitedMembers_cases top bottom null given with
    ⟨_, form⟩ | ⟨proper, once, mem_proper, noTop, form⟩
  · rw [form] at several
    exact absurd several (by simp)
  · have noNull : null ∉ proper := fun present => ((mem_proper null).mp present).2.1 rfl
    have noBottom : bottom ∉ proper := fun present => ((mem_proper bottom).mp present).2.2 rfl
    rcases form with ⟨_, form⟩ | form <;> rw [form] at several ⊢
    · refine ⟨several, ?_, by simp [noTop, topProper], by simp [noBottom, bottomProper], ?_⟩
      · refine List.nodup_append.mpr ⟨once, by simp, ?_⟩
        intro item present other isNull same
        rw [same, List.mem_singleton.mp isNull] at present
        exact noNull present
      · rw [List.dropLast_concat]
        exact noNull
    · exact ⟨several, once, noTop, noBottom,
        fun present => noNull (List.dropLast_subset _ present)⟩

theorem metMembers_cases (top bottom : α) (given : List α) :
    (bottom ∈ given ∧ metMembers top bottom given = [bottom]) ∨
      ∃ proper : List α, proper.Nodup ∧ (∀ item, item ∈ proper ↔ item ∈ given ∧ item ≠ top) ∧
        bottom ∉ proper ∧ metMembers top bottom given = proper := by
  let proper := (given.filter (fun item => item != top)).eraseDups
  have mem_proper (item : α) : item ∈ proper ↔ item ∈ given ∧ item ≠ top := by simp [proper]
  by_cases absorbed : proper.contains bottom = true
  · exact Or.inl
      ⟨((mem_proper bottom).mp (List.contains_iff_mem.mp absorbed)).1, if_pos absorbed⟩
  · exact Or.inr ⟨proper, nodup_eraseDups _, mem_proper,
      fun present => absorbed (List.contains_iff_mem.mpr present), if_neg absorbed⟩

theorem mem_of_mem_metMembers (present : item ∈ metMembers top bottom given) : item ∈ given := by
  rcases metMembers_cases top bottom given with
    ⟨inside, form⟩ | ⟨proper, _, mem_proper, _, form⟩ <;> rw [form] at present
  · rw [List.mem_singleton.mp present]
    exact inside
  · exact ((mem_proper item).mp present).1

/-- Several members of an intersection: each once, neither of the two extremes. -/
structure MetMembers (top bottom : α) (members : List α) : Prop where
  several : 2 ≤ members.length
  once : members.Nodup
  noTop : top ∉ members
  noBottom : bottom ∉ members

theorem metMembers_form (several : 2 ≤ (metMembers top bottom given).length) :
    MetMembers top bottom (metMembers top bottom given) := by
  rcases metMembers_cases top bottom given with
    ⟨_, form⟩ | ⟨proper, once, mem_proper, noBottom, form⟩ <;> rw [form] at several ⊢
  · exact absurd several (by simp)
  · exact ⟨several, once, fun present => ((mem_proper top).mp present).2 rfl, noBottom⟩

end Members

section Renaming

variable {α β : Type} [BEq α] [LawfulBEq α] [BEq β] [LawfulBEq β] {known : α → Prop}
  {rename : α → β} {top bottom null : α} {given : List α}
  (apart : ∀ first second, known first → known second → rename first = rename second →
    first = second)
  (topKnown : known top) (bottomKnown : known bottom) (givenKnown : ∀ item ∈ given, known item)
include apart topKnown bottomKnown givenKnown

theorem unitedMembers_map (nullKnown : known null) :
    unitedMembers (rename top) (rename bottom) (rename null) (given.map rename) =
      (unitedMembers top bottom null given).map rename := by
  let proper := (given.filter (fun item => item != null && item != bottom)).eraseDups
  have properKnown (item : α) (present : item ∈ proper) : known item :=
    givenKnown item (List.mem_filter.mp (List.mem_eraseDups.mp present)).1
  have filtered : (given.map rename).filter
      (fun item => item != rename null && item != rename bottom) =
        (given.filter (fun item => item != null && item != bottom)).map rename := by
    rw [List.filter_map]
    congr 1
    apply List.filter_congr
    intro item present
    have itemKnown := givenKnown item present
    simp only [Function.comp_apply, bne, beq_rename apart itemKnown nullKnown,
      beq_rename apart itemKnown bottomKnown]
  have renamed : ((given.map rename).filter
      (fun item => item != rename null && item != rename bottom)).eraseDups =
        proper.map rename := by
    rw [filtered]
    exact eraseDups_map_rename apart
      (fun item present => givenKnown item (List.mem_filter.mp present).1)
  simp only [unitedMembers, renamed, contains_map_rename apart properKnown topKnown,
    contains_map_rename apart givenKnown nullKnown]
  change _ = (if proper.contains top then [top]
    else if given.contains null then proper ++ [null] else proper).map rename
  split
  · rfl
  · split
    · rw [List.map_append, List.map_singleton]
    · rfl

theorem metMembers_map :
    metMembers (rename top) (rename bottom) (given.map rename) =
      (metMembers top bottom given).map rename := by
  let proper := (given.filter (fun item => item != top)).eraseDups
  have properKnown (item : α) (present : item ∈ proper) : known item :=
    givenKnown item (List.mem_filter.mp (List.mem_eraseDups.mp present)).1
  have filtered : (given.map rename).filter (fun item => item != rename top) =
      (given.filter (fun item => item != top)).map rename := by
    rw [List.filter_map]
    congr 1
    apply List.filter_congr
    intro item present
    simp only [Function.comp_apply, bne, beq_rename apart (givenKnown item present) topKnown]
  have renamed : ((given.map rename).filter (fun item => item != rename top)).eraseDups =
      proper.map rename := by
    rw [filtered]
    exact eraseDups_map_rename apart
      (fun item present => givenKnown item (List.mem_filter.mp present).1)
  simp only [metMembers, renamed, contains_map_rename apart properKnown bottomKnown]
  change _ = (if proper.contains bottom then [bottom] else proper).map rename
  split <;> rfl

end Renaming

/-! ### Trees -/

namespace TypeTree

/-- The members of a union; any other tree is its own only member. -/
def unionMembers : TypeTree → List TypeTree
  | union members => members
  | tree => [tree]

def intersectionMembers : TypeTree → List TypeTree
  | intersection members => members
  | tree => [tree]

/-- What a list of members in normal form stands for: one member stands for itself. -/
def ofMembers (empty : TypeTree) (whole : List TypeTree → TypeTree) : List TypeTree → TypeTree
  | [] => empty
  | [member] => member
  | members => whole members

def unite (members : List TypeTree) : TypeTree :=
  ofMembers (.scalar .never) .union
    (unitedMembers (.scalar .mixed) (.scalar .never) (.scalar .null)
      (members.flatMap unionMembers))

def meet (members : List TypeTree) : TypeTree :=
  ofMembers (.scalar .mixed) .intersection
    (metMembers (.scalar .mixed) (.scalar .never) (members.flatMap intersectionMembers))

def withNull (tree : TypeTree) : TypeTree := unite [tree, .scalar .null]

/-- The tree without its member null; null alone leaves no value. -/
def withoutNull : TypeTree → TypeTree
  | scalar .null => .scalar .never
  | union members => unite (members.filter (fun member => member != .scalar .null))
  | tree => tree

def isNullable (tree : TypeTree) : Bool :=
  tree == .scalar .null || tree.unionMembers.contains (.scalar .null)

end TypeTree

namespace TypeStore

/-! ### Normal forms of a store -/

def Normalized.ofMembers (empty : TypeId) (whole : List TypeId → Shape) :
    List TypeId → Normalized
  | [] => .known empty
  | [member] => .known member
  | members => .stored (whole members)

theorem normalizeUnion_eq (store : TypeStore) (members : List TypeId) :
    store.normalizeUnion members =
      .ofMembers .never .union
        (unitedMembers .mixed .never .null (store.unionLeaves members)) := by
  let proper := ((store.unionLeaves members).filter
    (fun id => id != .null && id != .never)).eraseDups
  by_cases absorbed : proper.contains .mixed = true
  · have alone : unitedMembers .mixed .never .null (store.unionLeaves members) = [.mixed] :=
      if_pos absorbed
    rw [alone]
    exact if_pos absorbed
  · have kept : unitedMembers .mixed .never .null (store.unionLeaves members) =
        if (store.unionLeaves members).contains .null then proper ++ [.null] else proper :=
      if_neg absorbed
    rw [kept]
    exact if_neg absorbed

theorem normalizeIntersection_eq (store : TypeStore) (members : List TypeId) :
    store.normalizeIntersection members =
      .ofMembers .mixed .intersection
        (metMembers .mixed .never (store.intersectionLeaves members)) := by
  let proper := ((store.intersectionLeaves members).filter (fun id => id != .mixed)).eraseDups
  by_cases absorbed : proper.contains .never = true
  · have alone : metMembers .mixed .never (store.intersectionLeaves members) = [.never] :=
      if_pos absorbed
    rw [alone]
    exact if_pos absorbed
  · have kept : metMembers .mixed .never (store.intersectionLeaves members) = proper :=
      if_neg absorbed
    rw [kept]
    exact if_neg absorbed

end TypeStore

end AssociationCheck
