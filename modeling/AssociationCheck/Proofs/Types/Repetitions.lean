/-
Lists of members with repetitions.

A normal form keeps the first of equal members, so it does not matter whether a part of the list
was brought into normal form before, nor whether the members were replaced by lists of others
before or after that.
-/

import AssociationCheck.Proofs.Types.NormalForms
import Mathlib.Data.List.Induction

namespace AssociationCheck

/-! ### Repetitions -/

section Repetitions

variable {α : Type} [BEq α] [LawfulBEq α] {items others first second : List α}

theorem eraseDups_of_nodup (once : items.Nodup) : items.eraseDups = items := by
  induction items with
  | nil => rfl
  | cons item items ih =>
      obtain ⟨absent, once⟩ := List.nodup_cons.mp once
      have kept : items.filter (fun other => !other == item) = items := by
        apply List.filter_eq_self.mpr
        intro other present
        have apart : other ≠ item := fun same => absent (same ▸ present)
        simpa using apart
      rw [List.eraseDups_cons, kept, ih once]

theorem eraseDups_eraseDups (items : List α) : items.eraseDups.eraseDups = items.eraseDups :=
  eraseDups_of_nodup (nodup_eraseDups items)

theorem filter_eraseDups (keeps : α → Bool) (items : List α) :
    (items.filter keeps).eraseDups = items.eraseDups.filter keeps := by
  match items with
  | [] => rfl
  | item :: others =>
      have ih := filter_eraseDups keeps (others.filter (fun other => !other == item))
      have swapped : (others.filter keeps).filter (fun other => !other == item) =
          (others.filter (fun other => !other == item)).filter keeps := by
        rw [List.filter_filter, List.filter_filter]
        exact List.filter_congr fun other _ => Bool.and_comm _ _
      rw [List.eraseDups_cons, List.filter_cons, List.filter_cons]
      by_cases kept : keeps item = true
      · rw [if_pos kept, if_pos kept, List.eraseDups_cons, swapped, ih]
      · have missing : (others.filter keeps).filter (fun other => !other == item) =
            others.filter keeps := by
          apply List.filter_eq_self.mpr
          intro other present
          have apart : other ≠ item := fun same => kept (same ▸ (List.mem_filter.mp present).2)
          simpa using apart
        rw [if_neg kept, if_neg kept, ← ih, ← swapped, missing]
termination_by items.length
decreasing_by exact Nat.lt_succ_of_le (List.length_filter_le _ _)

theorem eraseDups_append_of_subset (inside : others ⊆ items) :
    (items ++ others).eraseDups = items.eraseDups := by
  have nothing : others.removeAll items = [] := by
    apply List.filter_eq_nil_iff.mpr
    intro item present
    simpa using inside present
  rw [List.eraseDups_append, nothing, List.eraseDups_nil, List.append_nil]

theorem eraseDups_append_congr (same : items.eraseDups = others.eraseDups)
    (alike : first.eraseDups = second.eraseDups) :
    (items ++ first).eraseDups = (others ++ second).eraseDups := by
  have contained : ∀ item, items.contains item = others.contains item := by
    intro item
    rw [Bool.eq_iff_iff, List.contains_iff_mem, List.contains_iff_mem, ← List.mem_eraseDups, same,
      List.mem_eraseDups]
  have removed : first.removeAll items = first.filter (fun item => !others.contains item) :=
    List.filter_congr fun item _ => congrArg not (contained item)
  rw [List.eraseDups_append, List.eraseDups_append, same, removed, filter_eraseDups, alike,
    ← filter_eraseDups]
  rfl

theorem eraseDups_flatMap {β : Type} [BEq β] [LawfulBEq β] (replace : α → List β)
    (items : List α) :
    (items.eraseDups.flatMap replace).eraseDups = (items.flatMap replace).eraseDups := by
  -- The last item is new or adds nothing, so the induction is from the end of the list.
  induction items using List.reverseRecOn with
  | nil => rfl
  | append_singleton items item ih =>
      rw [List.flatMap_append, List.flatMap_singleton, List.eraseDups_append]
      by_cases present : item ∈ items
      · have nothing : ([item] : List α).removeAll items = [] := by
          simp [List.removeAll, present]
        have inside : replace item ⊆ items.flatMap replace :=
          fun part among => List.mem_flatMap.mpr ⟨item, present, among⟩
        rw [nothing, List.eraseDups_nil, List.append_nil, ih, eraseDups_append_of_subset inside]
      · have isNew : ([item] : List α).removeAll items = [item] := by
          simp [List.removeAll, present]
        have single : ([item] : List α).eraseDups = [item] := eraseDups_of_nodup (by simp)
        rw [isNew, single, List.flatMap_append, List.flatMap_singleton]
        exact eraseDups_append_congr ih rfl

omit [BEq α] [LawfulBEq α] in
/-- Items that are left out may be left out before they are replaced, where they are replaced by
nothing that is kept. -/
theorem filter_flatMap_of_dropped {keeps : α → Bool} {replace : α → List α}
    (drops : ∀ item, ¬ keeps item = true → (replace item).filter keeps = []) (items : List α) :
    (items.flatMap replace).filter keeps =
      (items.filter keeps).flatMap (fun item => (replace item).filter keeps) := by
  induction items with
  | nil => rfl
  | cons item items ih =>
      rw [List.flatMap_cons, List.filter_append, ih, List.filter_cons]
      by_cases kept : keeps item = true
      · rw [if_pos kept, List.flatMap_cons]
      · rw [if_neg kept, drops item kept, List.nil_append]

end Repetitions

/-! ### Members of a union -/

section United

variable {α : Type} [BEq α] [LawfulBEq α] {top bottom null : α} {given other members : List α}

theorem unitedMembers_congr
    (same : (given.filter (fun item => item != null && item != bottom)).eraseDups =
      (other.filter (fun item => item != null && item != bottom)).eraseDups)
    (nulls : null ∈ given ↔ null ∈ other) :
    unitedMembers top bottom null given = unitedMembers top bottom null other := by
  have contained : given.contains null = other.contains null := by
    rw [Bool.eq_iff_iff, List.contains_iff_mem, List.contains_iff_mem, nulls]
  simp only [unitedMembers, same, contained]

theorem unitedMembers_of_top (topProper : top ≠ null) (topFull : top ≠ bottom)
    (present : top ∈ given) : unitedMembers top bottom null given = [top] := by
  have proper : top ∈ (given.filter (fun item => item != null && item != bottom)).eraseDups := by
    simp [present, topProper, topFull]
  exact if_pos (List.contains_iff_mem.mpr proper)

theorem unitedMembers_of_not_top (absent : top ∉ given) :
    unitedMembers top bottom null given =
      (given.filter (fun item => item != null && item != bottom)).eraseDups ++
        if null ∈ given then [null] else [] := by
  have improper :
      ¬ (given.filter (fun item => item != null && item != bottom)).eraseDups.contains top =
        true := by
    intro contained
    simp only [List.contains_iff_mem, List.mem_eraseDups, List.mem_filter] at contained
    exact absent contained.1
  unfold unitedMembers
  rw [if_neg improper]
  by_cases nullable : null ∈ given
  · rw [if_pos (List.contains_iff_mem.mpr nullable), if_pos nullable]
  · rw [if_neg (fun contained => nullable (List.contains_iff_mem.mp contained)), if_neg nullable,
      List.append_nil]

theorem filter_proper_unitedMembers (absent : top ∉ given) :
    (unitedMembers top bottom null given).filter (fun item => item != null && item != bottom) =
      (given.filter (fun item => item != null && item != bottom)).eraseDups := by
  have tail : (if null ∈ given then [null] else []).filter
      (fun item => item != null && item != bottom) = [] := by
    split <;> simp
  rw [unitedMembers_of_not_top absent, List.filter_append, tail, List.append_nil,
    ← filter_eraseDups, List.filter_filter]
  simp only [Bool.and_self]

theorem null_mem_unitedMembers (absent : top ∉ given) :
    null ∈ unitedMembers top bottom null given ↔ null ∈ given := by
  rw [unitedMembers_of_not_top absent]
  by_cases nullable : null ∈ given <;> simp [nullable]

theorem mem_unitedMembers_congr (topProper : top ≠ null) (topFull : top ≠ bottom)
    (same : ∀ item, item ∈ given ↔ item ∈ other) (item : α) :
    item ∈ unitedMembers top bottom null given ↔ item ∈ unitedMembers top bottom null other := by
  by_cases full : top ∈ given
  · rw [unitedMembers_of_top topProper topFull full,
      unitedMembers_of_top topProper topFull ((same top).mp full)]
  · have absent : top ∉ other := fun present => full ((same top).mpr present)
    rw [unitedMembers_of_not_top full, unitedMembers_of_not_top absent]
    simp only [List.mem_append, List.mem_eraseDups, List.mem_filter, same]

/-- What was united before may stand among the members. -/
theorem unitedMembers_nested (topProper : top ≠ null) (topFull : top ≠ bottom)
    (before given after : List α) :
    unitedMembers top bottom null (before ++ unitedMembers top bottom null given ++ after) =
      unitedMembers top bottom null (before ++ given ++ after) := by
  by_cases full : top ∈ given
  · rw [unitedMembers_of_top topProper topFull full, unitedMembers_of_top topProper topFull,
      unitedMembers_of_top topProper topFull]
    · simp [full]
    · simp
  · apply unitedMembers_congr
    · simp only [List.filter_append, filter_proper_unitedMembers full]
      exact eraseDups_append_congr
        (eraseDups_append_congr rfl (eraseDups_eraseDups _)) rfl
    · simp only [List.mem_append, null_mem_unitedMembers full]

theorem unitedMembers_without_bottom (bottomProper : bottom ≠ null) (before after : List α) :
    unitedMembers top bottom null (before ++ [bottom] ++ after) =
      unitedMembers top bottom null (before ++ after) := by
  apply unitedMembers_congr
  · simp
  · simp [bottomProper.symm]

theorem unitedMembers_without_null (topProper : top ≠ null) (topFull : top ≠ bottom)
    (given : List α) :
    unitedMembers top bottom null
        ((unitedMembers top bottom null given).filter (fun item => item != null)) =
      unitedMembers top bottom null (given.filter (fun item => item != null)) := by
  by_cases full : top ∈ given
  · have kept : top ∈ given.filter (fun item => item != null) := by simp [full, topProper]
    rw [unitedMembers_of_top topProper topFull full, unitedMembers_of_top topProper topFull kept]
    exact unitedMembers_of_top topProper topFull (by simp [topProper])
  · apply unitedMembers_congr
    · have properly (items : List α) : (items.filter (fun item => item != null)).filter
          (fun item => item != null && item != bottom) =
            items.filter (fun item => item != null && item != bottom) := by
        rw [List.filter_filter]
        apply List.filter_congr
        intro item _
        cases item != null <;> cases item != bottom <;> rfl
      rw [properly, properly, filter_proper_unitedMembers full, eraseDups_eraseDups]
    · simp

/-- Members may be replaced before or after they are united. -/
theorem unitedMembers_flatMap (topProper : top ≠ null) (topFull : top ≠ bottom)
    (bottomProper : bottom ≠ null) {replace : α → List α} (keepsTop : replace top = [top])
    (keepsBottom : replace bottom = [bottom]) (keepsNull : replace null = [null]) :
    unitedMembers top bottom null ((unitedMembers top bottom null given).flatMap replace) =
      unitedMembers top bottom null (given.flatMap replace) := by
  by_cases full : top ∈ given
  · have replaced : top ∈ given.flatMap replace :=
      List.mem_flatMap.mpr ⟨top, full, by simp [keepsTop]⟩
    rw [unitedMembers_of_top topProper topFull full, unitedMembers_of_top topProper topFull,
      unitedMembers_of_top topProper topFull replaced]
    simp [keepsTop]
  · have drops : ∀ item, ¬ (item != null && item != bottom) = true →
        (replace item).filter (fun item => item != null && item != bottom) = [] := by
      intro item improper
      by_cases isNull : item = null
      · simp [isNull, keepsNull]
      · have isBottom : item = bottom := by simpa [isNull] using improper
        simp [isBottom, keepsBottom]
    -- Null comes from null itself or from a proper member.
    have nullIn (items : List α) : null ∈ items.flatMap replace ↔ null ∈ items ∨
        ∃ item ∈ items.filter (fun item => item != null && item != bottom),
          null ∈ replace item := by
      rw [List.mem_flatMap]
      constructor
      · intro present
        obtain ⟨item, among, inside⟩ := present
        by_cases isNull : item = null
        · exact .inl (isNull ▸ among)
        · have notBottom : item ≠ bottom := by
            intro same
            rw [same, keepsBottom, List.mem_singleton] at inside
            exact bottomProper inside.symm
          exact .inr ⟨item, by simp [among, isNull, notBottom], inside⟩
      · intro present
        rcases present with among | ⟨item, among, inside⟩
        · exact ⟨null, among, by simp [keepsNull]⟩
        · exact ⟨item, (List.mem_filter.mp among).1, inside⟩
    apply unitedMembers_congr
    · rw [filter_flatMap_of_dropped drops, filter_flatMap_of_dropped drops,
        filter_proper_unitedMembers full]
      exact eraseDups_flatMap _ _
    · rw [nullIn, nullIn, null_mem_unitedMembers full, filter_proper_unitedMembers full]
      simp only [List.mem_eraseDups]

theorem forall_unitedMembers_iff {holds : α → Prop} (topProper : top ≠ null)
    (topFull : top ≠ bottom) (bottomHolds : holds bottom)
    (topDecides : holds top → ∀ item, holds item) :
    (∀ item ∈ unitedMembers top bottom null given, holds item) ↔ ∀ item ∈ given, holds item := by
  by_cases full : top ∈ given
  · rw [unitedMembers_of_top topProper topFull full, List.forall_mem_singleton]
    exact ⟨fun holdsTop item _ => topDecides holdsTop item, fun all => all top full⟩
  · rw [unitedMembers_of_not_top full]
    constructor
    · intro all item present
      by_cases isBottom : item = bottom
      · exact isBottom ▸ bottomHolds
      · apply all item
        by_cases isNull : item = null
        · have nullable : null ∈ given := isNull ▸ present
          simp [isNull, nullable]
        · simp [present, isNull, isBottom]
    · intro all item present
      apply all item
      rcases List.mem_append.mp present with proper | isNull
      · exact (List.mem_filter.mp (List.mem_eraseDups.mp proper)).1
      · split at isNull
        · rename_i nullable
          exact List.mem_singleton.mp isNull ▸ nullable
        · cases isNull

theorem UnitedMembers.united (form : UnitedMembers top bottom null members) :
    unitedMembers top bottom null members = members := by
  rw [unitedMembers_of_not_top form.noTop]
  have some : members ≠ [] := by
    intro none
    have several := form.several
    simp [none] at several
  have split := List.dropLast_concat_getLast some
  have noBottom : ∀ item ∈ members, item ≠ bottom :=
    fun item present same => form.noBottom (same ▸ present)
  have once := form.once
  rw [← split] at once noBottom ⊢
  have proper : members.dropLast.filter (fun item => item != null && item != bottom) =
      members.dropLast := by
    apply List.filter_eq_self.mpr
    intro item present
    have notNull : item ≠ null := fun same => form.nullLast (same ▸ present)
    simp [notNull, noBottom item (List.mem_append_left _ present)]
  rw [List.filter_append, proper]
  by_cases nullable : members.getLast some = null
  · rw [nullable, if_pos (by simp), List.filter_cons_of_neg (by simp), List.filter_nil,
      List.append_nil, eraseDups_of_nodup (List.nodup_append.mp once).1]
  · have last : members.getLast some ≠ bottom := noBottom _ (by simp)
    have noNull : null ∉ members.dropLast ++ [members.getLast some] := by
      simp [form.nullLast, Ne.symm nullable]
    rw [if_neg noNull, List.append_nil, List.filter_cons_of_pos (by simp [nullable, last]),
      List.filter_nil, eraseDups_of_nodup once]

end United

/-! ### Members of an intersection -/

section Met

variable {α : Type} [BEq α] [LawfulBEq α] {top bottom : α} {given other members : List α}

omit [LawfulBEq α] in
theorem metMembers_congr
    (same : (given.filter (fun item => item != top)).eraseDups =
      (other.filter (fun item => item != top)).eraseDups) :
    metMembers top bottom given = metMembers top bottom other := by
  simp only [metMembers, same]

theorem metMembers_of_bottom (bottomProper : bottom ≠ top) (present : bottom ∈ given) :
    metMembers top bottom given = [bottom] := by
  have proper : bottom ∈ (given.filter (fun item => item != top)).eraseDups := by
    simp [present, bottomProper]
  exact if_pos (List.contains_iff_mem.mpr proper)

theorem metMembers_of_not_bottom (absent : bottom ∉ given) :
    metMembers top bottom given = (given.filter (fun item => item != top)).eraseDups := by
  have improper : ¬ (given.filter (fun item => item != top)).eraseDups.contains bottom = true := by
    intro contained
    simp only [List.contains_iff_mem, List.mem_eraseDups, List.mem_filter] at contained
    exact absent contained.1
  exact if_neg improper

theorem filter_proper_metMembers (absent : bottom ∉ given) :
    (metMembers top bottom given).filter (fun item => item != top) =
      (given.filter (fun item => item != top)).eraseDups := by
  rw [metMembers_of_not_bottom absent, ← filter_eraseDups, List.filter_filter]
  simp only [Bool.and_self]

theorem mem_metMembers_congr (bottomProper : bottom ≠ top)
    (same : ∀ item, item ∈ given ↔ item ∈ other) (item : α) :
    item ∈ metMembers top bottom given ↔ item ∈ metMembers top bottom other := by
  by_cases empty : bottom ∈ given
  · rw [metMembers_of_bottom bottomProper empty,
      metMembers_of_bottom bottomProper ((same bottom).mp empty)]
  · have absent : bottom ∉ other := fun present => empty ((same bottom).mpr present)
    rw [metMembers_of_not_bottom empty, metMembers_of_not_bottom absent]
    simp only [List.mem_eraseDups, List.mem_filter, same]

theorem metMembers_nested (bottomProper : bottom ≠ top) (before given after : List α) :
    metMembers top bottom (before ++ metMembers top bottom given ++ after) =
      metMembers top bottom (before ++ given ++ after) := by
  by_cases empty : bottom ∈ given
  · rw [metMembers_of_bottom bottomProper empty, metMembers_of_bottom bottomProper,
      metMembers_of_bottom bottomProper]
    · simp [empty]
    · simp
  · apply metMembers_congr
    simp only [List.filter_append, filter_proper_metMembers empty]
    exact eraseDups_append_congr (eraseDups_append_congr rfl (eraseDups_eraseDups _)) rfl

theorem metMembers_without_top (before after : List α) :
    metMembers top bottom (before ++ [top] ++ after) = metMembers top bottom (before ++ after) := by
  apply metMembers_congr
  simp

theorem metMembers_flatMap (bottomProper : bottom ≠ top) {replace : α → List α}
    (keepsTop : replace top = [top]) (keepsBottom : replace bottom = [bottom]) :
    metMembers top bottom ((metMembers top bottom given).flatMap replace) =
      metMembers top bottom (given.flatMap replace) := by
  by_cases empty : bottom ∈ given
  · have replaced : bottom ∈ given.flatMap replace :=
      List.mem_flatMap.mpr ⟨bottom, empty, by simp [keepsBottom]⟩
    rw [metMembers_of_bottom bottomProper empty, metMembers_of_bottom bottomProper,
      metMembers_of_bottom bottomProper replaced]
    simp [keepsBottom]
  · have drops : ∀ item, ¬ (item != top) = true →
        (replace item).filter (fun item => item != top) = [] := by
      intro item improper
      have isTop : item = top := by simpa using improper
      simp [isTop, keepsTop]
    apply metMembers_congr
    rw [filter_flatMap_of_dropped drops, filter_flatMap_of_dropped drops,
      filter_proper_metMembers empty]
    exact eraseDups_flatMap _ _

theorem forall_metMembers_iff {holds : α → Prop} (bottomProper : bottom ≠ top)
    (topHolds : holds top) (bottomDecides : holds bottom → ∀ item, holds item) :
    (∀ item ∈ metMembers top bottom given, holds item) ↔ ∀ item ∈ given, holds item := by
  by_cases empty : bottom ∈ given
  · rw [metMembers_of_bottom bottomProper empty, List.forall_mem_singleton]
    exact ⟨fun holdsBottom item _ => bottomDecides holdsBottom item, fun all => all bottom empty⟩
  · rw [metMembers_of_not_bottom empty]
    constructor
    · intro all item present
      by_cases isTop : item = top
      · exact isTop ▸ topHolds
      · exact all item (by simp [present, isTop])
    · intro all item present
      exact all item (List.mem_filter.mp (List.mem_eraseDups.mp present)).1

theorem MetMembers.met (form : MetMembers top bottom members) :
    metMembers top bottom members = members := by
  have proper : members.filter (fun item => item != top) = members := by
    apply List.filter_eq_self.mpr
    intro item present
    have apart : item ≠ top := fun same => form.noTop (same ▸ present)
    simpa using apart
  rw [metMembers_of_not_bottom form.noBottom, proper, eraseDups_of_nodup form.once]

end Met

end AssociationCheck
