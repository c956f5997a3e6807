/-
The walk finds every ancestor.

A walk looks into each class once and into no more classes than it may. A class with few ancestors
leaves it enough steps to look into all of them, so for such a class deriving is the same as being
led to an ancestor by one or more steps to a parent.
-/

import AssociationCheck.Proofs.Hierarchy.Ancestry
import Mathlib.Data.List.TakeWhile
import Mathlib.Data.Set.Card

namespace AssociationCheck.Hierarchy

variable {hierarchy other : Hierarchy} {child target : ClassKey}

/-! ### What a walk keeps -/

/-- A walk over the ancestors of a class that has looked into some of them without meeting the
target. What it has looked into is kept a second time as a finite set, to be counted. -/
structure Walking (hierarchy : Hierarchy) (child target : ClassKey) (visited : Std.TreeSet ClassKey)
    (looked : Finset ClassKey) (ahead : List ClassName) : Prop where
  recorded : ∀ key, key ∈ visited ↔ key ∈ looked
  ancestors : ∀ key ∈ looked, hierarchy.Derives child key
  above : ∀ name ∈ ahead, hierarchy.Derives child name.key
  unmet : target ∉ looked
  /-- A parent of the class, or of a class looked into, is looked into or still ahead. -/
  onward : ∀ key, key = child ∨ key ∈ looked → ∀ parent, hierarchy.Parent key parent →
    parent ∈ looked ∨ ∃ name ∈ ahead, name.key = parent

namespace Walking

variable {visited : Std.TreeSet ClassKey} {looked : Finset ClassKey} {ahead : List ClassName}

theorem start (hierarchy : Hierarchy) (child target : ClassKey) :
    Walking hierarchy child target ∅ ∅ (hierarchy.parents child).reverse where
  recorded := by simp
  ancestors := by simp
  above name present := .single ⟨name, List.mem_reverse.mp present, rfl⟩
  unmet := by simp
  onward := by
    intro key started parent edge
    obtain ⟨name, present, same⟩ := edge
    rcases started with rfl | looked
    · exact .inr ⟨name, List.mem_reverse.mpr present, same⟩
    · simp at looked

/-- A walk with nothing new ahead has looked into every ancestor. -/
theorem all_looked (walking : Walking hierarchy child target visited looked ahead)
    (nothingNew : ∀ name ∈ ahead, name.key ∈ looked) {ancestor : ClassKey}
    (derives : hierarchy.Derives child ancestor) : ancestor ∈ looked := by
  have parents : ∀ key, key = child ∨ key ∈ looked → ∀ parent, hierarchy.Parent key parent →
      parent ∈ looked := by
    intro key started parent edge
    rcases walking.onward key started parent edge with seen | ⟨name, present, same⟩
    · exact seen
    · exact same ▸ nothingNew name present
  induction derives with
  | single edge => exact parents child (.inl rfl) _ edge
  | tail _ edge ih => exact parents _ (.inr ih) _ edge

/-- One step of the walk: the classes before the next one had been looked into. -/
theorem look (walking : Walking hierarchy child target visited looked ahead)
    {passed rest : List ClassName} {name : ClassName} (split : ahead = passed ++ name :: rest)
    (known : ∀ earlier ∈ passed, earlier.key ∈ looked) (missed : name.key ≠ target) :
    Walking hierarchy child target (visited.insert name.key) (insert name.key looked)
      ((hierarchy.parents name.key).reverse ++ rest) where
  recorded key := by
    rw [Std.TreeSet.mem_insert, Std.LawfulEqCmp.compare_eq_iff_eq, eq_comm, walking.recorded,
      Finset.mem_insert]
  ancestors key present := by
    rcases Finset.mem_insert.mp present with rfl | earlier
    · exact walking.above name (by simp [split])
    · exact walking.ancestors key earlier
  above later present := by
    have next : hierarchy.Derives child name.key := walking.above name (by simp [split])
    rcases List.mem_append.mp present with parent | among
    · exact next.tail ⟨later, List.mem_reverse.mp parent, rfl⟩
    · exact walking.above later (by simp [split, among])
  unmet := by simp [missed.symm, walking.unmet]
  onward := by
    intro key started parent edge
    have earlier : key = child ∨ key ∈ looked → parent ∈ insert name.key looked ∨
        ∃ next ∈ (hierarchy.parents name.key).reverse ++ rest, next.key = parent := by
      intro before
      rcases walking.onward key before parent edge with seen | ⟨next, present, same⟩
      · exact .inl (Finset.mem_insert_of_mem seen)
      · simp only [split, List.mem_append, List.mem_cons] at present
        rcases present with early | rfl | late
        · exact .inl (Finset.mem_insert_of_mem (same ▸ known next early))
        · exact .inl (same ▸ Finset.mem_insert_self _ _)
        · exact .inr ⟨next, List.mem_append_right _ late, same⟩
    rcases started with start | present
    · exact earlier (.inl start)
    · rcases Finset.mem_insert.mp present with rfl | before
      · obtain ⟨next, among, same⟩ := edge
        exact .inr ⟨next, List.mem_append_left _ (List.mem_reverse.mpr among), same⟩
      · exact earlier (.inr before)

end Walking

/-- A walk with a step left for each ancestor it has not looked into meets the target when that is
one of them. -/
theorem walk_of_derives {ancestors : Finset ClassKey}
    (complete : ∀ key, key ∈ ancestors ↔ hierarchy.Derives child key)
    (derives : hierarchy.Derives child target) (steps : Nat) {visited : Std.TreeSet ClassKey}
    {looked : Finset ClassKey} {ahead : List ClassName}
    (walking : Walking hierarchy child target visited looked ahead)
    (enough : ancestors.card ≤ steps + looked.card) :
    hierarchy.walk target steps visited ahead = true := by
  induction steps generalizing visited looked ahead with
  | zero =>
      -- No step is left, so all ancestors have been looked into, the target among them.
      have inside : looked ⊆ ancestors :=
        fun key present => (complete key).mpr (walking.ancestors key present)
      have all : looked = ancestors := Finset.eq_of_subset_of_card_le inside (by omega)
      exact absurd (all ▸ (complete target).mpr derives) walking.unmet
  | succ steps ih =>
      rw [walk]
      set passes : ClassName → Bool :=
        fun name => name.key != target && visited.contains name.key with passesDefined
      have known : ∀ name, passes name = true → name.key ∈ looked := by
        intro name passed
        rw [passesDefined, Bool.and_eq_true] at passed
        exact (walking.recorded _).mp (Std.TreeSet.mem_iff_contains.mpr passed.2)
      have split : ahead = ahead.takeWhile passes ++ ahead.dropWhile passes :=
        List.takeWhile_append_dropWhile.symm
      have knownBefore : ∀ earlier ∈ ahead.takeWhile passes, earlier.key ∈ looked :=
        fun earlier present => known earlier (List.mem_takeWhile_imp present)
      cases remaining : ahead.dropWhile passes with
      | nil =>
          have nothingNew : ∀ name ∈ ahead, name.key ∈ looked := by
            intro name present
            exact known name (List.dropWhile_eq_nil_iff.mp remaining name present)
          exact absurd (walking.all_looked nothingNew derives) walking.unmet
      | cons name rest =>
          by_cases met : name.key = target
          · simp [met]
          · have fresh : name.key ∉ looked := by
              intro seen
              have stops : ¬ passes name = true := by
                have first := List.dropWhile_get_zero_not passes ahead (by simp [remaining])
                simpa [remaining] using first
              have contained := Std.TreeSet.mem_iff_contains.mp ((walking.recorded _).mpr seen)
              exact stops (by simp [passesDefined, met, contained])
            rw [remaining] at split
            simp only [met, if_false]
            apply ih (walking.look split knownBefore met)
            rw [Finset.card_insert_of_notMem fresh]
            omega

/-! ### Few ancestors -/

def FewAncestors (hierarchy : Hierarchy) (child : ClassKey) : Prop :=
  {ancestor | hierarchy.Derives child ancestor}.encard ≤ walkLimit

/-- A class all of whose ancestors are among few classes has few ancestors. -/
theorem fewAncestors_of_subset {classes : Set ClassKey} (few : classes.encard ≤ walkLimit)
    (inside : ∀ ancestor, hierarchy.Derives child ancestor → ancestor ∈ classes) :
    hierarchy.FewAncestors child :=
  (Set.encard_le_encard inside).trans few

theorem isDerivedFrom_iff_derives {child ancestor : String}
    (few : hierarchy.FewAncestors (.of child)) :
    hierarchy.isDerivedFrom child ancestor = true ↔
      hierarchy.Derives (.of child) (.of ancestor) := by
  refine ⟨derives_of_isDerivedFrom, fun derives => ?_⟩
  have finite : {key | hierarchy.Derives (.of child) key}.Finite :=
    Set.finite_of_encard_le_coe few
  have counted : finite.toFinset.card ≤ walkLimit := by
    have bound : {key | hierarchy.Derives (.of child) key}.encard ≤ walkLimit := few
    rw [finite.encard_eq_coe_toFinset_card] at bound
    exact_mod_cast bound
  have complete : ∀ key, key ∈ finite.toFinset ↔ hierarchy.Derives (.of child) key :=
    fun key => finite.mem_toFinset
  exact walk_of_derives complete derives walkLimit (.start ..) counted

theorem isSameOrDerived_iff_reaches {child ancestor : String}
    (few : hierarchy.FewAncestors (.of child)) :
    hierarchy.isSameOrDerived child ancestor = true ↔
      hierarchy.Reaches (.of child) (.of ancestor) := by
  rw [isSameOrDerived, Bool.or_eq_true, sameClass_iff, isDerivedFrom_iff_derives few, Reaches,
    Relation.reflTransGen_iff_eq_or_transGen, eq_comm, Derives]

theorem isSameOrDerived_trans {first second third : String}
    (few : hierarchy.FewAncestors (.of first))
    (lower : hierarchy.isSameOrDerived first second = true)
    (upper : hierarchy.isSameOrDerived second third = true) :
    hierarchy.isSameOrDerived first third = true :=
  (isSameOrDerived_iff_reaches few).mpr
    ((reaches_of_isSameOrDerived lower).trans (reaches_of_isSameOrDerived upper))

end AssociationCheck.Hierarchy
