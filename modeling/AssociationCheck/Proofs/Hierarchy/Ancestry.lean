/-
Ancestors as reachability.

The declared parents are the edges of a graph, and an ancestor is what one or more edges lead to.
The walk of a hierarchy looks at a limited number of classes; what it finds is an ancestor in this
sense. Questions about a class do not depend on the spelling of its name.
-/

import AssociationCheck.Hierarchy
import Mathlib.Logic.Relation

namespace AssociationCheck.Hierarchy

variable (hierarchy : Hierarchy)

/-! ### Edges and paths -/

def Parent (child parent : ClassKey) : Prop :=
  ∃ name ∈ hierarchy.parents child, name.key = parent

/-- One or more steps to a parent lead from a class to an ancestor. -/
def Derives : ClassKey → ClassKey → Prop := Relation.TransGen hierarchy.Parent

/-- A class is the ancestor, or steps to a parent lead there. -/
def Reaches : ClassKey → ClassKey → Prop := Relation.ReflTransGen hierarchy.Parent

variable {hierarchy}

theorem Reaches.refl (key : ClassKey) : hierarchy.Reaches key key := Relation.ReflTransGen.refl

theorem Reaches.trans {first second third : ClassKey} (lower : hierarchy.Reaches first second)
    (upper : hierarchy.Reaches second third) : hierarchy.Reaches first third :=
  Relation.ReflTransGen.trans lower upper

theorem Derives.reaches {child ancestor : ClassKey} (derives : hierarchy.Derives child ancestor) :
    hierarchy.Reaches child ancestor :=
  Relation.TransGen.to_reflTransGen derives

/-! ### The walk -/

/-- A walk over ancestors of a class meets ancestors of that class only. -/
theorem derives_of_walk (child target : ClassKey) (steps : Nat)
    (visited : Std.TreeSet ClassKey) (ahead : List ClassName)
    (above : ∀ name ∈ ahead, hierarchy.Derives child name.key)
    (met : hierarchy.walk target steps visited ahead = true) : hierarchy.Derives child target := by
  induction steps generalizing visited ahead with
  | zero =>
      obtain ⟨name, present, same⟩ := List.any_eq_true.mp met
      rw [← eq_of_beq same]
      exact above name present
  | succ steps ih =>
      rw [walk] at met
      split at met
      · cases met
      · rename_i name rest remaining
        have kept : ∀ other ∈ name :: rest, hierarchy.Derives child other.key := by
          intro other present
          rw [← remaining] at present
          exact above other ((List.dropWhile_suffix _).subset present)
        by_cases same : name.key = target
        · rw [← same]
          exact kept name List.mem_cons_self
        · rw [if_neg same] at met
          apply ih _ _ _ met
          intro other present
          rcases List.mem_append.mp present with parent | later
          · exact Relation.TransGen.tail (kept name List.mem_cons_self)
              ⟨other, List.mem_reverse.mp parent, rfl⟩
          · exact kept other (List.mem_cons_of_mem name later)

theorem derives_of_isDerivedFrom {child ancestor : String}
    (derived : hierarchy.isDerivedFrom child ancestor = true) :
    hierarchy.Derives (.of child) (.of ancestor) := by
  apply derives_of_walk _ _ _ _ _ _ derived
  intro name present
  exact Relation.TransGen.single ⟨name, List.mem_reverse.mp present, rfl⟩

theorem reaches_of_isSameOrDerived {child ancestor : String}
    (related : hierarchy.isSameOrDerived child ancestor = true) :
    hierarchy.Reaches (.of child) (.of ancestor) := by
  rcases (Bool.or_eq_true _ _).mp related with same | derived
  · rw [(sameClass_iff child ancestor).mp same]
    exact Reaches.refl _
  · exact (derives_of_isDerivedFrom derived).reaches

/-! ### Spelling -/

theorem sameClass_refl (name : String) : sameClass name name = true := by
  simp [sameClass_iff]

@[simp] theorem isSameOrDerived_refl (name : String) :
    hierarchy.isSameOrDerived name name = true := by
  simp [isSameOrDerived, sameClass_refl]

theorem isSameOrDerived_of_sameClass {first second : String}
    (same : sameClass first second = true) : hierarchy.isSameOrDerived second first = true := by
  have mirrored : sameClass second first = true :=
    (sameClass_iff second first).mpr ((sameClass_iff first second).mp same).symm
  rw [isSameOrDerived, mirrored, Bool.true_or]

@[simp] theorem isSameOrDerived_withoutLeadingSeparators_left (child ancestor : String) :
    hierarchy.isSameOrDerived (withoutLeadingSeparators child) ancestor =
      hierarchy.isSameOrDerived child ancestor := by
  simp only [isSameOrDerived, sameClass, isDerivedFrom, ClassKey.of_withoutLeadingSeparators]

@[simp] theorem isSameOrDerived_withoutLeadingSeparators_right (child ancestor : String) :
    hierarchy.isSameOrDerived child (withoutLeadingSeparators ancestor) =
      hierarchy.isSameOrDerived child ancestor := by
  simp only [isSameOrDerived, sameClass, isDerivedFrom, ClassKey.of_withoutLeadingSeparators]

end AssociationCheck.Hierarchy
