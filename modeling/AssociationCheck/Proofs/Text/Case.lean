/-
Texts compared without regard to case.

The alphabet lists each capital letter of ASCII with its small one. Two characters are the same
letter when they are equal or stand side by side in it, and two texts are the same word when their
characters are the same letters one by one. Folding the case of both texts decides that.
-/

import AssociationCheck.ClassName
import AssociationCheck.Text.Ascii
import Mathlib.Data.List.Forall2
import Mathlib.Data.List.TakeWhile

namespace AssociationCheck

namespace Text

def capitals : List Char := "ABCDEFGHIJKLMNOPQRSTUVWXYZ".toList

def smalls : List Char := "abcdefghijklmnopqrstuvwxyz".toList

def alphabet : List (Char × Char) := capitals.zip smalls

/-- Two characters differ at most in their case. -/
def SameLetter (first second : Char) : Prop :=
  first = second ∨ (first, second) ∈ alphabet ∨ (second, first) ∈ alphabet

instance : DecidableRel SameLetter := fun first second =>
  inferInstanceAs (Decidable (first = second ∨ _ ∨ _))

def SameWord (first second : String) : Prop :=
  List.Forall₂ SameLetter first.toList second.toList

instance : DecidableRel SameWord := fun first second =>
  inferInstanceAs (Decidable (List.Forall₂ SameLetter first.toList second.toList))

/-! ### Letters -/

theorem toLower_of_mem_alphabet {capital small : Char} (paired : (capital, small) ∈ alphabet) :
    capital.toLower = small ∧ small.toLower = small := by
  have all : ∀ pair ∈ alphabet, pair.1.toLower = pair.2 ∧ pair.2.toLower = pair.2 := by
    decide +kernel
  exact all _ paired

theorem mem_alphabet_of_toLower_ne {c : Char} (changed : c.toLower ≠ c) :
    (c, c.toLower) ∈ alphabet := by
  have all : ∀ code ∈ List.range' 65 26,
      (Char.ofNat code, (Char.ofNat code).toLower) ∈ alphabet := by decide +kernel
  have isCapital : c.toNat ∈ List.range' 65 26 := by
    by_contra outside
    refine changed ?_
    unfold Char.toLower
    rw [dif_neg]
    intro within
    refine outside (List.mem_range'_1.mpr ⟨?_, ?_⟩)
    · exact UInt32.le_iff_toNat_le.mp within.1
    · exact Nat.lt_succ_of_le (UInt32.le_iff_toNat_le.mp within.2)
  simpa using all c.toNat isCapital

theorem sameLetter_iff (first second : Char) :
    SameLetter first second ↔ first.toLower = second.toLower := by
  constructor
  · rintro (rfl | paired | paired)
    · rfl
    · obtain ⟨lower, fixed⟩ := toLower_of_mem_alphabet paired
      rw [lower, fixed]
    · obtain ⟨lower, fixed⟩ := toLower_of_mem_alphabet paired
      rw [lower, fixed]
  · intro same
    by_cases firstFixed : first.toLower = first
    · by_cases secondFixed : second.toLower = second
      · exact .inl (firstFixed.symm.trans (same.trans secondFixed))
      · refine .inr (.inr ?_)
        have paired := mem_alphabet_of_toLower_ne secondFixed
        rwa [← same, firstFixed] at paired
    · have paired := mem_alphabet_of_toLower_ne firstFixed
      by_cases secondFixed : second.toLower = second
      · rw [same, secondFixed] at paired
        exact .inr (.inl paired)
      · -- Two capital letters with the same small one.
        have once : ∀ pair ∈ alphabet, ∀ other ∈ alphabet, pair.2 = other.2 → pair = other := by
          decide +kernel
        have equal := once _ paired _ (mem_alphabet_of_toLower_ne secondFixed) same
        exact .inl (Prod.ext_iff.mp equal).1

theorem forall₂_sameLetter_iff (first second : List Char) :
    List.Forall₂ SameLetter first second ↔ first.map Char.toLower = second.map Char.toLower := by
  have folded : SameLetter = fun first second => first.toLower = second.toLower := by
    ext first second
    exact sameLetter_iff first second
  rw [← List.forall₂_eq_eq_eq, List.forall₂_map_left_iff, List.forall₂_map_right_iff, folded]

/-! ### Words -/

theorem sameWord_iff_foldCase (first second : String) :
    SameWord first second ↔ foldCase first = foldCase second := by
  rw [SameWord, forall₂_sameLetter_iff, foldCase, foldCase, String.ofList_inj]

end Text

/-! ### Class names -/

/-- The characters of a name that come after all of its leading separators. -/
def AfterSeparators (name : String) (bare : List Char) : Prop :=
  (∃ count, name.toList = List.replicate count '\\' ++ bare) ∧ bare.head? ≠ some '\\'

theorem afterSeparators_dropSeparators (name : String) :
    AfterSeparators name (dropSeparators name.toList) := by
  constructor
  · have onlySeparators (c : Char) (taken : c ∈ name.toList.takeWhile (· == '\\')) : c = '\\' := by
      have isSeparator := List.mem_takeWhile_imp (p := (· == '\\')) taken
      exact eq_of_beq isSeparator
    have marks := List.eq_replicate_of_mem onlySeparators
    refine ⟨(name.toList.takeWhile (· == '\\')).length, ?_⟩
    rw [← marks]
    exact List.takeWhile_append_dropWhile.symm
  · intro separator
    have stopped := List.head?_dropWhile_not (· == '\\') name.toList
    rw [← dropSeparators, separator] at stopped
    cases stopped

theorem AfterSeparators.eq_dropSeparators {name : String} {bare : List Char}
    (after : AfterSeparators name bare) : bare = dropSeparators name.toList := by
  obtain ⟨⟨count, written⟩, stops⟩ := after
  have ended : bare.dropWhile (· == '\\') = bare := by
    cases bare with
    | nil => rfl
    | cons c rest => exact List.dropWhile_cons_of_neg (by simpa using stops)
  rw [written, dropSeparators, List.dropWhile_append_of_pos, ended]
  intro c inside
  rw [List.eq_of_mem_replicate inside]
  rfl

/-- Two names differ at most in their leading separators and in the case of their letters. -/
def SameName (first second : String) : Prop :=
  ∃ bare otherBare, AfterSeparators first bare ∧ AfterSeparators second otherBare ∧
    List.Forall₂ Text.SameLetter bare otherBare

theorem sameClass_iff_sameName (first second : String) :
    sameClass first second = true ↔ SameName first second := by
  rw [sameClass_iff]
  constructor
  · intro same
    exact ⟨_, _, afterSeparators_dropSeparators first, afterSeparators_dropSeparators second,
      (Text.forall₂_sameLetter_iff _ _).mpr same⟩
  · rintro ⟨bare, otherBare, after, otherAfter, same⟩
    rw [after.eq_dropSeparators, otherAfter.eq_dropSeparators] at same
    exact (Text.forall₂_sameLetter_iff _ _).mp same

end AssociationCheck
