/-
Names of classes and interfaces.

A name may be written with leading separators, which say that it is complete, and in any case of
the ASCII letters. Two spellings name the same class when their keys are equal.
-/

namespace AssociationCheck

def dropSeparators (chars : List Char) : List Char := chars.dropWhile (fun c => c == '\\')

def withoutLeadingSeparators (name : String) : String :=
  String.ofList (dropSeparators name.toList)

/-- What all spellings of one class name have in common: its characters without leading
separators, the capital letters of ASCII made small. -/
abbrev ClassKey := List Char

def ClassKey.of (name : String) : ClassKey :=
  (dropSeparators name.toList).map Char.toLower

def sameClass (first second : String) : Bool :=
  ClassKey.of first == ClassKey.of second

/-- A class name in one spelling together with its key. -/
structure ClassName where
  spelling : String
  key : ClassKey := ClassKey.of spelling
  key_eq : key = ClassKey.of spelling := by rfl
  deriving DecidableEq, Repr

def ClassName.of (name : String) : ClassName :=
  { spelling := withoutLeadingSeparators name }

theorem dropSeparators_idem (chars : List Char) :
    dropSeparators (dropSeparators chars) = dropSeparators chars := by
  induction chars with
  | nil => rfl
  | cons head tail ih =>
      by_cases separator : (head == '\\') = true
      · simpa [dropSeparators, List.dropWhile_cons, separator] using ih
      · simp [dropSeparators, separator]

theorem withoutLeadingSeparators_idem (name : String) :
    withoutLeadingSeparators (withoutLeadingSeparators name) = withoutLeadingSeparators name := by
  simp [withoutLeadingSeparators, dropSeparators_idem]

@[simp] theorem ClassKey.of_withoutLeadingSeparators (name : String) :
    ClassKey.of (withoutLeadingSeparators name) = ClassKey.of name := by
  simp [ClassKey.of, withoutLeadingSeparators, dropSeparators_idem]

@[simp] theorem ClassName.key_of (name : String) : (ClassName.of name).key = ClassKey.of name := by
  simp [ClassName.of]

theorem sameClass_iff (first second : String) :
    sameClass first second = true ↔ ClassKey.of first = ClassKey.of second := by
  simp [sameClass]

end AssociationCheck
