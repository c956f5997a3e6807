/-
Letters compared without regard to case.

Only the 26 letters of ASCII have two cases here; every other character stands for itself.
-/

namespace AssociationCheck.Text

/-- The text with the capital letters of ASCII made small. -/
def foldCase (text : String) : String :=
  String.ofList (text.toList.map Char.toLower)

end AssociationCheck.Text
