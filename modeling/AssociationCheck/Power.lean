/-
Powers of two and of ten: the former bound the numbers of a fixed width, the latter place the
digits of a decimal.
-/

namespace AssociationCheck

def twoTo (exponent : Nat) : Nat := Nat.pow 2 exponent

def tenTo (exponent : Nat) : Nat := Nat.pow 10 exponent

end AssociationCheck
