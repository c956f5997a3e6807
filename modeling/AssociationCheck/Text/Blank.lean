/-
Blanks.

A blank is a character with the white space property. Blanks separate the words of a type
expression and are trimmed from switches given as text.
-/

namespace AssociationCheck.Text

def isBlank (c : Char) : Bool :=
  let code := c.toNat
  (9 ≤ code && code ≤ 13) || code = 0x20 || code = 0x85 || code = 0xA0 || code = 0x1680 ||
    (0x2000 ≤ code && code ≤ 0x200A) || code = 0x2028 || code = 0x2029 || code = 0x202F ||
    code = 0x205F || code = 0x3000

def trimmedChars (chars : List Char) : List Char :=
  ((chars.dropWhile isBlank).reverse.dropWhile isBlank).reverse

def trimmed (text : String) : String :=
  String.ofList (trimmedChars text.toList)

end AssociationCheck.Text
