/-
Text from bytes.

Bytes that are not a text are read leniently: the longest start of a character that is cut off,
or else a single byte, is replaced by the replacement character.
-/

namespace AssociationCheck.Text

def isContinuation (byte : UInt8) : Bool := 0x80 ≤ byte && byte ≤ 0xBF

def secondOfThree (first second : UInt8) : Bool :=
  if first = 0xE0 then 0xA0 ≤ second && second ≤ 0xBF
  else if first = 0xED then 0x80 ≤ second && second ≤ 0x9F
  else isContinuation second

def secondOfFour (first second : UInt8) : Bool :=
  if first = 0xF0 then 0x90 ≤ second && second ≤ 0xBF
  else if first = 0xF4 then 0x80 ≤ second && second ≤ 0x8F
  else isContinuation second

def continuationBits (byte : UInt8) : Nat := byte.toNat % 0x40

def replacement : Char := Char.ofNat 0xFFFD

def lenientChars : List UInt8 → List Char
  | [] => []
  | a :: rest =>
      if a < 0x80 then Char.ofNat a.toNat :: lenientChars rest
      else if 0xC2 ≤ a && a ≤ 0xDF then
        match rest with
        | b :: more =>
            if isContinuation b then
              Char.ofNat ((a.toNat - 0xC0) * 0x40 + continuationBits b) :: lenientChars more
            else replacement :: lenientChars (b :: more)
        | [] => [replacement]
      else if 0xE0 ≤ a && a ≤ 0xEF then
        match rest with
        | b :: c :: more =>
            if !secondOfThree a b then replacement :: lenientChars (b :: c :: more)
            else if !isContinuation c then replacement :: lenientChars (c :: more)
            else
              Char.ofNat (((a.toNat - 0xE0) * 0x40 + continuationBits b) * 0x40 +
                continuationBits c) :: lenientChars more
        | [b] =>
            if secondOfThree a b then [replacement] else replacement :: lenientChars [b]
        | [] => [replacement]
      else if 0xF0 ≤ a && a ≤ 0xF4 then
        match rest with
        | b :: c :: d :: more =>
            if !secondOfFour a b then replacement :: lenientChars (b :: c :: d :: more)
            else if !isContinuation c then replacement :: lenientChars (c :: d :: more)
            else if !isContinuation d then replacement :: lenientChars (d :: more)
            else
              Char.ofNat ((((a.toNat - 0xF0) * 0x40 + continuationBits b) * 0x40 +
                continuationBits c) * 0x40 + continuationBits d) :: lenientChars more
        | [b, c] =>
            if !secondOfFour a b then replacement :: lenientChars [b, c]
            else if !isContinuation c then replacement :: lenientChars [c]
            else [replacement]
        | [b] =>
            if secondOfFour a b then [replacement] else replacement :: lenientChars [b]
        | [] => [replacement]
      else replacement :: lenientChars rest
  termination_by bytes => bytes.length

def lenientText (bytes : List UInt8) : String := String.ofList (lenientChars bytes)

def bytesOf (text : String) : List UInt8 := text.toUTF8.toList

def textOf? (bytes : List UInt8) : Option String := String.fromUTF8? ⟨bytes.toArray⟩

end AssociationCheck.Text
