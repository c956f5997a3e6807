/-
Texts of bytes.

Where any bytes may stand in a text, the text has one character for each byte, whose code point is
the value of the byte. Such a text is compared, cut and searched byte by byte, and becomes a text
of characters only at the end.
-/

import AssociationCheck.Text.Utf8

namespace AssociationCheck.Text

def octets (bytes : List UInt8) : String :=
  String.ofList (bytes.map (fun byte => Char.ofNat byte.toNat))

def bytesOfOctets (text : String) : List UInt8 :=
  text.toList.map (fun c => UInt8.ofNat c.toNat)

def octetsOf (text : String) : String := octets (bytesOf text)

def textOfOctets (text : String) : String := lenientText (bytesOfOctets text)

end AssociationCheck.Text
