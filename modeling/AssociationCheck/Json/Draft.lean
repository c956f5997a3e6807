/-
JSON texts read as far as they can be.

A text is read into a draft: a value in which anything that cannot be read is marked as broken,
and in which an array or object may end before its closing bracket. So whoever goes through a
draft from left to right meets the first fault of the text where it stands, between the values
before it and nothing after it. A string whose escapes name half of a surrogate pair can be passed
over but has no text.
-/

import AssociationCheck.Json.Value

namespace AssociationCheck.Json

inductive Draft
  | null
  | bool (value : Bool)
  | number (written : Number)
  /-- A string, without a text if a surrogate in it has no partner. -/
  | string (text : Option String)
  | array (items : List Draft) (closed : Bool)
  | object (members : List (Option String × Draft)) (closed : Bool)
  | broken
  deriving Repr

namespace Draft

/-! ### Characters -/

def isSpace (c : Char) : Bool := c == ' ' || c == '\n' || c == '\t' || c == '\r'

def skipSpaces (chars : List Char) : List Char := chars.dropWhile isSpace

def after? : List Char → List Char → Option (List Char)
  | [], rest => some rest
  | expected :: more, c :: rest => if expected = c then after? more rest else none
  | _ :: _, [] => none

def digit? (c : Char) : Option Nat := if c.isDigit then some (c.toNat - '0'.toNat) else none

def hexDigit? (c : Char) : Option Nat :=
  if c.isDigit then some (c.toNat - '0'.toNat)
  else if 'a' ≤ c && c ≤ 'f' then some (c.toNat - 'a'.toNat + 10)
  else if 'A' ≤ c && c ≤ 'F' then some (c.toNat - 'A'.toNat + 10)
  else none

/-! ### Strings -/

/-- What one step of a string yields: a character or half of a surrogate pair. -/
inductive Unit16
  | char (c : Char)
  | surrogate (code : Nat)
  deriving DecidableEq, Repr

def unitOfHex? (a b c d : Char) : Option Unit16 := do
  let first ← hexDigit? a
  let second ← hexDigit? b
  let third ← hexDigit? c
  let fourth ← hexDigit? d
  let code := ((first * 16 + second) * 16 + third) * 16 + fourth
  if 0xD800 ≤ code && code ≤ 0xDFFF then some (.surrogate code) else some (.char (Char.ofNat code))

def escaped? : Char → Option Char
  | '"' => some '"'
  | '\\' => some '\\'
  | '/' => some '/'
  | 'b' => some (Char.ofNat 8)
  | 'f' => some (Char.ofNat 12)
  | 'n' => some '\n'
  | 'r' => some '\r'
  | 't' => some '\t'
  | _ => none

def readUnits : List Char → Option (List Unit16 × List Char)
  | [] => none
  | '"' :: rest => some ([], rest)
  | '\\' :: 'u' :: a :: b :: c :: d :: rest => do
      let unit ← unitOfHex? a b c d
      let (units, after) ← readUnits rest
      some (unit :: units, after)
  | '\\' :: c :: rest => do
      let char ← escaped? c
      let (units, after) ← readUnits rest
      some (.char char :: units, after)
  | c :: rest => do
      if c.toNat < 32 || c = '\\' then none
      let (units, after) ← readUnits rest
      some (.char c :: units, after)

/-- Joins the halves of surrogate pairs; a half without its partner leaves no text. -/
def joinUnits : List Unit16 → Option (List Char)
  | [] => some []
  | .char c :: rest => (joinUnits rest).map (c :: ·)
  | .surrogate high :: .surrogate low :: rest =>
      if high < 0xDC00 && 0xDC00 ≤ low then
        (joinUnits rest).map
          (Char.ofNat (0x10000 + (high - 0xD800) * 0x400 + (low - 0xDC00)) :: ·)
      else none
  | .surrogate _ :: _ => none

def readString? (chars : List Char) : Option (Option String × List Char) :=
  (readUnits chars).map (fun (units, rest) => ((joinUnits units).map String.ofList, rest))

/-! ### Numbers -/

def readDigits : List Char → List Nat × List Char
  | [] => ([], [])
  | c :: rest =>
      match digit? c with
      | some digit =>
          let (digits, after) := readDigits rest
          (digit :: digits, after)
      | none => ([], c :: rest)

def readFraction? : List Char → Option (Option (List Nat) × List Char)
  | '.' :: rest =>
      let (digits, after) := readDigits rest
      if digits.isEmpty then none else some (some digits, after)
  | chars => some (none, chars)

def readExponentDigits? (chars : List Char) : Option (Option Exponent × List Char) :=
  let (negative, rest) :=
    match chars with
    | '+' :: rest => (false, rest)
    | '-' :: rest => (true, rest)
    | rest => (false, rest)
  let (digits, after) := readDigits rest
  if digits.isEmpty then none else some (some ⟨negative, digits⟩, after)

def readExponent? : List Char → Option (Option Exponent × List Char)
  | 'e' :: rest => readExponentDigits? rest
  | 'E' :: rest => readExponentDigits? rest
  | chars => some (none, chars)

/-- A number; its first digit is zero only if it is the only one before the point. -/
def readNumber? (negative : Bool) (chars : List Char) : Option (Number × List Char) := do
  let (whole, rest) := readDigits chars
  if whole.isEmpty || (whole.head? == some 0 && whole.length > 1) then none
  let (fraction, rest) ← readFraction? rest
  let (exponent, rest) ← readExponent? rest
  some (⟨negative, whole, fraction, exponent⟩, rest)

/-! ### Values -/

/-- A value that was read, and what follows it; nothing follows a fault. -/
abbrev Read := Draft × Option (List Char)

def ofRead? {α : Type} (draft : α → Draft) : Option (α × List Char) → Read
  | some (value, rest) => (draft value, some rest)
  | none => (.broken, none)

def readWord (word : String) (value : Draft) (chars : List Char) : Read :=
  match after? word.toList chars with
  | some rest => (value, some rest)
  | none => (.broken, none)

mutual

def readValue : Nat → List Char → Read
  | 0, _ => (.broken, none)
  | fuel + 1, chars =>
      match skipSpaces chars with
      | [] => (.broken, none)
      | '"' :: rest => ofRead? .string (readString? rest)
      | '[' :: rest =>
          match skipSpaces rest with
          | ']' :: after => (.array [] true, some after)
          | first =>
              let (items, after) := readItems fuel first
              (.array items after.isSome, after)
      | '\x7b' :: rest =>
          match skipSpaces rest with
          | '\x7d' :: after => (.object [] true, some after)
          | first =>
              let (members, after) := readMembers fuel first
              (.object members after.isSome, after)
      | '-' :: rest => ofRead? .number (readNumber? true rest)
      | 'n' :: rest => readWord "null" .null ('n' :: rest)
      | 't' :: rest => readWord "true" (.bool true) ('t' :: rest)
      | 'f' :: rest => readWord "false" (.bool false) ('f' :: rest)
      | first => ofRead? .number (readNumber? false first)

def readItems : Nat → List Char → List Draft × Option (List Char)
  | 0, _ => ([.broken], none)
  | fuel + 1, chars =>
      match readValue fuel chars with
      | (item, none) => ([item], none)
      | (item, some rest) =>
          match skipSpaces rest with
          | ',' :: next =>
              match skipSpaces next with
              | ']' :: _ => ([item], none)
              | [] => ([item], none)
              | following =>
                  let (items, after) := readItems fuel following
                  (item :: items, after)
          | ']' :: after => ([item], some after)
          | _ => ([item], none)

def readMembers : Nat → List Char → List (Option String × Draft) × Option (List Char)
  | 0, _ => ([], none)
  | fuel + 1, chars =>
      match chars with
      | '"' :: afterQuote =>
          match readString? afterQuote with
          | none => ([], none)
          | some (key, rest) =>
              match skipSpaces rest with
              | ':' :: afterColon =>
                  match readValue fuel afterColon with
                  | (value, none) => ([(key, value)], none)
                  | (value, some rest) =>
                      match skipSpaces rest with
                      | ',' :: next =>
                          let (members, after) := readMembers fuel (skipSpaces next)
                          ((key, value) :: members, after)
                      | '\x7d' :: after => ([(key, value)], some after)
                      | _ => ([(key, value)], none)
              | _ => ([(key, .broken)], none)
      | _ => ([], none)

end

/-- The value a text starts with, and whether anything but blanks follows it. Each step of
reading takes a character, so there are enough steps. -/
def ofText (text : String) : Draft × Bool :=
  let chars := text.toList
  match readValue (2 * chars.length + 2) chars with
  | (draft, some rest) => (draft, !(skipSpaces rest).isEmpty)
  | (draft, none) => (draft, false)

/-! ### Drafts and values -/

mutual

/-- Without a fault anywhere; surrogates need not have partners. -/
def isComplete : Draft → Bool
  | .array items closed => itemsComplete items && closed
  | .object members closed => membersComplete members && closed
  | .broken => false
  | _ => true

def itemsComplete : List Draft → Bool
  | [] => true
  | item :: rest => isComplete item && itemsComplete rest

def membersComplete : List (Option String × Draft) → Bool
  | [] => true
  | (_, value) :: rest => isComplete value && membersComplete rest

end

mutual

def toJson? : Draft → Option Json
  | .null => some .null
  | .bool value => some (.bool value)
  | .number written =>
      match written.value with
      | .outOfRange => none
      | _ => some (.number written)
  | .string text => text.map .string
  | .array items closed => if closed then (toItems? items).map .array else none
  | .object members closed => if closed then (toMembers? members).map .object else none
  | .broken => none

def toItems? : List Draft → Option (List Json)
  | [] => some []
  | item :: rest => do
      let first ← toJson? item
      let others ← toItems? rest
      some (first :: others)

def toMembers? : List (Option String × Draft) → Option (List (String × Json))
  | [] => some []
  | (key, value) :: rest => do
      let text ← key
      let first ← toJson? value
      let others ← toMembers? rest
      some ((text, first) :: others)

end

mutual

def nesting : Draft → Nat
  | .array items _ => itemsNesting items + 1
  | .object members _ => membersNesting members + 1
  | _ => 0

def itemsNesting : List Draft → Nat
  | [] => 0
  | item :: rest => max (nesting item) (itemsNesting rest)

def membersNesting : List (Option String × Draft) → Nat
  | [] => 0
  | (_, value) :: rest => max (nesting value) (membersNesting rest)

end

mutual

def ofJson : Json → Draft
  | .null => .null
  | .bool value => .bool value
  | .number written => .number written
  | .string text => .string (some text)
  | .array items => .array (ofItems items) true
  | .object members => .object (ofMembers members) true

def ofItems : List Json → List Draft
  | [] => []
  | item :: rest => ofJson item :: ofItems rest

def ofMembers : List (String × Json) → List (Option String × Draft)
  | [] => []
  | (key, value) :: rest => (some key, ofJson value) :: ofMembers rest

end

end Draft

def ofText? (text : String) : Option Json :=
  match Draft.ofText text with
  | (draft, false) => draft.toJson?
  | (_, true) => none

end AssociationCheck.Json
