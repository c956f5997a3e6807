/-
Reading what was written.

A string is read from its characters one after the other, and each of them from what is written
for it. A value in which no number stands is read from its text whatever follows, as the draft of
the value: by induction on the value, and on the items or members between its brackets. The steps
of reading are bounded, and twice the length of the text is always enough of them.
-/

import Mathlib.Data.List.Basic
import AssociationCheck.Json.Draft

namespace AssociationCheck.Json

open Draft

/-! ### Strings -/

theorem toList_writtenString (text : String) :
    (writtenString text).toList =
      '"' :: text.toList.flatMap (fun c => (writtenChar c).toList) ++ ['"'] := by
  have folded (chars : List Char) (start : String) :
      (chars.foldl (fun written c => written ++ writtenChar c) start).toList =
        start.toList ++ chars.flatMap (fun c => (writtenChar c).toList) := by
    induction chars generalizing start with
    | nil => rw [List.foldl_nil, List.flatMap_nil, List.append_nil]
    | cons c others ih =>
        rw [List.foldl_cons, ih, String.toList_append, List.flatMap_cons, List.append_assoc]
  rw [writtenString, String.foldl_eq_foldl_toList, String.toList_append, String.toList_append,
    folded]
  rfl

section Units

variable {rest : List Char}

/-- What is read once a unit stands before it. -/
def withUnit (unit : Unit16) (read : List Unit16 × List Char) : List Unit16 × List Char :=
  (unit :: read.1, read.2)

theorem readUnits_hex {a b c d : Char} {unit : Unit16} (stands : unitOfHex? a b c d = some unit) :
    readUnits ('\\' :: 'u' :: a :: b :: c :: d :: rest) =
      (readUnits rest).map (withUnit unit) := by
  rw [readUnits, stands]
  cases readUnits rest <;> rfl

theorem readUnits_letter {letter c : Char} (apart : letter ≠ 'u')
    (stands : escaped? letter = some c) :
    readUnits ('\\' :: letter :: rest) = (readUnits rest).map (withUnit (.char c)) := by
  rw [readUnits, stands]
  · cases readUnits rest <;> rfl
  · intro a b c d more isHex
    exact absurd isHex apart

theorem readUnits_plain {c : Char} (notQuote : c ≠ '"') (notBackslash : c ≠ '\\')
    (visible : ¬ c.toNat < 32) :
    readUnits (c :: rest) = (readUnits rest).map (withUnit (.char c)) := by
  have taken : (decide (c.toNat < 32) || decide (c = '\\')) = false := by
    simp [visible, notBackslash]
  rw [readUnits]
  · simp only [taken]
    cases readUnits rest <;> rfl
  all_goals simp [notQuote, notBackslash]

def highDigit (code : Nat) : Char := if code < 16 then '0' else '1'

def lowDigit (code : Nat) : Char := (Nat.toDigits 16 (code % 16)).headD '0'

theorem written_low : ∀ code < 16, ("\\u000" ++ Text.hexadecimal code).toList =
    ['\\', 'u', '0', '0', highDigit code, lowDigit code] := by decide +kernel

theorem written_high : ∀ code < 32, ¬ code < 16 → ("\\u00" ++ Text.hexadecimal code).toList =
    ['\\', 'u', '0', '0', highDigit code, lowDigit code] := by decide +kernel

theorem unitOfHex?_control : ∀ code < 32,
    unitOfHex? '0' '0' (highDigit code) (lowDigit code) = some (.char (Char.ofNat code)) := by
  decide +kernel

/-- A character is written by a letter behind a backslash, by its code, or by itself. -/
inductive WrittenAs (c : Char) : List Char → Prop
  | letter {letter : Char} (apart : letter ≠ 'u') (stands : escaped? letter = some c) :
      WrittenAs c ['\\', letter]
  | code (control : c.toNat < 32) :
      WrittenAs c ['\\', 'u', '0', '0', highDigit c.toNat, lowDigit c.toNat]
  | plain (notQuote : c ≠ '"') (notBackslash : c ≠ '\\') (visible : ¬ c.toNat < 32) :
      WrittenAs c [c]

theorem writtenChar_cases (c : Char) : WrittenAs c (writtenChar c).toList := by
  unfold writtenChar
  split
  · rename_i same
    exact .letter (by decide) (same ▸ rfl)
  split
  · rename_i same
    exact .letter (by decide) (same ▸ rfl)
  split
  · rename_i same
    exact .letter (by decide) (same ▸ rfl)
  split
  · rename_i same
    exact .letter (by decide) (same ▸ rfl)
  split
  · rename_i same
    exact .letter (by decide) (same ▸ rfl)
  split
  · rename_i code
    have stands : escaped? 'b' = some c := by rw [← Char.ofNat_toNat c, code]; rfl
    exact .letter (by decide) stands
  split
  · rename_i code
    have stands : escaped? 'f' = some c := by rw [← Char.ofNat_toNat c, code]; rfl
    exact .letter (by decide) stands
  split
  · rename_i low
    rw [written_low c.toNat low]
    exact .code (by omega)
  split
  · rename_i notLow low
    rw [written_high c.toNat low notLow]
    exact .code low
  · rename_i notQuote notBackslash _ _ _ _ _ _ visible
    rw [Char.toString, String.toList_singleton]
    exact .plain notQuote notBackslash visible

theorem readUnits_writtenChar (c : Char) :
    readUnits ((writtenChar c).toList ++ rest) = (readUnits rest).map (withUnit (.char c)) := by
  have written := writtenChar_cases c
  generalize (writtenChar c).toList = chars at written ⊢
  cases written with
  | letter apart stands => exact readUnits_letter apart stands
  | code control =>
      have stands := unitOfHex?_control c.toNat control
      rw [Char.ofNat_toNat] at stands
      exact readUnits_hex stands
  | plain notQuote notBackslash visible => exact readUnits_plain notQuote notBackslash visible

theorem readUnits_written (chars : List Char) :
    readUnits (chars.flatMap (fun c => (writtenChar c).toList) ++ '"' :: rest) =
      some (chars.map .char, rest) := by
  induction chars with
  | nil => rfl
  | cons c others ih =>
      rw [List.flatMap_cons, List.append_assoc, readUnits_writtenChar, ih]
      rfl

theorem joinUnits_chars (chars : List Char) : joinUnits (chars.map .char) = some chars := by
  induction chars with
  | nil => rfl
  | cons c others ih =>
      rw [List.map_cons, joinUnits, ih]
      rfl

theorem readString?_written (text : String) :
    readString? (text.toList.flatMap (fun c => (writtenChar c).toList) ++ '"' :: rest) =
      some (some text, rest) := by
  rw [readString?, readUnits_written, Option.map_some]
  dsimp only
  rw [joinUnits_chars, Option.map_some, String.ofList_toList]

end Units

/-! ### Values -/

inductive Numberless : Json → Prop
  | null : Numberless .null
  | bool (value : Bool) : Numberless (.bool value)
  | string (text : String) : Numberless (.string text)
  | array {items : List Json} (each : ∀ item ∈ items, Numberless item) :
      Numberless (.array items)
  | object {members : List (String × Json)} (each : ∀ member ∈ members, Numberless member.2) :
      Numberless (.object members)

def joined (texts : List String) : List Char := [','].intercalate (texts.map String.toList)

theorem joined_single (text : String) : joined [text] = text.toList := List.intercalate_singleton

theorem joined_cons_cons (text other : String) (texts : List String) :
    joined (text :: other :: texts) = text.toList ++ ',' :: joined (other :: texts) := by
  rw [joined, List.map_cons, List.map_cons, List.intercalate_cons_cons, List.append_assoc]
  rfl

def memberText (member : String × Json) : String :=
  writtenString member.1 ++ ":" ++ compact member.2

theorem compactItems_eq (items : List Json) : compactItems items = items.map compact := by
  induction items with
  | nil => rfl
  | cons item others ih => rw [compactItems, ih, List.map_cons]

theorem compactMembers_eq (members : List (String × Json)) :
    compactMembers members = members.map memberText := by
  induction members with
  | nil => rfl
  | cons member others ih =>
      obtain ⟨key, value⟩ := member
      rw [compactMembers, ih, List.map_cons]
      rfl

theorem toList_array (items : List Json) :
    (compact (.array items)).toList = '[' :: joined (items.map compact) ++ [']'] := by
  rw [compact, String.toList_append, String.toList_append, String.toList_intercalate,
    compactItems_eq]
  rfl

theorem toList_object (members : List (String × Json)) :
    (compact (.object members)).toList = '\x7b' :: joined (members.map memberText) ++ ['\x7d'] := by
  rw [compact, String.toList_append, String.toList_append, String.toList_intercalate,
    compactMembers_eq]
  rfl

theorem ofItems_eq (items : List Json) : ofItems items = items.map ofJson := by
  induction items with
  | nil => rfl
  | cons item others ih => rw [ofItems, ih, List.map_cons]

theorem ofMembers_eq (members : List (String × Json)) :
    ofMembers members = members.map (fun member => (some member.1, ofJson member.2)) := by
  induction members with
  | nil => rfl
  | cons member others ih =>
      obtain ⟨key, value⟩ := member
      rw [ofMembers, ih, List.map_cons]

/-- A text that starts neither with a blank nor with a closing bracket. -/
inductive Opens : List Char → Prop
  | intro {head : Char} {tail : List Char} (visible : isSpace head = false) (notItems : head ≠ ']')
      (notMembers : head ≠ '\x7d') : Opens (head :: tail)

theorem Opens.append {chars : List Char} (opens : Opens chars) (rest : List Char) :
    Opens (chars ++ rest) := by
  cases opens with
  | intro visible notItems notMembers => exact .intro visible notItems notMembers

theorem Opens.skipSpaces {chars : List Char} (opens : Opens chars) : skipSpaces chars = chars := by
  cases opens with
  | intro visible => exact List.dropWhile_cons_of_neg (by simp [visible])

theorem Numberless.opens {value : Json} (numberless : Numberless value) :
    Opens value.compact.toList := by
  cases numberless with
  | null => exact .intro rfl (by decide) (by decide)
  | bool value => cases value <;> exact .intro rfl (by decide) (by decide)
  | string text =>
      rw [compact, toList_writtenString]
      exact .intro rfl (by decide) (by decide)
  | array =>
      rw [toList_array]
      exact .intro rfl (by decide) (by decide)
  | object =>
      rw [toList_object]
      exact .intro rfl (by decide) (by decide)

/-- A value is read from its text, whatever follows, if there are enough steps. -/
def Reads (value : Json) : Prop :=
  ∀ fuel rest, 2 * value.compact.toList.length ≤ fuel →
    readValue fuel (value.compact.toList ++ rest) = (ofJson value, some rest)

theorem opens_joined {text : String} (opens : Opens text.toList) (texts : List String) :
    Opens (joined (text :: texts)) := by
  cases texts with
  | nil => rwa [joined_single]
  | cons other texts =>
      rw [joined_cons_cons]
      exact opens.append _

theorem memberText_append (member : String × Json) (chars : List Char) :
    (memberText member).toList ++ chars =
      '"' :: (member.1.toList.flatMap (fun c => (writtenChar c).toList) ++
        '"' :: ':' :: (member.2.compact.toList ++ chars)) := by
  rw [memberText, String.toList_append, String.toList_append, toList_writtenString]
  simp only [List.append_assoc, List.cons_append]
  rfl

theorem opens_memberText (member : String × Json) : Opens (memberText member).toList := by
  have text := memberText_append member []
  rw [List.append_nil] at text
  rw [text]
  exact .intro rfl (by decide) (by decide)

theorem length_memberText (member : String × Json) :
    member.2.compact.toList.length ≤ (memberText member).toList.length := by
  rw [memberText, String.toList_append, List.length_append]
  omega

section Values

variable {fuel : Nat} {rest next : List Char} {item : Draft} {chars : List Char}

theorem readItems_last (read : readValue fuel chars = (item, some (']' :: rest))) :
    readItems (fuel + 1) chars = ([item], some rest) := by
  rw [readItems, read]
  rfl

theorem readItems_more (read : readValue fuel chars = (item, some (',' :: next)))
    (opens : Opens next) :
    readItems (fuel + 1) chars =
      (item :: (readItems fuel next).1, (readItems fuel next).2) := by
  have comma : skipSpaces (',' :: next) = ',' :: next := rfl
  simp only [readItems, read, comma, opens.skipSpaces]
  cases opens with
  | intro visible notItems =>
      split
      · rename_i isClosing
        cases isClosing
        exact absurd rfl notItems
      · rename_i isEmpty
        cases isEmpty
      · rfl

theorem readMembers_last {key : String} {value : Draft}
    (read : readValue fuel chars = (value, some ('\x7d' :: rest))) :
    readMembers (fuel + 1)
        ('"' :: (key.toList.flatMap (fun c => (writtenChar c).toList) ++ '"' :: ':' :: chars)) =
      ([(some key, value)], some rest) := by
  have colon : skipSpaces (':' :: chars) = ':' :: chars := rfl
  have closing : skipSpaces ('\x7d' :: rest) = '\x7d' :: rest := rfl
  simp only [readMembers, readString?_written, colon, read, closing]

theorem readMembers_more {key : String} {value : Draft}
    (read : readValue fuel chars = (value, some (',' :: next))) (opens : Opens next) :
    readMembers (fuel + 1)
        ('"' :: (key.toList.flatMap (fun c => (writtenChar c).toList) ++ '"' :: ':' :: chars)) =
      ((some key, value) :: (readMembers fuel next).1, (readMembers fuel next).2) := by
  have colon : skipSpaces (':' :: chars) = ':' :: chars := rfl
  have comma : skipSpaces (',' :: next) = ',' :: next := rfl
  simp only [readMembers, readString?_written, colon, read, comma, opens.skipSpaces]

/-- Items are read up to the bracket behind them, if each of them can be read. -/
theorem readItems_written {item : Json} {others : List Json}
    (reads : ∀ each ∈ item :: others, Reads each)
    (opens : ∀ each ∈ item :: others, Opens each.compact.toList)
    (enough : 2 * (joined ((item :: others).map compact)).length + 1 ≤ fuel) :
    readItems fuel (joined ((item :: others).map compact) ++ ']' :: rest) =
      ((item :: others).map ofJson, some rest) := by
  have first := reads item List.mem_cons_self
  induction others generalizing item fuel with
  | nil =>
      obtain ⟨less, rfl⟩ := Nat.exists_eq_add_one_of_ne_zero (by omega : fuel ≠ 0)
      rw [List.map_singleton, joined_single] at enough ⊢
      exact readItems_last (first less _ (by omega))
  | cons other others ih =>
      obtain ⟨less, rfl⟩ := Nat.exists_eq_add_one_of_ne_zero (by omega : fuel ≠ 0)
      have readsOthers := (List.forall_mem_cons.mp reads).2
      have opensOthers := (List.forall_mem_cons.mp opens).2
      have next : Opens (joined ((other :: others).map compact) ++ ']' :: rest) :=
        (opens_joined (opensOthers other List.mem_cons_self) _).append _
      rw [List.map_cons, List.map_cons, joined_cons_cons, ← List.map_cons] at enough ⊢
      rw [List.length_append, List.length_cons] at enough
      -- The comma makes up for the step that reads the item before it.
      rw [List.append_assoc, List.cons_append, readItems_more (first _ _ (by omega)) next,
        ih readsOthers opensOthers (by omega) (readsOthers other List.mem_cons_self)]
      rfl

theorem readMembers_written {member : String × Json} {others : List (String × Json)}
    (reads : ∀ each ∈ member :: others, Reads each.2)
    (enough : 2 * (joined ((member :: others).map memberText)).length + 1 ≤ fuel) :
    readMembers fuel (joined ((member :: others).map memberText) ++ '\x7d' :: rest) =
      ((member :: others).map (fun each => (some each.1, ofJson each.2)), some rest) := by
  have first := reads member List.mem_cons_self
  have shorter := length_memberText member
  induction others generalizing member fuel with
  | nil =>
      obtain ⟨less, rfl⟩ := Nat.exists_eq_add_one_of_ne_zero (by omega : fuel ≠ 0)
      rw [List.map_singleton, joined_single] at enough ⊢
      rw [memberText_append]
      exact readMembers_last (first less _ (by omega))
  | cons other others ih =>
      obtain ⟨less, rfl⟩ := Nat.exists_eq_add_one_of_ne_zero (by omega : fuel ≠ 0)
      have readsOthers := (List.forall_mem_cons.mp reads).2
      have next : Opens (joined ((other :: others).map memberText) ++ '\x7d' :: rest) :=
        (opens_joined (opens_memberText other) _).append _
      rw [List.map_cons, List.map_cons, joined_cons_cons, ← List.map_cons] at enough ⊢
      rw [List.length_append, List.length_cons] at enough
      rw [List.append_assoc, List.cons_append, memberText_append,
        readMembers_more (first _ _ (by omega)) next,
        ih readsOthers (by omega) (readsOthers other List.mem_cons_self) (length_memberText other)]
      rfl

theorem readWord_written (word : String) (value : Draft) :
    readWord word value (word.toList ++ rest) = (value, some rest) := by
  have passed (expected : List Char) : after? expected (expected ++ rest) = some rest := by
    induction expected with
    | nil => rfl
    | cons c others ih =>
        rw [List.cons_append, after?, if_pos rfl, ih]
  rw [readWord, passed]

theorem readValue_string (text : String) :
    readValue (fuel + 1) ((writtenString text).toList ++ rest) =
      (.string (some text), some rest) := by
  rw [toList_writtenString, List.append_assoc]
  change ofRead? .string (readString? (text.toList.flatMap (fun c => (writtenChar c).toList) ++
    '"' :: rest)) = _
  rw [readString?_written]
  rfl

theorem readValue_items (opens : Opens chars) :
    readValue (fuel + 1) ('[' :: chars) =
      (.array (readItems fuel chars).1 (readItems fuel chars).2.isSome,
        (readItems fuel chars).2) := by
  have opening : skipSpaces ('[' :: chars) = '[' :: chars := rfl
  simp only [readValue, opening, opens.skipSpaces]
  cases opens with
  | intro visible notItems =>
      split
      · rename_i isClosing
        cases isClosing
        exact absurd rfl notItems
      · rfl

theorem readValue_members (opens : Opens chars) :
    readValue (fuel + 1) ('\x7b' :: chars) =
      (.object (readMembers fuel chars).1 (readMembers fuel chars).2.isSome,
        (readMembers fuel chars).2) := by
  have opening : skipSpaces ('\x7b' :: chars) = '\x7b' :: chars := rfl
  simp only [readValue, opening, opens.skipSpaces]
  cases opens with
  | intro visible notItems notMembers =>
      split
      · rename_i isClosing
        cases isClosing
        exact absurd rfl notMembers
      · rfl

end Values

/-- The text of a value is not empty, so there is a first step. -/
theorem Reads.of_step {value : Json} (opens : Opens value.compact.toList)
    (step : ∀ fuel rest, 2 * value.compact.toList.length ≤ fuel + 1 →
      readValue (fuel + 1) (value.compact.toList ++ rest) = (ofJson value, some rest)) :
    Reads value := by
  intro fuel rest enough
  cases fuel with
  | zero =>
      cases text : value.compact.toList with
      | nil =>
          rw [text] at opens
          cases opens
      | cons head tail =>
          rw [text, List.length_cons] at enough
          omega
  | succ fuel => exact step fuel rest enough

theorem Reads.array {items : List Json} (numberless : ∀ item ∈ items, Numberless item)
    (reads : ∀ item ∈ items, Reads item) : Reads (.array items) := by
  refine .of_step (Numberless.array numberless).opens (fun fuel rest enough => ?_)
  rw [toList_array] at enough ⊢
  rw [ofJson, ofItems_eq]
  cases items with
  | nil => rfl
  | cons item others =>
      have opens := fun each inside => (numberless each inside).opens
      have first : Opens (joined ((item :: others).map compact) ++ ']' :: rest) :=
        (opens_joined (opens item List.mem_cons_self) _).append _
      rw [List.length_append, List.length_cons, List.length_singleton] at enough
      rw [List.append_assoc, List.cons_append, List.singleton_append, readValue_items first,
        readItems_written reads opens (by omega)]
      rfl

theorem Reads.object {members : List (String × Json)}
    (numberless : ∀ member ∈ members, Numberless member.2)
    (reads : ∀ member ∈ members, Reads member.2) : Reads (.object members) := by
  refine .of_step (Numberless.object numberless).opens (fun fuel rest enough => ?_)
  rw [toList_object] at enough ⊢
  rw [ofJson, ofMembers_eq]
  cases members with
  | nil => rfl
  | cons member others =>
      have first : Opens (joined ((member :: others).map memberText) ++ '\x7d' :: rest) :=
        (opens_joined (opens_memberText member) _).append _
      rw [List.length_append, List.length_cons, List.length_singleton] at enough
      rw [List.append_assoc, List.cons_append, List.singleton_append, readValue_members first,
        readMembers_written reads (by omega)]
      rfl

/-- A value without numbers is read from its text. -/
theorem Numberless.reads {value : Json} (numberless : Numberless value) : Reads value := by
  induction numberless with
  | null =>
      exact .of_step Numberless.null.opens (fun _ _ _ => readWord_written "null" .null)
  | bool value =>
      refine .of_step (Numberless.bool value).opens (fun fuel rest _ => ?_)
      cases value with
      | true => exact readWord_written "true" (.bool true)
      | false => exact readWord_written "false" (.bool false)
  | string text =>
      exact .of_step (Numberless.string text).opens (fun _ _ _ => readValue_string text)
  | array each ih => exact .array each ih
  | object each ih => exact .object each ih

/-- The text of a value without numbers is its draft and nothing else. -/
theorem ofText_compact {value : Json} (numberless : Numberless value) :
    Draft.ofText value.compact = (ofJson value, false) := by
  have read := numberless.reads (2 * value.compact.toList.length + 2) [] (by omega)
  rw [List.append_nil] at read
  rw [Draft.ofText, read]
  rfl

end AssociationCheck.Json
