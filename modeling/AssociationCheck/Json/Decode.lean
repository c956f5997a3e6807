/-
Decoding JSON texts.

A text is decoded from left to right and the first fault wins, be it a fault of the text or a
value that does not fit. Records are decoded from objects, whose members may come in any order, or
from arrays of their fields in order. A record says which fields it needs and whether it refuses
fields that it does not know.
-/

import AssociationCheck.Dictionary
import AssociationCheck.Json.Draft
import AssociationCheck.Power

namespace AssociationCheck.Json

/-! ### Faults -/

inductive DataFault
  | missingField (name : String)
  | duplicateField (name : String)
  | unknownField (name : String) (known : List String)
  | unknownVariant (name : String) (known : List String)
  | invalidType (found expected : String)
  | invalidValue (found expected : String)
  | invalidLength (length : Nat) (expected : String)
  /-- A value that is none of the alternatives of a choice. -/
  | noAlternative (choice : String)
  /-- A switch that is neither on nor off. -/
  | invalidSwitch (text : String)
  deriving DecidableEq, Repr

inductive DecodeError
  | malformed
  | data (fault : DataFault)
  deriving DecidableEq, Repr

namespace DataFault

def listed (names : List String) : String :=
  String.intercalate ", " (names.map (fun name => "`" ++ name ++ "`"))

def message : DataFault → String
  | missingField name => "missing field `" ++ name ++ "`"
  | duplicateField name => "duplicate field `" ++ name ++ "`"
  | unknownField name known => "unknown field `" ++ name ++ "`, expected one of " ++ listed known
  | unknownVariant name known =>
      "unknown variant `" ++ name ++ "`, expected one of " ++ listed known
  | invalidType found expected => "invalid type: " ++ found ++ ", expected " ++ expected
  | invalidValue found expected => "invalid value: " ++ found ++ ", expected " ++ expected
  | invalidLength length expected =>
      "invalid length " ++ toString length ++ ", expected " ++ expected
  | noAlternative choice => "data did not match any variant of untagged enum " ++ choice
  | invalidSwitch text =>
      "invalid boolean value: '" ++ text ++ "'. Expected true, false, 'true', or 'false'"

end DataFault

abbrev Decoder (α : Type) := Draft → Except DecodeError α

namespace Decode

/-- What a draft is called in a message, unless it is broken at its start. -/
def description? : Draft → Option String
  | .null => some "null"
  | .bool value => some ("boolean `" ++ (if value then "true" else "false") ++ "`")
  | .number written =>
      match written.value with
      | .natural value => some ("integer `" ++ toString value ++ "`")
      | .negative magnitude => some ("integer `-" ++ toString magnitude ++ "`")
      | .floating value => some ("floating point `" ++ Number.floatText value ++ "`")
      | .outOfRange => none
  | .string text => text.map (fun text => "string " ++ Text.quoted text)
  | .array _ _ => some "sequence"
  | .object _ _ => some "map"
  | .broken => none

def mismatch {α : Type} (expected : String) (draft : Draft) : Except DecodeError α :=
  match description? draft with
  | some found => .error (.data (.invalidType found expected))
  | none => .error .malformed

/-! ### Simple values -/

def stringAs (expected : String) : Decoder String
  | .string (some text) => .ok text
  | draft => mismatch expected draft

def string : Decoder String := stringAs "a string"

def path : Decoder String := stringAs "path string"

def bool : Decoder Bool
  | .bool value => .ok value
  | draft => mismatch "a boolean" draft

def natural32 : Decoder Nat
  | .number written =>
      match written.value with
      | .natural value =>
          if value < twoTo 32 then .ok value
          else .error (.data (.invalidValue ("integer `" ++ toString value ++ "`") "u32"))
      | .negative magnitude =>
          .error (.data (.invalidValue ("integer `-" ++ toString magnitude ++ "`") "u32"))
      | _ => mismatch "u32" (.number written)
  | draft => mismatch "u32" draft

def optional {α : Type} (decode : Decoder α) : Decoder (Option α)
  | .null => .ok none
  | draft => (decode draft).map some

/-! ### Lists and maps -/

def items {α : Type} (decode : Decoder α) : List Draft → Except DecodeError (List α)
  | [] => .ok []
  | item :: rest => do
      let first ← decode item
      let others ← items decode rest
      pure (first :: others)

def list {α : Type} (decode : Decoder α) : Decoder (List α)
  | .array drafts closed => do
      let values ← items decode drafts
      if closed then pure values else .error .malformed
  | draft => mismatch "a sequence" draft

def members {α : Type} (decode : Decoder α) :
    Dictionary α → List (Option String × Draft) → Except DecodeError (Dictionary α)
  | entries, [] => .ok entries
  | _, (none, _) :: _ => .error .malformed
  | entries, (some key, draft) :: rest => do
      let value ← decode draft
      members decode (Dictionary.insert key value entries) rest

/-- A map in the order of its keys; a repeated key keeps its first place and takes its last
value. -/
def map {α : Type} (decode : Decoder α) : Decoder (Dictionary α)
  | .object drafts closed => do
      let entries ← members decode [] drafts
      if closed then pure entries else .error .malformed
  | draft => mismatch "a map" draft

/-! ### Variants -/

/-- One of several words; the word may also be the only key of an object, over null. -/
def variant {α : Type} (known : List (String × α)) : Decoder α
  | .string (some word) => find word
  | .object ((some word, draft) :: rest) closed => do
      let value ← find word
      match draft with
      | .null => if closed && rest.isEmpty then pure value else .error .malformed
      | draft => mismatch "unit" draft
  | _ => .error .malformed
where
  find (word : String) : Except DecodeError α :=
    match known.lookup word with
    | some value => .ok value
    | none => .error (.data (.unknownVariant word (known.map Prod.fst)))

/-! ### Records -/

/-- A field of a record of which a part `π` has been decoded. -/
structure Field (π : Type) where
  name : String
  required : Bool
  isSet : π → Bool
  read : Draft → π → Except DecodeError π

structure RecordForm (π : Type) where
  label : String
  fields : List (Field π)
  closed : Bool := false

namespace RecordForm

variable {π : Type}

/-- The value under a key. A key is looked at before its value. -/
def readMember (form : RecordForm π) (part : π) (key : String) (draft : Draft) :
    Except DecodeError π :=
  match form.fields.find? (fun field => field.name == key) with
  | some field =>
      if field.isSet part then .error (.data (.duplicateField key)) else field.read draft part
  | none =>
      if form.closed then
        .error (.data (.unknownField key (form.fields.map Field.name)))
      else if draft.isComplete then .ok part
      else .error .malformed

def readMembers (form : RecordForm π) (part : π) :
    List (Option String × Draft) → Except DecodeError π
  | [] => .ok part
  | (none, _) :: _ => .error .malformed
  | (some key, draft) :: rest => do
      let part ← form.readMember part key draft
      form.readMembers part rest

def missing? (form : RecordForm π) (part : π) : Option String :=
  (form.fields.find? (fun field => field.required && !field.isSet part)).map Field.name

def lengthLabel (form : RecordForm π) : String :=
  form.label ++ " with " ++ toString form.fields.length ++
    (if form.fields.length = 1 then " element" else " elements")

def readItems (form : RecordForm π) (arrayClosed : Bool) (part : π) (position : Nat) :
    List (Field π) → List Draft → Except DecodeError π
  | [], [] => if arrayClosed then .ok part else .error .malformed
  | [], _ :: _ => .error .malformed
  | field :: fields, [] =>
      if !arrayClosed then .error .malformed
      else if field.required then .error (.data (.invalidLength position form.lengthLabel))
      else form.readItems arrayClosed part (position + 1) fields []
  | field :: fields, draft :: rest => do
      let part ← field.read draft part
      form.readItems arrayClosed part (position + 1) fields rest

def decode (form : RecordForm π) (nothing : π) : Decoder π
  | .object drafts objectClosed => do
      let part ← form.readMembers nothing drafts
      if !objectClosed then .error .malformed
      match form.missing? part with
      | some name => .error (.data (.missingField name))
      | none => pure part
  | .array drafts arrayClosed => form.readItems arrayClosed nothing 0 form.fields drafts
  | draft => mismatch form.label draft

end RecordForm

def field {π α : Type} (name : String) (required : Bool) (decode : Decoder α)
    (get : π → Option α) (set : α → π → π) : Field π where
  name := name
  required := required
  isSet part := (get part).isSome
  read draft part := (decode draft).map (fun value => set value part)

/-! ### Texts -/

def text {α : Type} (decode : Decoder α) (input : String) : Except DecodeError α := do
  let (draft, more) := Draft.ofText input
  let value ← decode draft
  if more then .error .malformed else pure value

end Decode

end AssociationCheck.Json
