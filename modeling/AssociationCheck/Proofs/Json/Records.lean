/-
Records read back from what they are written as.

A decoder restores a value from a form of it in which no number stands, be it read as a value or as
a text. Lists, maps and records are restored if their parts are. A record is filled field by field
in the order of its members, and no field twice, so each member finds its field by name.

Whatever is decoded, and from whatever form, no key of a map comes twice, and a property of records
that each field keeps is a property of them all.
-/

import AssociationCheck.Json.Decode
import AssociationCheck.Proofs.Json.Reading

namespace AssociationCheck.Json.Decode

open Draft (ofJson ofMembers)

/-- A value can be decoded from a form without numbers. -/
structure Restores {α : Type} (decode : Decoder α) (written : Json) (value : α) : Prop where
  numberless : Numberless written
  decoded : decode (ofJson written) = .ok value

section Values

variable {α : Type} {decode : Decoder α} {written : Json} {value : α}

theorem Restores.text (restores : Restores decode written value) :
    Decode.text decode written.compact = .ok value := by
  rw [Decode.text, ofText_compact restores.numberless]
  dsimp only
  rw [restores.decoded]
  rfl

theorem restores_string (text : String) : Restores string (.string text) text where
  numberless := .string text
  decoded := rfl

theorem restores_bool (value : Bool) : Restores bool (.bool value) value where
  numberless := .bool value
  decoded := rfl

theorem restores_none : Restores (optional decode) .null none where
  numberless := .null
  decoded := rfl

theorem restores_some (restores : Restores decode written value) (present : written ≠ .null) :
    Restores (optional decode) written (some value) where
  numberless := restores.numberless
  decoded := by
    have decoded := restores.decoded
    cases written with
    | null => exact absurd rfl present
    | _ => exact congrArg (Except.map some) decoded

theorem restores_ofString? (text : Option String) :
    Restores (optional string) (.ofString? text) text := by
  cases text with
  | none => exact restores_none
  | some text => exact restores_some (restores_string text) nofun

/-! ### Lists and maps -/

variable {encode : α → Json}

theorem items_written {values : List α}
    (restores : ∀ value ∈ values, Restores decode (encode value) value) :
    items decode (values.map (fun value => ofJson (encode value))) = .ok values := by
  induction values with
  | nil => rfl
  | cons value others ih =>
      rw [List.map_cons, items, (restores value List.mem_cons_self).decoded,
        ih (fun other inside => restores other (List.mem_cons_of_mem value inside))]
      rfl

theorem restores_list {values : List α}
    (restores : ∀ value ∈ values, Restores decode (encode value) value) :
    Restores (list decode) (.array (values.map encode)) values where
  numberless := by
    refine .array (fun item inside => ?_)
    obtain ⟨value, present, rfl⟩ := List.mem_map.mp inside
    exact (restores value present).numberless
  decoded := by
    rw [ofJson, ofItems_eq, List.map_map, list]
    exact congrArg (· >>= fun values => pure values) (items_written restores)

theorem insert_new {entries : Dictionary α} {key : String}
    (fresh : key ∉ Dictionary.keys entries) (value : α) :
    Dictionary.insert key value entries = entries ++ [(key, value)] := by
  induction entries with
  | nil => rfl
  | cons entry others ih =>
      obtain ⟨first, old⟩ := entry
      rw [Dictionary.keys, List.map_cons, List.mem_cons, not_or] at fresh
      rw [Dictionary.insert, if_neg (Ne.symm fresh.1), ih fresh.2, List.cons_append]

theorem members_written {entries : Dictionary α}
    (restores : ∀ entry ∈ entries, Restores decode (encode entry.2) entry.2)
    (before : Dictionary α) (distinct : (Dictionary.keys (before ++ entries)).Nodup) :
    members decode before
        (entries.map (fun entry => (some entry.1, ofJson (encode entry.2)))) =
      .ok (before ++ entries) := by
  induction entries generalizing before with
  | nil => rw [List.append_nil]; rfl
  | cons entry others ih =>
      have fresh : entry.1 ∉ Dictionary.keys before := by
        rw [Dictionary.keys, List.map_append, List.map_cons] at distinct
        intro present
        exact (List.nodup_append.mp distinct).2.2 _ present _ List.mem_cons_self rfl
      -- The key is none of those before, so its entry comes behind theirs.
      rw [List.append_cons] at distinct ⊢
      rw [List.map_cons, members, (restores entry List.mem_cons_self).decoded]
      change members decode (Dictionary.insert entry.1 entry.2 before) _ = _
      rw [insert_new fresh]
      exact ih (fun other inside => restores other (List.mem_cons_of_mem entry inside)) _ distinct

theorem restores_map {entries : Dictionary α} (distinct : (Dictionary.keys entries).Nodup)
    (restores : ∀ entry ∈ entries, Restores decode (encode entry.2) entry.2) :
    Restores (map decode) (.object (entries.map (fun (key, value) => (key, encode value))))
      entries where
  numberless := by
    refine .object (fun member inside => ?_)
    obtain ⟨entry, present, rfl⟩ := List.mem_map.mp inside
    exact (restores entry present).numberless
  decoded := by
    rw [ofJson, ofMembers_eq, List.map_map, map]
    exact congrArg (· >>= fun entries => pure entries) (members_written restores [] distinct)

end Values

/-! ### Records -/

/-- Each field in turn is not set yet and takes its value. -/
inductive Fills {π : Type} : List (Field π) → List Json → π → π → Prop
  | nothing {part : π} : Fills [] [] part part
  | next {field : Field π} {value : Json} {fields : List (Field π)} {values : List Json}
      {part filled last : π} (unset : field.isSet part = false) (numberless : Numberless value)
      (read : field.read (ofJson value) part = .ok filled)
      (others : Fills fields values filled last) :
      Fills (field :: fields) (value :: values) part last

section Records

variable {π : Type} {part last : π} {fields : List (Field π)} {values : List Json}

theorem Fills.field {α : Type} {name : String} {required : Bool} {decode : Decoder α}
    {get : π → Option α} {set : α → π → π} {written : Json} {value : α}
    (unset : (get part).isSome = false) (restores : Restores decode written value)
    (others : Fills fields values (set value part) last) :
    Fills (Decode.field name required decode get set :: fields) (written :: values) part last :=
  .next unset restores.numberless (congrArg (Except.map _) restores.decoded) others

theorem Fills.numberless (fills : Fills fields values part last) :
    ∀ value ∈ values, Numberless value := by
  induction fills with
  | nothing => exact fun value inside => absurd inside List.not_mem_nil
  | next unset numberless read others ih => exact List.forall_mem_cons.mpr ⟨numberless, ih⟩

theorem find?_field {field : Field π} (distinct : (fields.map Field.name).Nodup)
    (present : field ∈ fields) :
    fields.find? (fun other => other.name == field.name) = some field := by
  induction fields with
  | nil => cases present
  | cons first others ih =>
      rw [List.map_cons, List.nodup_cons] at distinct
      rcases List.mem_cons.mp present with rfl | later
      · rw [List.find?_cons_of_pos (by simp)]
      · have apart : first.name ≠ field.name := fun same =>
          distinct.1 (same ▸ List.mem_map_of_mem later)
        rw [List.find?_cons_of_neg (by simpa using apart), ih distinct.2 later]

theorem readMembers_filled {form : RecordForm π} (distinct : (form.fields.map Field.name).Nodup)
    (fills : Fills fields values part last) (known : ∀ field ∈ fields, field ∈ form.fields) :
    form.readMembers part (ofMembers ((fields.map Field.name).zip values)) = .ok last := by
  induction fills with
  | nothing => rfl
  | @next field value fields values part filled last unset numberless read others ih =>
      have rest := ih (fun other inside => known other (List.mem_cons_of_mem field inside))
      have member : form.readMember part field.name (ofJson value) = .ok filled := by
        rw [RecordForm.readMember, find?_field distinct (known field List.mem_cons_self)]
        dsimp only
        rw [unset, read]
        rfl
      rw [List.map_cons, List.zip_cons_cons, Draft.ofMembers, RecordForm.readMembers, member]
      exact rest

/-- A record is decoded from the values of its fields in order. -/
theorem decode_filled {form : RecordForm π} (distinct : (form.fields.map Field.name).Nodup)
    (fills : Fills form.fields values part last) (complete : form.missing? last = none) :
    form.decode part (ofJson (.object ((form.fields.map Field.name).zip values))) = .ok last := by
  have read := readMembers_filled distinct fills (fun _ inside => inside)
  simp only [ofJson, RecordForm.decode, read, bind, Except.bind, complete]
  rfl

theorem restores_record {α : Type} {form : RecordForm π} {finish : π → α}
    (distinct : (form.fields.map Field.name).Nodup)
    (fills : Fills form.fields values part last) (complete : form.missing? last = none) :
    Restores (fun draft => do
        let part ← form.decode part draft
        pure (finish part))
      (.object ((form.fields.map Field.name).zip values)) (finish last) where
  numberless := .object (fun member inside =>
    fills.numberless member.2 (List.of_mem_zip inside).2)
  decoded := by
    rw [decode_filled distinct fills complete]
    rfl

end Records

/-! ### What holds of all that is decoded -/

theorem exists_of_bind_ok {ε α β : Type} {found : Except ε α} {next : α → Except ε β} {value : β}
    (isOk : found >>= next = .ok value) : ∃ first, found = .ok first ∧ next first = .ok value := by
  cases found with
  | error problem => cases isOk
  | ok first => exact ⟨first, rfl, isOk⟩

section Keys

variable {α : Type} {decode : Decoder α} {read : Dictionary α}

theorem nodup_keys_members {entries : Dictionary α} {drafts : List (Option String × Draft)}
    (distinct : (Dictionary.keys entries).Nodup)
    (decoded : members decode entries drafts = .ok read) : (Dictionary.keys read).Nodup := by
  induction drafts generalizing entries with
  | nil => cases decoded; exact distinct
  | cons member others ih =>
      obtain ⟨_ | key, draft⟩ := member
      · cases decoded
      · obtain ⟨value, _, decoded⟩ := exists_of_bind_ok decoded
        exact ih (Dictionary.nodup_keys_insert entries key value distinct) decoded

theorem nodup_keys_map {draft : Draft} (decoded : map decode draft = .ok read) :
    (Dictionary.keys read).Nodup := by
  cases draft with
  | object drafts closed =>
      obtain ⟨entries, found, decoded⟩ := exists_of_bind_ok decoded
      have start : (Dictionary.keys ([] : Dictionary α)).Nodup := .nil
      have distinct := nodup_keys_members start found
      cases closed <;> cases decoded
      exact distinct
  | _ => simp only [map, mismatch] at decoded; split at decoded <;> cases decoded

end Keys

section Kept

variable {π : Type} {holds : π → Prop} {part last : π}

def Field.Keeps (field : Field π) (holds : π → Prop) : Prop :=
  ∀ draft part filled, holds part → field.read draft part = .ok filled → holds filled

theorem keeps_field {α : Type} {name : String} {required : Bool} {decode : Decoder α}
    {get : π → Option α} {set : α → π → π}
    (keeps : ∀ draft value part, decode draft = .ok value → holds part → holds (set value part)) :
    (Decode.field name required decode get set).Keeps holds := by
  intro draft part filled before read
  change (decode draft).map _ = _ at read
  cases decoded : decode draft with
  | error problem => rw [decoded] at read; cases read
  | ok value =>
      rw [decoded] at read
      cases read
      exact keeps draft value part decoded before

variable {form : RecordForm π} (keeps : ∀ field ∈ form.fields, field.Keeps holds)

include keeps

theorem readMember_keeps {key : String} {draft : Draft} (before : holds part)
    (read : form.readMember part key draft = .ok last) : holds last := by
  unfold RecordForm.readMember at read
  split at read
  next field found =>
    split at read
    · cases read
    · exact keeps field (List.mem_of_find?_eq_some found) draft part last before read
  next =>
    -- A member under no known key is passed over or refused.
    split at read
    · cases read
    · split at read <;> cases read
      exact before

theorem readMembers_keeps {drafts : List (Option String × Draft)} (before : holds part)
    (read : form.readMembers part drafts = .ok last) : holds last := by
  induction drafts generalizing part with
  | nil => cases read; exact before
  | cons member others ih =>
      obtain ⟨_ | key, draft⟩ := member
      · cases read
      · obtain ⟨filled, first, read⟩ := exists_of_bind_ok read
        exact ih (readMember_keeps keeps before first) read

theorem readItems_keeps {closed : Bool} {position : Nat} {fields : List (Field π)}
    {drafts : List Draft} (known : ∀ field ∈ fields, field ∈ form.fields) (before : holds part)
    (read : form.readItems closed part position fields drafts = .ok last) : holds last := by
  induction fields generalizing part position drafts with
  | nil =>
      cases drafts with
      | nil => cases closed <;> cases read; exact before
      | cons draft others => cases read
  | cons field fields ih =>
      have knownLater : ∀ other ∈ fields, other ∈ form.fields :=
        fun other inside => known other (List.mem_cons_of_mem field inside)
      cases drafts with
      | nil =>
          unfold RecordForm.readItems at read
          split at read
          · cases read
          · split at read
            · cases read
            · exact ih knownLater before read
      | cons draft drafts =>
          obtain ⟨filled, first, read⟩ := exists_of_bind_ok read
          have held := keeps field (known field List.mem_cons_self) draft part filled before first
          exact ih knownLater held read

theorem decode_keeps {nothing : π} {draft : Draft} (start : holds nothing)
    (decoded : form.decode nothing draft = .ok last) : holds last := by
  cases draft with
  | object drafts closed =>
      obtain ⟨filled, read, decoded⟩ := exists_of_bind_ok decoded
      have held := readMembers_keeps keeps start read
      cases closed with
      | false => cases decoded
      | true =>
          cases missing : form.missing? filled with
          | some name => simp [missing] at decoded
          | none =>
              simp only [missing] at decoded
              cases decoded
              exact held
  | array drafts closed => exact readItems_keeps keeps (fun _ inside => inside) start decoded
  | _ => simp only [RecordForm.decode, mismatch] at decoded; split at decoded <;> cases decoded

end Kept

end AssociationCheck.Json.Decode
