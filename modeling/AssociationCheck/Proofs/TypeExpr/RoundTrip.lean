/-
Parsing what was printed.

The text of a type splits into the tokens of the phrase that its tree is written as. Where the text
shows the whole type and its class names can be read back, parsing the text in the same store makes
the type itself, so two such types with one text are one type.
-/

import AssociationCheck.Proofs.Rule.History
import AssociationCheck.Proofs.TypeExpr.Parsing
import AssociationCheck.Proofs.TypeExpr.Printing

namespace AssociationCheck

open Building TypeStore Token

/-! ### Texts one after the other -/

namespace Token

theorem Splits.append {first second : List Char} {tokens others : List Token}
    (splits : Splits first tokens) (following : Splits second others)
    (apart : ∀ c, second.head? = some c → isNameChar c = false) :
    Splits (first ++ second) (tokens ++ others) := by
  induction splits with
  | nil => exact following
  | blank isBlank _ ih => exact .blank isBlank ih
  | mark mark _ ih => exact .mark mark ih
  | @name run rest tokens nonempty all longest _ ih =>
      rw [List.append_assoc]
      refine .name nonempty all ?_ ih
      cases rest with
      | nil => exact apart
      | cons c later => exact longest

theorem splits_name {name : String} (nonempty : name ≠ "")
    (nameChars : name.toList.all isNameChar = true) :
    Splits name.toList [.name name] := by
  have present : name.toList ≠ [] := by simpa using nonempty
  have splits := Splits.name present (List.all_eq_true.mp nameChars) (by simp) .nil
  rwa [List.append_nil, String.ofList_toList] at splits

theorem Splits.separate {first second blanks : List Char} {tokens others : List Token}
    (splits : Splits first tokens) (mark : Mark) (blank : ∀ c ∈ blanks, Text.isBlank c = true)
    (following : Splits second others) :
    Splits (first ++ (mark.char :: blanks ++ second)) (tokens ++ .mark mark :: others) := by
  have behind : Splits (blanks ++ second) others := by
    induction blanks with
    | nil => exact following
    | cons c rest ih =>
        exact .blank (blank c List.mem_cons_self)
          (ih fun other present => blank other (List.mem_cons_of_mem _ present))
  refine splits.append (.mark mark behind) ?_
  intro c isFirst
  rw [← Option.some.inj isFirst]
  exact not_isNameChar_char mark

theorem splits_intercalate {texts : List (List Char)} {written : List (List Token)} (mark : Mark)
    {blanks : List Char} (blank : ∀ c ∈ blanks, Text.isBlank c = true)
    (each : List.Forall₂ Splits texts written) :
    Splits (List.intercalate (mark.char :: blanks) texts)
      (List.intercalate [.mark mark] written) := by
  induction each with
  | nil => exact .nil
  | @cons text tokens texts written head tail ih =>
      cases tail with
      | nil =>
          rw [List.intercalate_singleton, List.intercalate_singleton]
          exact head
      | cons =>
          rw [List.intercalate_cons_cons, List.intercalate_cons_cons, List.append_assoc,
            List.append_assoc]
          exact head.separate mark blank ih

end Token

theorem UnionPhrase.tokens_ofOperands (first : PrimaryPhrase) (others : List PrimaryPhrase) :
    (ofOperands first others).tokens =
      List.intercalate [.mark .bar] ((first :: others).map PrimaryPhrase.tokens) := by
  induction others generalizing first with
  | nil => simp [ofOperands, UnionPhrase.tokens, IntersectionPhrase.tokens, PostfixPhrase.tokens]
  | cons second others ih =>
      rw [ofOperands, UnionPhrase.tokens, ih]
      simp only [List.map_cons, List.intercalate_cons_cons, List.append_assoc]
      rfl

theorem IntersectionPhrase.tokens_ofOperands (first : PrimaryPhrase)
    (others : List PrimaryPhrase) :
    (ofOperands first others).tokens =
      List.intercalate [.mark .ampersand] ((first :: others).map PrimaryPhrase.tokens) := by
  induction others generalizing first with
  | nil => simp [ofOperands, IntersectionPhrase.tokens, PostfixPhrase.tokens]
  | cons second others ih =>
      rw [ofOperands, IntersectionPhrase.tokens, ih]
      simp only [List.map_cons, List.intercalate_cons_cons, List.append_assoc]
      rfl

theorem ArgumentsPhrase.tokens_ofPhrases (first : UnionPhrase) (others : List UnionPhrase) :
    (ofPhrases first others).tokens =
      List.intercalate [.mark .comma] ((first :: others).map UnionPhrase.tokens) := by
  induction others generalizing first with
  | nil => simp [ofPhrases, ArgumentsPhrase.tokens]
  | cons second others ih =>
      rw [ofPhrases, ArgumentsPhrase.tokens, ih]
      simp only [List.map_cons, List.intercalate_cons_cons, List.append_assoc]
      rfl

namespace PrimaryPhrase

def spelled (word : String) (arguments : List String) : String :=
  if arguments.isEmpty then word else word ++ bracketed arguments

theorem splits_applying {word : String} (nonempty : word ≠ "")
    (nameChars : word.toList.all isNameChar = true) {texts : List String}
    {arguments : List UnionPhrase}
    (each : List.Forall₂ (fun text argument => Splits text.toList argument.tokens) texts
      arguments) :
    Splits (spelled word texts).toList (applying word arguments).whole.tokens := by
  have name := splits_name nonempty nameChars
  cases each with
  | nil => exact name
  | @cons text first texts others head tail =>
      have written : List.Forall₂ Splits ((text :: texts).map String.toList)
          ((first :: others).map UnionPhrase.tokens) := by
        rw [List.forall₂_map_left_iff, List.forall₂_map_right_iff]
        exact .cons head tail
      have blank : ∀ c ∈ [' '], Text.isBlank c = true :=
        List.forall_mem_singleton.mpr (by decide)
      have inner := splits_intercalate .comma blank written
      rw [← ArgumentsPhrase.tokens_ofPhrases] at inner
      have spells : (spelled word (text :: texts)).toList =
          word.toList ++ (Mark.less.char ::
            (List.intercalate [Mark.comma.char, ' '] ((text :: texts).map String.toList) ++
              [Mark.greater.char])) := by
        simp [spelled, bracketed, String.toList_intercalate, Mark.char]
      rw [spells]
      refine name.append (.mark .less (inner.append (.mark .greater .nil) ?_)) ?_
      · exact fun c isFirst => Option.some.inj isFirst ▸ not_isNameChar_char .greater
      · exact fun c isFirst => Option.some.inj isFirst ▸ not_isNameChar_char .less

theorem tokens_whole_applying (word : String) (arguments : List UnionPhrase) :
    (applying word arguments).whole.tokens = (applying word arguments).tokens := by
  cases arguments <;> rfl

/-- The text of an operand that is a union or an intersection stands in parentheses. -/
theorem splits_group {text : List Char} {inner : UnionPhrase} (splits : Splits text inner.tokens) :
    Splits (Mark.openGroup.char :: text ++ [Mark.closeGroup.char]) (group inner).tokens := by
  refine .mark .openGroup (splits.append (.mark .closeGroup .nil) ?_)
  exact fun c isFirst => Option.some.inj isFirst ▸ not_isNameChar_char .closeGroup

end PrimaryPhrase

/-! ### Texts of types -/

namespace TypeStore

variable {store : TypeStore} {id : TypeId}

/-- What is a member of another type stands in parentheses where its tree is written in them. -/
theorem Canonical.splits_member (canonical : store.Canonical) (known : store.Contains id)
    {text : String} (splits : Splits text.toList (store.tree id).operand.whole.tokens) :
    Splits (if store.isComposite id then "(" ++ text ++ ")" else text).toList
      (store.tree id).operand.tokens := by
  obtain ⟨shape, found⟩ := exists_lookup known
  have normal := canonical.normal found
  rw [canonical.tree_of_lookup found] at splits ⊢
  have grouped {inner : UnionPhrase} (splits : Splits text.toList inner.tokens) :
      Splits ("(" ++ text ++ ")").toList (PrimaryPhrase.group inner).tokens := by
    have enclosed := PrimaryPhrase.splits_group splits
    simpa [Mark.char] using enclosed
  unfold isComposite
  rw [found]
  cases shape with
  | scalar kind => exact splits
  | object name arguments =>
      rw [Shape.unfold, TypeTree.operand, PrimaryPhrase.tokens_whole_applying] at splits
      exact splits
  | iterable key value =>
      rw [Shape.unfold, TypeTree.operand, PrimaryPhrase.tokens_whole_applying] at splits
      exact splits
  | array key value =>
      rw [Shape.unfold, TypeTree.operand, PrimaryPhrase.tokens_whole_applying] at splits
      exact splits
  | union members =>
      cases members with
      | nil => exact absurd normal.1.several (by simp)
      | cons first others => exact grouped splits
  | intersection members =>
      cases members with
      | nil => exact absurd normal.1.several (by simp)
      | cons first others => exact grouped splits

theorem Canonical.spelled_entries (canonical : store.Canonical) {key value : TypeId}
    (keyKnown : store.Contains key) (valueKnown : store.Contains value)
    (word keyText valueText : String) :
    (if key = .mixed then if value = .mixed then word else word ++ bracketed [valueText]
      else word ++ bracketed [keyText, valueText]) =
      PrimaryPhrase.spelled word
        ((store.tree key).writtenEntries (store.tree value) keyText valueText) := by
  have keyMixed : store.tree key = .scalar .mixed ↔ key = .mixed :=
    canonical.tree_eq_scalar_iff keyKnown
  have valueMixed : store.tree value = .scalar .mixed ↔ value = .mixed :=
    canonical.tree_eq_scalar_iff valueKnown
  unfold TypeTree.writtenEntries
  simp only [keyMixed, valueMixed]
  split
  · split <;> rfl
  · rfl

theorem textWithin_generic (levels : Nat) {name : String} {arguments : List TypeId}
    (found : store.lookup id = some (.object name arguments)) :
    store.textWithin (levels + 1) id =
      PrimaryPhrase.spelled name (arguments.map (store.textWithin levels)) := by
  simp [textWithin, found, PrimaryPhrase.spelled]

theorem Canonical.textWithin_iterable (canonical : store.Canonical) (levels : Nat)
    {key value : TypeId} (found : store.lookup id = some (.iterable key value)) :
    store.textWithin (levels + 1) id =
      PrimaryPhrase.spelled "iterable" ((store.tree key).writtenEntries (store.tree value)
        (store.textWithin levels key) (store.textWithin levels value)) := by
  have keyKnown : store.Contains key := canonical.contains_part found (by simp [Shape.parts])
  have valueKnown : store.Contains value := canonical.contains_part found (by simp [Shape.parts])
  simp only [textWithin, found]
  exact canonical.spelled_entries keyKnown valueKnown _ _ _

theorem Canonical.textWithin_array (canonical : store.Canonical) (levels : Nat)
    {key value : TypeId} (found : store.lookup id = some (.array key value)) :
    store.textWithin (levels + 1) id =
      PrimaryPhrase.spelled "array" ((store.tree key).writtenEntries (store.tree value)
        (store.textWithin levels key) (store.textWithin levels value)) := by
  have keyKnown : store.Contains key := canonical.contains_part found (by simp [Shape.parts])
  have valueKnown : store.Contains value := canonical.contains_part found (by simp [Shape.parts])
  simp only [textWithin, found]
  exact canonical.spelled_entries keyKnown valueKnown _ _ _

theorem splits_entries {word : String} {levels : Nat} {key value : TypeId} (nonempty : word ≠ "")
    (nameChars : word.toList.all isNameChar = true)
    (each : ∀ part ∈ [key, value],
      store.tree part ∈ (store.tree key).writtenEntries (store.tree value) (store.tree key)
        (store.tree value) →
      Splits (store.textWithin levels part).toList (store.tree part).operand.whole.tokens) :
    Splits (PrimaryPhrase.spelled word ((store.tree key).writtenEntries (store.tree value)
        (store.textWithin levels key) (store.textWithin levels value))).toList
      (PrimaryPhrase.applying word ((store.tree key).writtenEntries (store.tree value)
        (store.tree key).operand.whole (store.tree value).operand.whole)).whole.tokens := by
  apply PrimaryPhrase.splits_applying nonempty nameChars
  exact TypeTree.forall₂_writtenEntries (each key (by simp)) (each value (by simp))

theorem Canonical.splits_members (canonical : store.Canonical) {levels : Nat}
    {members : List TypeId} (known : ∀ member ∈ members, store.Contains member)
    (each : ∀ member ∈ members,
      Splits (store.textWithin levels member).toList (store.tree member).operand.whole.tokens) :
    List.Forall₂ Splits
      ((members.map fun member => if store.isComposite member
        then "(" ++ store.textWithin levels member ++ ")"
        else store.textWithin levels member).map String.toList)
      ((TypeTree.operands (members.map store.tree)).map PrimaryPhrase.tokens) := by
  rw [TypeTree.operands_eq_map, List.map_map, List.map_map, List.map_map,
    List.forall₂_map_left_iff, List.forall₂_map_right_iff, List.forall₂_same]
  exact fun member present => canonical.splits_member (known member present) (each member present)

/-- The text of a type that is shown splits into the tokens of what its tree is written as. -/
theorem Canonical.splits_textWithin (canonical : store.Canonical) (levels : Nat)
    (known : store.Contains id) (shown : (store.tree id).ShownWithin levels)
    (readable : ∀ name ∈ (store.tree id).classNames, ReadableName name) :
    Splits (store.textWithin levels id).toList (store.tree id).operand.whole.tokens := by
  induction levels generalizing id with
  | zero => exact shown.elim
  | succ levels ih =>
      obtain ⟨shape, found⟩ := exists_lookup known
      have partKnown : ∀ part ∈ shape.parts, store.Contains part :=
        fun part present => canonical.contains_part found present
      rw [canonical.tree_of_lookup found] at shown readable ⊢
      have parts : ∀ part ∈ shape.parts,
          store.tree part ∈ (shape.unfold store.tree).writtenParts →
          Splits (store.textWithin levels part).toList
            (store.tree part).operand.whole.tokens := by
        intro part present written
        exact ih (partKnown part present) (shown _ written) fun name among =>
          readable name (TypeTree.mem_classNames_of_part written among)
      have noBlank : ∀ c ∈ ([] : List Char), Text.isBlank c = true := by simp
      have normal := canonical.normal found
      cases shape with
      | scalar kind =>
          have isName : kind.keyword ≠ "" ∧ kind.keyword.toList.all isNameChar = true := by
            cases kind <;> decide +kernel
          simp only [textWithin, found]
          exact splits_name isName.1 isName.2
      | object name arguments =>
          have own : ReadableName name := readable name List.mem_cons_self
          rw [textWithin_generic levels found, Shape.unfold, TypeTree.operand,
            TypeTree.operands_eq_map, List.map_map, List.map_map]
          apply PrimaryPhrase.splits_applying own.nonempty own.nameChars
          rw [List.forall₂_map_left_iff, List.forall₂_map_right_iff, List.forall₂_same]
          exact fun part present => parts part present (List.mem_map_of_mem present)
      | iterable key value =>
          rw [canonical.textWithin_iterable levels found]
          exact splits_entries (by decide) (by decide +kernel) parts
      | array key value =>
          rw [canonical.textWithin_array levels found]
          exact splits_entries (by decide) (by decide +kernel) parts
      | union ids =>
          have each := canonical.splits_members partKnown fun part present =>
            parts part present (List.mem_map_of_mem present)
          have splits := splits_intercalate .bar noBlank each
          simp only [textWithin, found, String.toList_intercalate]
          cases ids with
          | nil => exact absurd normal.1.several (by simp)
          | cons first others =>
              change Splits _ (UnionPhrase.ofOperands _ _).tokens
              rw [UnionPhrase.tokens_ofOperands]
              exact splits
      | intersection ids =>
          have each := canonical.splits_members partKnown fun part present =>
            parts part present (List.mem_map_of_mem present)
          have splits := splits_intercalate .ampersand noBlank each
          simp only [textWithin, found, String.toList_intercalate]
          cases ids with
          | nil => exact absurd normal.1.several (by simp)
          | cons first others =>
              change Splits _ (IntersectionPhrase.ofOperands _ _).tokens
              rw [IntersectionPhrase.tokens_ofOperands]
              exact splits

/-! ### Parsing the text of a type -/

/-- The text of a type shows all of it, and its class names are read as they are written. -/
structure Printable (store : TypeStore) (id : TypeId) : Prop where
  readable : ∀ name ∈ (store.tree id).classNames, ReadableName name
  shown : (store.tree id).ShownWithin textLevels

theorem Canonical.treeOfText_text (canonical : store.Canonical) (known : store.Contains id)
    (printable : store.Printable id) :
    TypeExpr.treeOfText (store.text id) = .ok (store.tree id) := by
  obtain ⟨readable, shown⟩ := printable
  have normal := canonical.tree_normal known
  have splits := canonical.splits_textWithin textLevels known shown readable
  obtain ⟨tight, applies, below⟩ := TypeTree.sound_whole_operand shown readable
  have within : (store.tree id).operand.whole.depth ≤ Reading.depthLimit :=
    Nat.le_trans below (by decide)
  obtain ⟨expr, isExpr, read⟩ := TypeExpr.ofText_of_phrase splits applies within
  refine (TypeExpr.treeOfText_eq_ok_iff _).mpr ⟨expr, isExpr, ?_⟩
  rw [read tight, UnionPhrase.tree_expr _ applies]
  exact (normal.tree_operand readable).2

theorem Canonical.parseType_text (canonical : store.Canonical) (known : store.Contains id)
    (printable : store.Printable id) : ((parseType (store.text id)).run store).1 = .ok id := by
  obtain ⟨continues, made, means⟩ := parseType_makes (store.text id) canonical
  rw [canonical.treeOfText_text known printable] at means
  cases parsed : ((parseType (store.text id)).run store).1 with
  | error problem =>
      rw [parsed] at means
      cases means
  | ok other =>
      rw [parsed] at means
      have stays := canonical.tree_later continues.grows known
      have same := (Except.ok.inj means).trans stays.symm
      have knownLater := continues.grows.contains known
      rw [continues.canonical.eq_of_tree_eq (made other parsed) knownLater same]

end TypeStore

/-! ### Types that were returned -/

/-- Whatever the history of a store is: a type that was returned, the text of which shows all of it
with class names that are read as they are written, is what parsing its text gives. So two such
types with one text are one type. -/
theorem Reached.parse_text {store : TypeStore} {returned : List TypeId}
    (reached : Reached store returned) :
    (∀ id ∈ returned, store.Printable id →
      ((parseType (store.text id)).run store).1 = .ok id) ∧
    ∀ id ∈ returned, ∀ other ∈ returned, store.Printable id → store.Printable other →
      store.text id = store.text other → id = other := by
  have parses : ∀ id ∈ returned, store.Printable id →
      ((parseType (store.text id)).run store).1 = .ok id := by
    intro id present printable
    exact reached.canonical.parseType_text (reached.contains present) printable
  refine ⟨parses, ?_⟩
  intro id present other otherPresent printable otherPrintable sameText
  have parsed := parses id present printable
  rw [sameText, parses other otherPresent otherPrintable] at parsed
  exact (Except.ok.inj parsed).symm

def shelfStore : TypeStore :=
  ((StoreOperation.parse "list<(Book&iterable<Shelf>)|null>|array").build.run initial).2

theorem reached_shelfStore :
    Reached shelfStore [⟨14⟩, .mixed, .never, .null, .int, .string, .bool, .float] := by
  have whole : returnedTypes
      ((StoreOperation.parse "list<(Book&iterable<Shelf>)|null>|array").build.run initial).1 =
        [⟨14⟩] := by decide +kernel
  have read := Reached.start.after
    (.parse "list<(Book&iterable<Shelf>)|null>|array") (by simp [StoreOperation.given])
  rw [whole] at read
  exact read

/-- A list is printed as an array with its keys. -/
theorem parse_text_shelfStore :
    shelfStore.Printable ⟨14⟩ ∧
      shelfStore.text ⟨14⟩ = "array<int, (Book&iterable<Shelf>)|null>|array" ∧
      ((parseType "array<int, (Book&iterable<Shelf>)|null>|array").run shelfStore).1 =
        .ok ⟨14⟩ := by
  have printable : shelfStore.Printable ⟨14⟩ := ⟨by decide +kernel, by decide +kernel⟩
  have text : shelfStore.text ⟨14⟩ = "array<int, (Book&iterable<Shelf>)|null>|array" := by
    decide +kernel
  have parsed := reached_shelfStore.parse_text.1 ⟨14⟩ List.mem_cons_self printable
  rw [text] at parsed
  exact ⟨printable, text, parsed⟩

end AssociationCheck
