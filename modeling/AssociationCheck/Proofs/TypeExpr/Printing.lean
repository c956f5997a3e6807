/-
How a tree is written.

A tree is written as a phrase of the grammar: members with bars or ampersands between them and
parentheses around those that are unions or intersections themselves, type arguments behind a name,
and no key that is `mixed`. A tree in normal form whose class names can be read back is what its
phrase means, and the phrase opens no more levels than are written.
-/

import AssociationCheck.Proofs.TypeExpr.Grammar
import AssociationCheck.Proofs.Types.Joining

namespace AssociationCheck

/-! ### Phrases from lists -/

def UnionPhrase.ofOperands : PrimaryPhrase → List PrimaryPhrase → UnionPhrase
  | first, [] => .last (.last (.primary first))
  | first, second :: others => .bar (.last (.primary first)) (ofOperands second others)

def IntersectionPhrase.ofOperands : PrimaryPhrase → List PrimaryPhrase → IntersectionPhrase
  | first, [] => .last (.primary first)
  | first, second :: others => .ampersand (.primary first) (ofOperands second others)

def ArgumentsPhrase.ofPhrases : UnionPhrase → List UnionPhrase → ArgumentsPhrase
  | first, [] => .last first
  | first, second :: others => .comma first (ofPhrases second others)

namespace PrimaryPhrase

def applying (word : String) : List UnionPhrase → PrimaryPhrase
  | [] => .name word
  | first :: others => .applied word (.ofPhrases first others)

def joined (join : PrimaryPhrase → List PrimaryPhrase → UnionPhrase) :
    List PrimaryPhrase → PrimaryPhrase
  | [] => .name ""
  | first :: others => .group (join first others)

def whole : PrimaryPhrase → UnionPhrase
  | .group inner => inner
  | operand => .last (.last (.primary operand))

end PrimaryPhrase

/-! ### Trees as phrases -/

namespace TypeTree

/-- Of the key and the value of a collection those that are written: not a key that is `mixed`, and
nothing if both are. -/
def writtenEntries {α : Type} (key value : TypeTree) (ofKey ofValue : α) : List α :=
  if key = .scalar .mixed then if value = .scalar .mixed then [] else [ofValue]
  else [ofKey, ofValue]

mutual

/-- What a tree is written as where it is a member, with parentheses around unions and
intersections. -/
def operand : TypeTree → PrimaryPhrase
  | .scalar kind => .name kind.keyword
  | .object name arguments => .applying name ((operands arguments).map PrimaryPhrase.whole)
  | .iterable key value =>
      .applying "iterable" (writtenEntries key value key.operand.whole value.operand.whole)
  | .array key value =>
      .applying "array" (writtenEntries key value key.operand.whole value.operand.whole)
  | .union members => .joined .ofOperands (operands members)
  | .intersection members =>
      .joined (fun first others => .last (.ofOperands first others)) (operands members)
  | .unknown | .elided => .name ""

def operands : List TypeTree → List PrimaryPhrase
  | [] => []
  | tree :: others => tree.operand :: operands others

end

mutual

def classNames : TypeTree → List String
  | .object name arguments => name :: classNamesOf arguments
  | .iterable key value | .array key value => key.classNames ++ value.classNames
  | .union members | .intersection members => classNamesOf members
  | .scalar _ | .unknown | .elided => []

def classNamesOf : List TypeTree → List String
  | [] => []
  | tree :: others => tree.classNames ++ classNamesOf others

end

def writtenParts : TypeTree → List TypeTree
  | .object _ arguments => arguments
  | .iterable key value | .array key value => writtenEntries key value key value
  | .union members | .intersection members => members
  | .scalar _ | .unknown | .elided => []

/-- The text of a tree shows all of it in that number of levels. -/
def ShownWithin : Nat → TypeTree → Prop
  | 0, _ => False
  | levels + 1, tree => ∀ part ∈ tree.writtenParts, part.ShownWithin levels

instance decidableShownWithin : (levels : Nat) → (tree : TypeTree) →
    Decidable (tree.ShownWithin levels)
  | 0, _ => isFalse id
  | levels + 1, tree =>
      have : DecidablePred (ShownWithin levels) := decidableShownWithin levels
      inferInstanceAs (Decidable (∀ part ∈ tree.writtenParts, part.ShownWithin levels))

theorem operands_eq_map (trees : List TypeTree) : operands trees = trees.map operand := by
  induction trees with
  | nil => rfl
  | cons tree others ih => rw [operands, ih, List.map_cons]

theorem map_operands {change : PrimaryPhrase → TypeTree} {trees : List TypeTree}
    (each : ∀ tree ∈ trees, change tree.operand = tree) : (operands trees).map change = trees := by
  rw [operands_eq_map, List.map_map]
  exact (List.map_congr_left each).trans (List.map_id trees)

theorem classNamesOf_eq_flatMap (trees : List TypeTree) :
    classNamesOf trees = trees.flatMap classNames := by
  induction trees with
  | nil => rfl
  | cons tree others ih => rw [classNamesOf, ih, List.flatMap_cons]

end TypeTree

/-! ### Class names that can be read back -/

def reservedWords : List String :=
  ["mixed", "never", "null", "int", "integer", "string", "bool", "boolean", "float", "double",
    "iterable", "array", "list"]

/-- A class name that is read as it is written. -/
structure ReadableName (name : String) : Prop where
  nonempty : name ≠ ""
  nameChars : name.toList.all Token.isNameChar = true
  noSeparator : name.toList.head? ≠ some '\\'
  notReserved : Text.foldCase name ∉ reservedWords

namespace ReadableName

variable {name : String}

instance : Decidable (ReadableName name) :=
  decidable_of_iff (name ≠ "" ∧ name.toList.all Token.isNameChar = true ∧
      name.toList.head? ≠ some '\\' ∧ Text.foldCase name ∉ reservedWords)
    ⟨fun ⟨nonempty, nameChars, noSeparator, notReserved⟩ =>
      ⟨nonempty, nameChars, noSeparator, notReserved⟩,
    fun readable => ⟨readable.nonempty, readable.nameChars, readable.noSeparator,
      readable.notReserved⟩⟩

theorem keyword_none (readable : ReadableName name) : Keyword.named? name = none := by
  have reserved : ∀ entry ∈ Keyword.table, Text.foldCase entry.1 ∈ reservedWords := by
    decide +kernel
  refine Option.map_eq_none_iff.mpr (List.find?_eq_none.mpr fun entry listed isWord => ?_)
  have same := (Text.sameWord_iff_foldCase name entry.1).mp (of_decide_eq_true isWord)
  exact readable.notReserved (same ▸ reserved entry listed)

theorem withoutLeadingSeparators_eq (readable : ReadableName name) :
    withoutLeadingSeparators name = name := by
  have noSeparator := readable.noSeparator
  unfold withoutLeadingSeparators dropSeparators
  cases chars : name.toList with
  | nil => rw [List.dropWhile_nil, ← chars, String.ofList_toList]
  | cons c rest =>
      have isOther : ¬ (c == '\\') = true := by simpa [chars] using noSeparator
      rw [List.dropWhile_cons, if_neg isOther, ← chars, String.ofList_toList]

theorem accepts (readable : ReadableName name) (count : Nat) : Accepts name count := by
  simp [Accepts, readable.keyword_none]

theorem ofName_eq (readable : ReadableName name) (arguments : List TypeTree) :
    TypeTree.ofName name arguments = .object name arguments := by
  simp [TypeTree.ofName, readable.keyword_none, readable.withoutLeadingSeparators_eq]

end ReadableName

/-! ### What the phrases mean -/

theorem UnionPhrase.trees_ofOperands (first : PrimaryPhrase) (others : List PrimaryPhrase) :
    (ofOperands first others).trees =
      (first :: others).map fun operand => .meet [operand.tree] := by
  induction others generalizing first with
  | nil => rfl
  | cons second others ih =>
      rw [ofOperands, UnionPhrase.trees, ih, List.map_cons]
      rfl

theorem IntersectionPhrase.trees_ofOperands (first : PrimaryPhrase) (others : List PrimaryPhrase) :
    (ofOperands first others).trees = (first :: others).map PrimaryPhrase.tree := by
  induction others generalizing first with
  | nil => rfl
  | cons second others ih =>
      rw [ofOperands, IntersectionPhrase.trees, ih, List.map_cons]
      rfl

theorem ArgumentsPhrase.trees_ofPhrases (first : UnionPhrase) (others : List UnionPhrase) :
    (ofPhrases first others).trees = (first :: others).map UnionPhrase.tree := by
  induction others generalizing first with
  | nil => rfl
  | cons second others ih =>
      rw [ofPhrases, ArgumentsPhrase.trees, ih, List.map_cons]
      rfl

namespace PrimaryPhrase

theorem tree_applying (word : String) (arguments : List UnionPhrase) :
    (applying word arguments).tree = .ofName word (arguments.map UnionPhrase.tree) := by
  cases arguments with
  | nil => rfl
  | cons first others => rw [applying, PrimaryPhrase.tree, ArgumentsPhrase.trees_ofPhrases]

theorem tree_whole (phrase : PrimaryPhrase) (normal : phrase.tree.Normal) :
    phrase.whole.tree = phrase.tree := by
  have single (operand : PrimaryPhrase) (normal : operand.tree.Normal) :
      UnionPhrase.tree (.last (.last (.primary operand))) = operand.tree := by
    change TypeTree.unite [TypeTree.meet [operand.tree]] = operand.tree
    rw [normal.meet_single, normal.unite_single]
  cases phrase with
  | group inner => rfl
  | question operand => exact single _ normal
  | name text => exact single _ normal
  | applied text arguments => exact single _ normal

end PrimaryPhrase

namespace TypeTree

variable {tree : TypeTree}

theorem ofName_keyword (kind : Scalar) : ofName kind.keyword [] = .scalar kind := by
  cases kind <;> rfl

theorem entries_writtenEntries (key value : TypeTree) :
    (match writtenEntries key value key value with
      | [key, _] => key
      | _ => .scalar .mixed) = key ∧
    (writtenEntries key value key value).getLast?.getD (.scalar .mixed) = value := by
  by_cases anyKey : key = .scalar .mixed
  · by_cases anyValue : value = .scalar .mixed
    · simp [writtenEntries, anyKey, anyValue]
    · simp [writtenEntries, anyKey, anyValue]
  · simp [writtenEntries, anyKey]

theorem iterable_word : Keyword.named? "iterable" = some .iterable := by decide +kernel

theorem array_word : Keyword.named? "array" = some .array := by decide +kernel

theorem ofName_iterable (key value : TypeTree) :
    ofName "iterable" (writtenEntries key value key value) = .iterable key value := by
  obtain ⟨sameKey, sameValue⟩ := entries_writtenEntries key value
  unfold ofName
  rw [iterable_word]
  exact congrArg₂ TypeTree.iterable sameKey sameValue

theorem ofName_array (key value : TypeTree) :
    ofName "array" (writtenEntries key value key value) = .array key value := by
  obtain ⟨sameKey, sameValue⟩ := entries_writtenEntries key value
  unfold ofName
  rw [array_word]
  exact congrArg₂ TypeTree.array sameKey sameValue

theorem map_writtenEntries {α β : Type} (change : α → β) (key value : TypeTree)
    (ofKey ofValue : α) : (writtenEntries key value ofKey ofValue).map change =
      writtenEntries key value (change ofKey) (change ofValue) := by
  unfold writtenEntries
  split
  · split <;> rfl
  · rfl

theorem eq_or_eq_of_mem_writtenEntries {α : Type} {key value : TypeTree} {ofKey ofValue item : α}
    (written : item ∈ writtenEntries key value ofKey ofValue) : item = ofKey ∨ item = ofValue := by
  unfold writtenEntries at written
  split at written
  · split at written
    · cases written
    · exact .inr (List.mem_singleton.mp written)
  · simpa using written

theorem forall₂_writtenEntries {α β : Type} {related : α → β → Prop} {key value : TypeTree}
    {ofKey ofValue : α} {other item : β}
    (keys : key ∈ writtenEntries key value key value → related ofKey other)
    (values : value ∈ writtenEntries key value key value → related ofValue item) :
    List.Forall₂ related (writtenEntries key value ofKey ofValue)
      (writtenEntries key value other item) := by
  by_cases anyKey : key = .scalar .mixed
  · by_cases anyValue : value = .scalar .mixed
    · simp [writtenEntries, anyKey, anyValue]
    · have relatedValue := values (by simp [writtenEntries, anyKey, anyValue])
      simpa [writtenEntries, anyKey, anyValue] using relatedValue
  · have relatedKey := keys (by simp [writtenEntries, anyKey])
    have relatedValue := values (by simp [writtenEntries, anyKey])
    simpa [writtenEntries, anyKey] using And.intro relatedKey relatedValue

theorem mem_classNamesOf {name : String} {trees : List TypeTree} (present : tree ∈ trees)
    (among : name ∈ tree.classNames) : name ∈ classNamesOf trees := by
  rw [classNamesOf_eq_flatMap]
  exact List.mem_flatMap.mpr ⟨tree, present, among⟩

/-- A tree in normal form is what it is written as, with and without parentheses around it. -/
theorem Normal.tree_operand (normal : tree.Normal)
    (readable : ∀ name ∈ tree.classNames, ReadableName name) :
    tree.operand.tree = tree ∧ tree.operand.whole.tree = tree := by
  suffices isTree : tree.operand.tree = tree by
    exact ⟨isTree, (tree.operand.tree_whole (isTree.symm ▸ normal)).trans isTree⟩
  induction normal with
  | scalar kind => exact ofName_keyword kind
  | @object name arguments each ih =>
      have own : ReadableName name := readable name List.mem_cons_self
      have same :
          (operands arguments).map (UnionPhrase.tree ∘ PrimaryPhrase.whole) = arguments := by
        refine map_operands fun argument present => ?_
        have isTree := ih argument present fun inner among =>
          readable inner (List.mem_cons_of_mem _ (mem_classNamesOf present among))
        exact (argument.operand.tree_whole (isTree.symm ▸ each argument present)).trans isTree
      rw [operand, PrimaryPhrase.tree_applying, own.ofName_eq, List.map_map, same]
  | @iterable key value keys values keyTree valueTree =>
      have isKey := keyTree fun name among => readable name (List.mem_append_left _ among)
      have isValue := valueTree fun name among => readable name (List.mem_append_right _ among)
      rw [operand, PrimaryPhrase.tree_applying, map_writtenEntries,
        key.operand.tree_whole (isKey.symm ▸ keys), isKey,
        value.operand.tree_whole (isValue.symm ▸ values), isValue, ofName_iterable]
  | @array key value keys values keyTree valueTree =>
      have isKey := keyTree fun name among => readable name (List.mem_append_left _ among)
      have isValue := valueTree fun name among => readable name (List.mem_append_right _ among)
      rw [operand, PrimaryPhrase.tree_applying, map_writtenEntries,
        key.operand.tree_whole (isKey.symm ▸ keys), isKey,
        value.operand.tree_whole (isValue.symm ▸ values), isValue, ofName_array]
  | @union members form whole each ih =>
      have same :
          (operands members).map (fun operand => TypeTree.meet [operand.tree]) = members := by
        refine map_operands fun member present => ?_
        have isTree := ih member present fun name among =>
          readable name (mem_classNamesOf present among)
        rw [isTree]
        exact (each member present).meet_single
      cases members with
      | nil => exact absurd form.several (by simp)
      | cons first others =>
          have united : (UnionPhrase.ofOperands first.operand (operands others)).trees =
              first :: others := (UnionPhrase.trees_ofOperands _ _).trans same
          rw [operand, operands, PrimaryPhrase.joined, PrimaryPhrase.tree, united]
          exact unite_members form whole
  | @intersection members form whole each ih =>
      have same : (operands members).map PrimaryPhrase.tree = members :=
        map_operands fun member present =>
          ih member present fun name among => readable name (mem_classNamesOf present among)
      cases members with
      | nil => exact absurd form.several (by simp)
      | cons first others =>
          have met : (IntersectionPhrase.ofOperands first.operand (operands others)).trees =
              first :: others := (IntersectionPhrase.trees_ofOperands _ _).trans same
          rw [operand, operands, PrimaryPhrase.joined, PrimaryPhrase.tree, UnionPhrase.trees, met,
            meet_members form whole]
          exact (Normal.intersection form whole each).unite_single

end TypeTree

/-! ### What the phrases open -/

/-- Brackets belong to operands, names accept their arguments, and no more levels are open at
once. -/
def UnionPhrase.Sound (levels : Nat) (phrase : UnionPhrase) : Prop :=
  phrase.Tight ∧ phrase.Applies ∧ phrase.depth ≤ levels

def IntersectionPhrase.Sound (levels : Nat) (phrase : IntersectionPhrase) : Prop :=
  phrase.Tight ∧ phrase.Applies ∧ phrase.depth ≤ levels

def PrimaryPhrase.Sound (levels : Nat) (phrase : PrimaryPhrase) : Prop :=
  phrase.Tight ∧ phrase.Applies ∧ phrase.depth ≤ levels

def ArgumentsPhrase.Sound (levels : Nat) (phrase : ArgumentsPhrase) : Prop :=
  phrase.Tight ∧ phrase.Applies ∧ phrase.depth ≤ levels

section Sound

variable {levels : Nat}

theorem UnionPhrase.sound_ofOperands {first : PrimaryPhrase} {others : List PrimaryPhrase}
    (each : ∀ operand ∈ first :: others, operand.Sound levels) :
    (ofOperands first others).Sound (levels + 1) := by
  induction others generalizing first with
  | nil =>
      obtain ⟨tight, applies, within⟩ := each first List.mem_cons_self
      exact ⟨tight, applies, Nat.succ_le_succ within⟩
  | cons second others ih =>
      obtain ⟨tight, applies, within⟩ := each first List.mem_cons_self
      obtain ⟨tights, allApply, below⟩ :=
        ih fun operand present => each operand (List.mem_cons_of_mem _ present)
      exact ⟨⟨tight, tights⟩, ⟨applies, allApply⟩, Nat.max_le.mpr ⟨Nat.succ_le_succ within, below⟩⟩

theorem IntersectionPhrase.sound_ofOperands {first : PrimaryPhrase} {others : List PrimaryPhrase}
    (each : ∀ operand ∈ first :: others, operand.Sound levels) :
    (ofOperands first others).Sound levels := by
  induction others generalizing first with
  | nil => exact each first List.mem_cons_self
  | cons second others ih =>
      obtain ⟨tight, applies, within⟩ := each first List.mem_cons_self
      obtain ⟨tights, allApply, below⟩ :=
        ih fun operand present => each operand (List.mem_cons_of_mem _ present)
      exact ⟨⟨tight, tights⟩, ⟨applies, allApply⟩, Nat.max_le.mpr ⟨within, below⟩⟩

theorem ArgumentsPhrase.sound_ofPhrases {first : UnionPhrase} {others : List UnionPhrase}
    (each : ∀ phrase ∈ first :: others, phrase.Sound levels) :
    (ofPhrases first others).Sound levels := by
  induction others generalizing first with
  | nil => exact each first List.mem_cons_self
  | cons second others ih =>
      obtain ⟨tight, applies, within⟩ := each first List.mem_cons_self
      obtain ⟨tights, allApply, below⟩ :=
        ih fun phrase present => each phrase (List.mem_cons_of_mem _ present)
      exact ⟨⟨tight, tights⟩, ⟨applies, allApply⟩, Nat.max_le.mpr ⟨within, below⟩⟩

theorem ArgumentsPhrase.count_ofPhrases (first : UnionPhrase) (others : List UnionPhrase) :
    (ofPhrases first others).count = others.length + 1 := by
  induction others generalizing first with
  | nil => rfl
  | cons second others ih => rw [ofPhrases, count, ih, List.length_cons]

namespace PrimaryPhrase

theorem sound_applying {word : String} {arguments : List UnionPhrase}
    (accepts : Accepts word arguments.length)
    (each : ∀ argument ∈ arguments, argument.Sound levels) :
    (applying word arguments).Sound levels := by
  cases arguments with
  | nil => exact ⟨trivial, trivial, Nat.zero_le levels⟩
  | cons first others =>
      obtain ⟨tight, applies, within⟩ := ArgumentsPhrase.sound_ofPhrases each
      refine ⟨tight, ⟨?_, applies⟩, within⟩
      rw [ArgumentsPhrase.count_ofPhrases]
      exact accepts

/-- Parentheses open one level more than what is inside of them. -/
theorem Sound.whole {phrase : PrimaryPhrase} (sound : phrase.Sound levels) :
    phrase.whole.Sound (levels + 1) := by
  obtain ⟨tight, applies, within⟩ := sound
  cases phrase with
  | group inner => exact ⟨tight, applies, Nat.le_succ_of_le within⟩
  | question operand => exact ⟨tight, applies, Nat.succ_le_succ within⟩
  | name text => exact ⟨tight, applies, Nat.succ_le_succ within⟩
  | applied text arguments => exact ⟨tight, applies, Nat.succ_le_succ within⟩

theorem sound_of_whole {phrase : PrimaryPhrase} (sound : phrase.whole.Sound levels) :
    phrase.Sound levels := by
  obtain ⟨tight, applies, within⟩ := sound
  cases phrase with
  | group inner => exact ⟨tight, applies, within⟩
  | question operand => exact ⟨tight, applies, Nat.le_of_succ_le within⟩
  | name text => exact ⟨tight, applies, Nat.le_of_succ_le within⟩
  | applied text arguments => exact ⟨tight, applies, Nat.le_of_succ_le within⟩

end PrimaryPhrase

end Sound

namespace TypeTree

theorem mem_classNames_of_part {tree part : TypeTree} {name : String}
    (present : part ∈ tree.writtenParts) (among : name ∈ part.classNames) :
    name ∈ tree.classNames := by
  have entries {key value : TypeTree} (written : part ∈ writtenEntries key value key value) :
      name ∈ key.classNames ++ value.classNames := by
    rcases eq_or_eq_of_mem_writtenEntries written with rfl | rfl
    · exact List.mem_append_left _ among
    · exact List.mem_append_right _ among
  cases tree with
  | object other arguments => exact List.mem_cons_of_mem _ (mem_classNamesOf present among)
  | iterable key value => exact entries present
  | array key value => exact entries present
  | union members => exact mem_classNamesOf present among
  | intersection members => exact mem_classNamesOf present among
  | scalar kind => cases present
  | unknown => cases present
  | elided => cases present

/-- A tree opens no more levels than its text shows. -/
theorem sound_whole_operand {levels : Nat} {tree : TypeTree} (shown : tree.ShownWithin levels)
    (readable : ∀ name ∈ tree.classNames, ReadableName name) :
    tree.operand.whole.Sound levels := by
  induction levels generalizing tree with
  | zero => exact shown.elim
  | succ levels ih =>
      have parts : ∀ part ∈ tree.writtenParts, part.operand.whole.Sound levels := by
        intro part present
        exact ih (shown part present) fun name among =>
          readable name (mem_classNames_of_part present among)
      have entries {word : String} {key value : TypeTree}
          (written : tree.writtenParts = writtenEntries key value key value)
          (accepts : ∀ count ≤ 2, Accepts word count) :
          (PrimaryPhrase.applying word (writtenEntries key value key.operand.whole
            value.operand.whole)).whole.Sound (levels + 1) := by
        rw [← map_writtenEntries fun tree : TypeTree => tree.operand.whole, ← written]
        apply (PrimaryPhrase.sound_applying (accepts _ ?_) ?_).whole
        · rw [List.length_map, written]
          unfold writtenEntries
          split
          · split <;> simp
          · simp
        · exact List.forall_mem_map.mpr parts
      -- A part opens a level less as an operand than as a phrase of its own.
      have operandsSound {first : PrimaryPhrase} {others : List PrimaryPhrase}
          (listed : operands tree.writtenParts = first :: others) :
          ∀ operand ∈ first :: others, operand.Sound levels := by
        rw [← listed, operands_eq_map]
        exact List.forall_mem_map.mpr fun part present =>
          PrimaryPhrase.sound_of_whole (parts part present)
      have single (word : String) : (PrimaryPhrase.name word).whole.Sound (levels + 1) :=
        ⟨trivial, trivial, Nat.succ_le_succ (Nat.zero_le levels)⟩
      cases tree with
      | scalar kind => exact single _
      | object name arguments =>
          have own : ReadableName name := readable name List.mem_cons_self
          apply (PrimaryPhrase.sound_applying (own.accepts _) ?_).whole
          rw [operands_eq_map, List.map_map]
          exact List.forall_mem_map.mpr parts
      | iterable key value =>
          exact entries rfl fun count few => by simp [Accepts, iterable_word, Keyword.capacity, few]
      | array key value =>
          exact entries rfl fun count few => by simp [Accepts, array_word, Keyword.capacity, few]
      | union members =>
          cases members with
          | nil => exact single _
          | cons first others => exact UnionPhrase.sound_ofOperands (operandsSound rfl)
      | intersection members =>
          cases members with
          | nil => exact single _
          | cons first others =>
              obtain ⟨tight, applies, within⟩ :=
                IntersectionPhrase.sound_ofOperands (operandsSound rfl)
              exact ⟨tight, applies, Nat.succ_le_succ within⟩
      | unknown => exact single _
      | elided => exact single _

end TypeTree

end AssociationCheck
