/-
Variants of a type.

Spelling does not matter for a class name, nor order and repetition for the members of a union or
an intersection. Trees are variants of each other where nothing else tells them apart: members that
are variants count as one, so a union of variants of one tree is a variant of that tree.
-/

import AssociationCheck.Proofs.Types.Joining
import AssociationCheck.Proofs.Types.Values

namespace AssociationCheck

/-! ### Lists read as sets -/

/-- Each item of one list has a counterpart in the other list. -/
def Matched {α β : Type} (related : α → β → Prop) (items : List α) (others : List β) : Prop :=
  (∀ item ∈ items, ∃ other ∈ others, related item other) ∧
    ∀ other ∈ others, ∃ item ∈ items, related item other

theorem matched_of_map {α β γ : Type} {related : β → γ → Prop} {render : α → β}
    {renderOther : α → γ} {items others : List α}
    (matched : Matched related (items.map render) (others.map renderOther)) :
    Matched (fun item other => item ∈ items ∧ other ∈ others ∧
      related (render item) (renderOther other)) items others := by
  obtain ⟨each, every⟩ := matched
  constructor
  · intro item present
    obtain ⟨_, among, alike⟩ := each _ (List.mem_map_of_mem present)
    obtain ⟨other, inOthers, rfl⟩ := List.mem_map.mp among
    exact ⟨other, inOthers, present, inOthers, alike⟩
  · intro other present
    obtain ⟨_, among, alike⟩ := every _ (List.mem_map_of_mem present)
    obtain ⟨item, inItems, rfl⟩ := List.mem_map.mp among
    exact ⟨item, inItems, inItems, present, alike⟩

theorem Matched.imp {α β : Type} {related weaker : α → β → Prop} {items : List α}
    {others : List β} (matched : Matched related items others)
    (implied : ∀ item other, related item other → weaker item other) :
    Matched weaker items others := by
  obtain ⟨each, every⟩ := matched
  constructor
  · intro item present
    obtain ⟨other, among, alike⟩ := each item present
    exact ⟨other, among, implied _ _ alike⟩
  · intro other present
    obtain ⟨item, among, alike⟩ := every other present
    exact ⟨item, among, implied _ _ alike⟩

/-! ### Trees -/

namespace TypeTree

/-- The same type up to the spelling of class names, with the lists of members read as sets. A tree
that is no union is its own only member, as it is where a union of its variants stands for it. -/
inductive Variant : TypeTree → TypeTree → Prop
  | scalar (kind : Scalar) : Variant (.scalar kind) (.scalar kind)
  | object {name other : String} {arguments others : List TypeTree}
      (sameClass : ClassKey.of name = ClassKey.of other)
      (equallyMany : arguments.length = others.length)
      (positions : ∀ pair ∈ arguments.zip others, Variant pair.1 pair.2) :
      Variant (.object name arguments) (.object other others)
  | iterable {key value other item : TypeTree} (keys : Variant key other)
      (values : Variant value item) : Variant (.iterable key value) (.iterable other item)
  | array {key value other item : TypeTree} (keys : Variant key other)
      (values : Variant value item) : Variant (.array key value) (.array other item)
  | union {tree other : TypeTree} (into onto : TypeTree → TypeTree)
      (intoMember : ∀ member ∈ tree.unionMembers, into member ∈ other.unionMembers)
      (intoVariant : ∀ member ∈ tree.unionMembers, Variant member (into member))
      (ontoMember : ∀ member ∈ other.unionMembers, onto member ∈ tree.unionMembers)
      (ontoVariant : ∀ member ∈ other.unionMembers, Variant (onto member) member) :
      Variant tree other
  | intersection {tree other : TypeTree} (whole : tree.unionMembers = [tree])
      (otherWhole : other.unionMembers = [other]) (into onto : TypeTree → TypeTree)
      (intoMember : ∀ member ∈ tree.intersectionMembers,
        into member ∈ other.intersectionMembers)
      (intoVariant : ∀ member ∈ tree.intersectionMembers, Variant member (into member))
      (ontoMember : ∀ member ∈ other.intersectionMembers,
        onto member ∈ tree.intersectionMembers)
      (ontoVariant : ∀ member ∈ other.intersectionMembers, Variant (onto member) member) :
      Variant tree other

variable {tree other : TypeTree}

theorem matched_of_functions {items others : List TypeTree} {into onto : TypeTree → TypeTree}
    (intoMember : ∀ item ∈ items, into item ∈ others)
    (intoVariant : ∀ item ∈ items, Variant item (into item))
    (ontoMember : ∀ item ∈ others, onto item ∈ items)
    (ontoVariant : ∀ item ∈ others, Variant (onto item) item) : Matched Variant items others :=
  ⟨fun item present => ⟨into item, intoMember item present, intoVariant item present⟩,
    fun item present => ⟨onto item, ontoMember item present, ontoVariant item present⟩⟩

theorem matched_single {item another : TypeTree} (variant : Variant item another) :
    Matched Variant [item] [another] := by
  constructor
  · intro one present
    rw [List.mem_singleton.mp present]
    exact ⟨another, List.mem_singleton_self _, variant⟩
  · intro one present
    rw [List.mem_singleton.mp present]
    exact ⟨item, List.mem_singleton_self _, variant⟩

theorem Variant.of_unionMembers (matched : Matched Variant tree.unionMembers other.unionMembers) :
    Variant tree other := by
  classical
  obtain ⟨each, every⟩ := matched
  choose! into intoMember intoVariant using each
  choose! onto ontoMember ontoVariant using every
  exact .union into onto intoMember intoVariant ontoMember ontoVariant

theorem Variant.of_intersectionMembers (whole : tree.unionMembers = [tree])
    (otherWhole : other.unionMembers = [other])
    (matched : Matched Variant tree.intersectionMembers other.intersectionMembers) :
    Variant tree other := by
  classical
  obtain ⟨each, every⟩ := matched
  choose! into intoMember intoVariant using each
  choose! onto ontoMember ontoVariant using every
  exact .intersection whole otherWhole into onto intoMember intoVariant ontoMember ontoVariant

theorem Variant.unionMembers (variant : Variant tree other) :
    Matched Variant tree.unionMembers other.unionMembers := by
  cases variant with
  | union into onto intoMember intoVariant ontoMember ontoVariant =>
      exact matched_of_functions intoMember intoVariant ontoMember ontoVariant
  | intersection whole otherWhole into onto intoMember intoVariant ontoMember ontoVariant =>
      rw [whole, otherWhole]
      exact matched_single
        (.intersection whole otherWhole into onto intoMember intoVariant ontoMember ontoVariant)
  | scalar kind => exact matched_single (.scalar kind)
  | object sameClass equallyMany positions =>
      exact matched_single (.object sameClass equallyMany positions)
  | iterable keys values => exact matched_single (.iterable keys values)
  | array keys values => exact matched_single (.array keys values)

theorem into_whole {items others : List TypeTree} (whole : items = [tree])
    (otherWhole : others = [other]) {into : TypeTree → TypeTree}
    (intoMember : ∀ member ∈ items, into member ∈ others) : tree ∈ items ∧ into tree = other := by
  subst whole otherWhole
  have present := intoMember tree (List.mem_singleton_self tree)
  exact ⟨List.mem_singleton_self tree, List.mem_singleton.mp present⟩

theorem Variant.intersectionMembers (variant : Variant tree other)
    (whole : tree.unionMembers = [tree]) (otherWhole : other.unionMembers = [other]) :
    Matched Variant tree.intersectionMembers other.intersectionMembers := by
  induction variant with
  | union into onto intoMember intoVariant ontoMember ontoVariant ih =>
      obtain ⟨present, same⟩ := into_whole whole otherWhole intoMember
      have matched := ih _ present whole
      rw [same] at matched
      exact matched otherWhole
  | intersection _ _ into onto intoMember intoVariant ontoMember ontoVariant =>
      exact matched_of_functions intoMember intoVariant ontoMember ontoVariant
  | scalar kind => exact matched_single (.scalar kind)
  | object sameClass equallyMany positions =>
      exact matched_single (.object sameClass equallyMany positions)
  | iterable keys values => exact matched_single (.iterable keys values)
  | array keys values => exact matched_single (.array keys values)

end TypeTree

/-! ### Shapes -/

/-- Two shapes of the same kind and of one class, neither a union nor an intersection, whose parts
are related one by one. -/
inductive Shape.Respelled (related : TypeId → TypeId → Prop) : Shape → Shape → Prop
  | scalar (kind : Scalar) : Respelled related (.scalar kind) (.scalar kind)
  | object {name other : String} {arguments others : List TypeId}
      (sameClass : ClassKey.of name = ClassKey.of other)
      (parts : List.Forall₂ related arguments others) :
      Respelled related (.object name arguments) (.object other others)
  | iterable {key value other item : TypeId} (keys : related key other)
      (values : related value item) : Respelled related (.iterable key value) (.iterable other item)
  | array {key value other item : TypeId} (keys : related key other)
      (values : related value item) : Respelled related (.array key value) (.array other item)

namespace Shape

variable {render : TypeId → TypeTree} {shape other : Shape}

theorem Respelled.imp {related weaker : TypeId → TypeId → Prop}
    (alike : shape.Respelled related other)
    (implied : ∀ part item, related part item → weaker part item) :
    shape.Respelled weaker other := by
  cases alike with
  | scalar kind => exact .scalar kind
  | object sameClass parts => exact .object sameClass (parts.imp implied)
  | iterable keys values => exact .iterable (implied _ _ keys) (implied _ _ values)
  | array keys values => exact .array (implied _ _ keys) (implied _ _ values)

theorem unionMembers_unfold (undivided : shape.members? = none) :
    (shape.unfold render).unionMembers = [shape.unfold render] := by
  cases shape <;> first | rfl | cases undivided

theorem intersectionMembers_unfold (undivided : shape.members? = none) :
    (shape.unfold render).intersectionMembers = [shape.unfold render] := by
  cases shape <;> first | rfl | cases undivided

/-- Shapes that unfold to variants differ in the spelling of their classes and in variants for
parts. -/
theorem respelled_of_variant {tree another : TypeTree} (variant : tree.Variant another)
    (isTree : shape.unfold render = tree) (isOther : other.unfold render = another)
    (undivided : shape.members? = none) (otherUndivided : other.members? = none) :
    shape.Respelled (fun part item => part ∈ shape.parts ∧ item ∈ other.parts ∧
      (render part).Variant (render item)) other := by
  induction variant with
  | union into onto intoMember intoVariant ontoMember ontoVariant ih =>
      subst isTree isOther
      obtain ⟨present, same⟩ := TypeTree.into_whole (unionMembers_unfold undivided)
        (unionMembers_unfold otherUndivided) intoMember
      exact ih _ present rfl same.symm
  | intersection _ _ into onto intoMember intoVariant ontoMember ontoVariant ih =>
      subst isTree isOther
      obtain ⟨present, same⟩ := TypeTree.into_whole (intersectionMembers_unfold undivided)
        (intersectionMembers_unfold otherUndivided) intoMember
      exact ih _ present rfl same.symm
  | scalar kind =>
      cases shape <;> cases isTree
      cases other <;> cases isOther
      exact .scalar kind
  | object sameClass equallyMany positions =>
      cases shape <;> cases isTree
      cases other <;> cases isOther
      rename_i arguments _ others
      refine .object sameClass (List.forall₂_iff_zip.mpr ⟨by simpa using equallyMany, ?_⟩)
      intro part item present
      obtain ⟨inArguments, inOthers⟩ := List.of_mem_zip present
      refine ⟨inArguments, inOthers, positions (render part, render item) ?_⟩
      rw [List.zip_map]
      exact List.mem_map_of_mem present
  | iterable keys values =>
      cases shape <;> cases isTree
      cases other <;> cases isOther
      exact .iterable ⟨by simp [parts], by simp [parts], keys⟩
        ⟨by simp [parts], by simp [parts], values⟩
  | array keys values =>
      cases shape <;> cases isTree
      cases other <;> cases isOther
      exact .array ⟨by simp [parts], by simp [parts], keys⟩
        ⟨by simp [parts], by simp [parts], values⟩

end Shape

end AssociationCheck
