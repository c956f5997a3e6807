/-
The subtype relation and texts depend on trees.

Two canonical stores may number the same types differently. Types with the same tree in both have
the same class, the same kind and parts with the same trees, so the relation answers alike and the
texts are the same, whatever else the stores hold and in whichever order it came.
-/

import AssociationCheck.Proofs.Types.Canonical
import AssociationCheck.Subtype

namespace AssociationCheck

/-! ### Questions asked twice -/

namespace Answer

variable {α β : Type} {ask : α → Answer} {other : β → Answer} {questions : List α}
  {others : List β}
  (same : List.Forall₂ (fun question another => ask question = other another) questions others)
include same

theorem allOf_congr : allOf ask questions = allOf other others := by
  induction same with
  | nil => rfl
  | cons head _ ih => simp only [allOf, head, ih]

theorem anyOf_congr : anyOf ask questions = anyOf other others := by
  induction same with
  | nil => rfl
  | cons head _ ih => simp only [anyOf, head, ih]

theorem agreement_congr : agreement ask questions = agreement other others := by
  have answers : questions.map ask = others.map other := by
    induction same with
    | nil => rfl
    | cons head _ ih => rw [List.map_cons, List.map_cons, head, ih]
  simp only [agreement, answers]

end Answer

namespace TypeStore

/-- Types of two stores with the same tree. -/
structure Agree (first second : TypeStore) (id other : TypeId) : Prop where
  known : first.Contains id
  otherKnown : second.Contains other
  tree : first.tree id = second.tree other

variable {first second : TypeStore} {id other source target sourceOther targetOther : TypeId}

/-! ### Types that agree -/

theorem agree_scalar (firstCanonical : first.Canonical) (secondCanonical : second.Canonical)
    (kind : Scalar) : first.Agree second kind.id kind.id :=
  ⟨contains_scalar firstCanonical.standard kind, contains_scalar secondCanonical.standard kind,
    (firstCanonical.tree_scalar kind).trans (secondCanonical.tree_scalar kind).symm⟩

theorem Canonical.agree_later {store : TypeStore} (canonical : store.Canonical)
    (known : store.Contains id) (toFirst : store.ContinuesTo first)
    (toSecond : store.ContinuesTo second) : first.Agree second id id where
  known := toFirst.grows.contains known
  otherKnown := toSecond.grows.contains known
  tree := (canonical.tree_later toFirst.grows known).trans
    (canonical.tree_later toSecond.grows known).symm

theorem Agree.eq_iff (firstCanonical : first.Canonical) (secondCanonical : second.Canonical)
    (sources : first.Agree second source sourceOther)
    (targets : first.Agree second target targetOther) :
    source = target ↔ sourceOther = targetOther := by
  rw [← firstCanonical.tree_eq_iff sources.known targets.known, sources.tree, targets.tree,
    secondCanonical.tree_eq_iff sources.otherKnown targets.otherKnown]

theorem Agree.shapes (firstCanonical : first.Canonical) (secondCanonical : second.Canonical)
    (agree : first.Agree second id other) :
    ∃ shape otherShape, first.lookup id = some shape ∧ second.lookup other = some otherShape ∧
      shape.Alike (first.Agree second) otherShape := by
  obtain ⟨shape, found⟩ := exists_lookup agree.known
  obtain ⟨otherShape, otherFound⟩ := exists_lookup agree.otherKnown
  have same : shape.unfold first.tree = otherShape.unfold second.tree := by
    rw [← firstCanonical.tree_of_lookup found, ← secondCanonical.tree_of_lookup otherFound]
    exact agree.tree
  refine ⟨shape, otherShape, found, otherFound, (Shape.alike_of_unfold_eq same).imp ?_⟩
  rintro part item ⟨present, among, tree⟩
  exact ⟨firstCanonical.contains_part found present,
    secondCanonical.contains_part otherFound among, tree⟩

end TypeStore

/-! ### One level of the relation -/

namespace Hierarchy

variable (hierarchy : Hierarchy) {first firstOther second secondOther : String}
  (sameFirst : ClassKey.of first = ClassKey.of firstOther)
include sameFirst

/-- What is known of a class does not depend on the spelling of its name. -/
theorem facts_congr :
    hierarchy.isInterface first = hierarchy.isInterface firstOther ∧
      hierarchy.isFinal first = hierarchy.isFinal firstOther ∧
      hierarchy.isTraversable first = hierarchy.isTraversable firstOther := by
  simp only [isInterface, isFinal, isTraversable, isSameOrDerived, sameClass, isDerivedFrom, get?,
    sameFirst, and_self]

theorem relations_congr (sameSecond : ClassKey.of second = ClassKey.of secondOther) :
    sameClass first second = sameClass firstOther secondOther ∧
      hierarchy.isDerivedFrom first second = hierarchy.isDerivedFrom firstOther secondOther ∧
      hierarchy.mayShareInstances first second =
        hierarchy.mayShareInstances firstOther secondOther := by
  have firstFacts := hierarchy.facts_congr sameFirst
  have secondFacts := hierarchy.facts_congr sameSecond
  simp only [mayShareInstances, isSameOrDerived, sameClass, isDerivedFrom, firstFacts, secondFacts,
    sameFirst, sameSecond, and_self]

end Hierarchy

namespace Subtype

open TypeStore

variable {ask askOther : TypePair → Answer} {hierarchy : Hierarchy}

section Rules

variable {sourceRelated targetRelated : TypeId → TypeId → Prop}

theorem argumentPairs_related (mixed : sourceRelated .mixed .mixed)
    {sources sourcesOther targets targetsOther : List TypeId}
    (sourcesAlike : List.Forall₂ sourceRelated sources sourcesOther)
    (targetsAlike : List.Forall₂ targetRelated targets targetsOther) :
    List.Forall₂ (fun pair other => sourceRelated pair.1 other.1 ∧ targetRelated pair.2 other.2)
      (argumentPairs sources targets) (argumentPairs sourcesOther targetsOther) := by
  induction targetsAlike generalizing sources sourcesOther with
  | nil =>
      cases sourcesAlike <;> exact .nil
  | cons target _ ih =>
      cases sourcesAlike with
      | nil => exact .cons ⟨mixed, target⟩ (ih .nil)
      | cons source sources => exact .cons ⟨source, target⟩ (ih sources)

theorem iteratedTypes_related (mixed : sourceRelated .mixed .mixed) {arguments others : List TypeId}
    (alike : List.Forall₂ sourceRelated arguments others) :
    sourceRelated (iteratedTypes arguments).1 (iteratedTypes others).1 ∧
      sourceRelated (iteratedTypes arguments).2 (iteratedTypes others).2 := by
  have reversed := List.forall₂_reverse_iff.mpr alike
  unfold iteratedTypes
  revert reversed
  generalize arguments.reverse = latest, others.reverse = latestOthers
  intro reversed
  cases reversed with
  | nil => exact ⟨mixed, mixed⟩
  | cons value others =>
      cases others with
      | nil => exact ⟨mixed, value⟩
      | cons key _ => exact ⟨key, value⟩

variable (asks : ∀ source other target another, sourceRelated source other →
  targetRelated target another → ask (source, target) = askOther (other, another))
include asks

theorem allOf_entryPairs_congr {sourceKey sourceValue targetKey targetValue sourceKeyOther
    sourceValueOther targetKeyOther targetValueOther : TypeId}
    (sourceKeys : sourceRelated sourceKey sourceKeyOther)
    (sourceValues : sourceRelated sourceValue sourceValueOther)
    (targetKeys : targetRelated targetKey targetKeyOther)
    (targetValues : targetRelated targetValue targetValueOther) :
    Answer.allOf ask (entryPairs sourceKey sourceValue targetKey targetValue) =
      Answer.allOf askOther
        (entryPairs sourceKeyOther sourceValueOther targetKeyOther targetValueOther) :=
  Answer.allOf_congr (.cons (asks _ _ _ _ sourceKeys targetKeys)
    (.cons (asks _ _ _ _ sourceValues targetValues) .nil))

theorem objectRule_congr (mixed : sourceRelated .mixed .mixed)
    {source sourceOther target targetOther : String}
    (sameSource : ClassKey.of source = ClassKey.of sourceOther)
    (sameTarget : ClassKey.of target = ClassKey.of targetOther)
    {sources sourcesOther targets targetsOther : List TypeId}
    (sourcesAlike : List.Forall₂ sourceRelated sources sourcesOther)
    (targetsAlike : List.Forall₂ targetRelated targets targetsOther) :
    objectRule hierarchy ask source sources target targets =
      objectRule hierarchy askOther sourceOther sourcesOther targetOther targetsOther := by
  have arguments : Answer.allOf ask (argumentPairs sources targets) =
      Answer.allOf askOther (argumentPairs sourcesOther targetsOther) :=
    Answer.allOf_congr ((argumentPairs_related mixed sourcesAlike targetsAlike).imp
      fun _ _ both => asks _ _ _ _ both.1 both.2)
  have bare : targets.isEmpty = targetsOther.isEmpty := by cases targetsAlike <;> rfl
  have classes := hierarchy.relations_congr sameSource sameTarget
  simp only [objectRule, arguments, bare, sourcesAlike.length_eq, targetsAlike.length_eq, classes]

theorem objectToIterableRule_congr (mixed : sourceRelated .mixed .mixed)
    {source sourceOther : String} (sameSource : ClassKey.of source = ClassKey.of sourceOther)
    {arguments others : List TypeId} {key value keyOther valueOther : TypeId}
    (alike : List.Forall₂ sourceRelated arguments others) (keys : targetRelated key keyOther)
    (values : targetRelated value valueOther) :
    objectToIterableRule hierarchy ask source arguments key value =
      objectToIterableRule hierarchy askOther sourceOther others keyOther valueOther := by
  have iterated := iteratedTypes_related mixed alike
  have facts := hierarchy.facts_congr sameSource
  simp only [objectToIterableRule, facts,
    allOf_entryPairs_congr asks iterated.1 iterated.2 keys values]

end Rules

variable {first second : TypeStore}

def PairsAgree (first second : TypeStore) (pair other : TypePair) : Prop :=
  first.Agree second pair.1 other.1 ∧ first.Agree second pair.2 other.2

section OneLevel

variable (firstCanonical : first.Canonical) (secondCanonical : second.Canonical)
  (asks : ∀ pair other, PairsAgree first second pair other → ask pair = askOther other)

variable (hierarchy) in
include firstCanonical secondCanonical asks in
theorem atomicRule_congr {source sourceOther target targetOther : Shape}
    (sources : source.Alike (first.Agree second) sourceOther)
    (targets : target.Alike (first.Agree second) targetOther) :
    atomicRule hierarchy ask source target =
      atomicRule hierarchy askOther sourceOther targetOther := by
  have mixed := agree_scalar firstCanonical secondCanonical .mixed
  have asks (source other target another : TypeId) (sources : first.Agree second source other)
      (targets : first.Agree second target another) :
      ask (source, target) = askOther (other, another) :=
    asks (source, target) (other, another) ⟨sources, targets⟩
  cases sources with
  | object name arguments =>
      cases targets with
      | object other others => exact objectRule_congr asks mixed rfl rfl arguments others
      | iterable keys values =>
          exact objectToIterableRule_congr asks mixed rfl arguments keys values
      | _ => rfl
  | iterable sourceKeys sourceValues =>
      cases targets with
      | iterable keys values =>
          exact allOf_entryPairs_congr asks sourceKeys sourceValues keys values
      | array keys values =>
          simp only [atomicRule,
            allOf_entryPairs_congr asks sourceKeys sourceValues keys values]
      | _ => rfl
  | array sourceKeys sourceValues =>
      cases targets with
      | iterable keys values =>
          exact allOf_entryPairs_congr asks sourceKeys sourceValues keys values
      | array keys values =>
          exact allOf_entryPairs_congr asks sourceKeys sourceValues keys values
      | _ => rfl
  | _ => cases targets <;> rfl

variable (hierarchy) in
include firstCanonical secondCanonical asks in
theorem shapeRule_congr {pair other : TypePair} (pairs : PairsAgree first second pair other)
    {source sourceOther target targetOther : Shape}
    (sources : source.Alike (first.Agree second) sourceOther)
    (targets : target.Alike (first.Agree second) targetOther) :
    shapeRule hierarchy ask pair source target =
      shapeRule hierarchy askOther other sourceOther targetOther := by
  have toTarget {members others : List TypeId}
      (agree : List.Forall₂ (first.Agree second) members others) :
      List.Forall₂ (fun member item => ask (member, pair.2) = askOther (item, other.2)) members
        others :=
    agree.imp (fun member item both => asks (member, pair.2) (item, other.2) ⟨both, pairs.2⟩)
  have fromSource {members others : List TypeId}
      (agree : List.Forall₂ (first.Agree second) members others) :
      List.Forall₂ (fun member item => ask (pair.1, member) = askOther (other.1, item)) members
        others :=
    agree.imp (fun member item both => asks (pair.1, member) (other.1, item) ⟨pairs.1, both⟩)
  have atomic := atomicRule_congr hierarchy firstCanonical secondCanonical asks
    sources targets
  cases sources with
  | union parts => exact Answer.agreement_congr (toTarget parts)
  | intersection parts =>
      cases targets with
      | union targets => exact Answer.anyOf_congr (fromSource targets)
      | intersection targets => exact Answer.allOf_congr (fromSource targets)
      | _ => exact Answer.anyOf_congr (toTarget parts)
  | _ =>
      cases targets with
      | union targets => exact Answer.anyOf_congr (fromSource targets)
      | intersection targets => exact Answer.allOf_congr (fromSource targets)
      | _ => exact atomic

include firstCanonical secondCanonical asks in
theorem step_congr {pair other : TypePair} (pairs : PairsAgree first second pair other) :
    step first hierarchy ask pair = step second hierarchy askOther other := by
  obtain ⟨source, target⟩ := pair
  obtain ⟨sourceOther, targetOther⟩ := other
  obtain ⟨sources, targets⟩ := pairs
  have scalar := agree_scalar firstCanonical secondCanonical
  have same := sources.eq_iff firstCanonical secondCanonical targets
  have targetMixed := targets.eq_iff firstCanonical secondCanonical (scalar .mixed)
  have targetNever := targets.eq_iff firstCanonical secondCanonical (scalar .never)
  have sourceMixed := sources.eq_iff firstCanonical secondCanonical (scalar .mixed)
  have sourceNever := sources.eq_iff firstCanonical secondCanonical (scalar .never)
  obtain ⟨sourceShape, sourceShapeOther, found, foundOther, sourceAlike⟩ :=
    sources.shapes firstCanonical secondCanonical
  obtain ⟨targetShape, targetShapeOther, targetFound, targetFoundOther, targetAlike⟩ :=
    targets.shapes firstCanonical secondCanonical
  have pairs : PairsAgree first second (source, target) (sourceOther, targetOther) :=
    ⟨sources, targets⟩
  have rule :=
    shapeRule_congr hierarchy firstCanonical secondCanonical asks pairs sourceAlike targetAlike
  simp only [Scalar.id] at targetMixed targetNever sourceMixed sourceNever
  simp only [step, same, targetMixed, targetNever, sourceMixed, sourceNever, found, foundOther,
    targetFound, targetFoundOther, rule]

end OneLevel

/-- Pairs that agree get the same answer, down to any number of levels. -/
theorem within_congr (firstCanonical : first.Canonical) (secondCanonical : second.Canonical)
    (levels : Nat) {pair other : TypePair} (pairs : PairsAgree first second pair other) :
    within first hierarchy levels pair = within second hierarchy levels other := by
  induction levels generalizing pair other with
  | zero => rfl
  | succ levels ih =>
      exact step_congr firstCanonical secondCanonical (fun _ _ => ih) pairs

end Subtype

namespace TypeStore

variable {first second : TypeStore} {id other source target sourceOther targetOther : TypeId}

theorem Agree.fromLevel_eq (hierarchy : Hierarchy) (firstCanonical : first.Canonical)
    (secondCanonical : second.Canonical) (level : Nat)
    (sources : first.Agree second source sourceOther)
    (targets : first.Agree second target targetOther) :
    Subtype.fromLevel first hierarchy level source target =
      Subtype.fromLevel second hierarchy level sourceOther targetOther := by
  have pairs : Subtype.PairsAgree first second (source, target) (sourceOther, targetOther) :=
    ⟨sources, targets⟩
  exact Subtype.within_congr firstCanonical secondCanonical _ pairs

theorem Agree.relate_eq (hierarchy : Hierarchy) (firstCanonical : first.Canonical)
    (secondCanonical : second.Canonical) (sources : first.Agree second source sourceOther)
    (targets : first.Agree second target targetOther) :
    relate first hierarchy source target = relate second hierarchy sourceOther targetOther :=
  sources.fromLevel_eq hierarchy firstCanonical secondCanonical 0 targets

/-! ### Texts -/

theorem Agree.isComposite_eq (firstCanonical : first.Canonical)
    (secondCanonical : second.Canonical) (agree : first.Agree second id other) :
    first.isComposite id = second.isComposite other := by
  obtain ⟨shape, otherShape, found, otherFound, alike⟩ :=
    agree.shapes firstCanonical secondCanonical
  rw [isComposite, isComposite, found, otherFound]
  cases alike <;> rfl

theorem map_eq_of_forall₂ {α β γ : Type} {related : α → β → Prop} {render : α → γ}
    {renderOther : β → γ} {items : List α} {others : List β}
    (alike : List.Forall₂ related items others)
    (same : ∀ item other, related item other → render item = renderOther other) :
    items.map render = others.map renderOther := by
  induction alike with
  | nil => rfl
  | cons head _ ih => rw [List.map_cons, List.map_cons, same _ _ head, ih]

theorem Agree.textWithin_eq (firstCanonical : first.Canonical)
    (secondCanonical : second.Canonical) (levels : Nat) (agree : first.Agree second id other) :
    first.textWithin levels id = second.textWithin levels other := by
  induction levels generalizing id other with
  | zero => rfl
  | succ levels ih =>
      have mixed (part item : TypeId) (parts : first.Agree second part item) :
          part = .mixed ↔ item = .mixed :=
        parts.eq_iff firstCanonical secondCanonical
          (agree_scalar firstCanonical secondCanonical .mixed)
      have member (part item : TypeId) (parts : first.Agree second part item) :
          (if first.isComposite part then "(" ++ first.textWithin levels part ++ ")"
            else first.textWithin levels part) =
          (if second.isComposite item then "(" ++ second.textWithin levels item ++ ")"
            else second.textWithin levels item) := by
        rw [parts.isComposite_eq firstCanonical secondCanonical, ih parts]
      obtain ⟨shape, otherShape, found, otherFound, alike⟩ :=
        agree.shapes firstCanonical secondCanonical
      simp only [textWithin, found, otherFound]
      cases alike with
      | scalar kind => rfl
      | object name parts =>
          have texts := map_eq_of_forall₂ parts (fun _ _ => ih)
          have bare := parts.length_eq
          simp only [texts, List.isEmpty_iff_length_eq_zero, bare]
      | iterable keys values =>
          simp only [mixed _ _ keys, mixed _ _ values, ih keys, ih values]
      | array keys values =>
          simp only [mixed _ _ keys, mixed _ _ values, ih keys, ih values]
      | union parts =>
          exact congrArg (String.intercalate "|") (map_eq_of_forall₂ parts member)
      | intersection parts =>
          exact congrArg (String.intercalate "&") (map_eq_of_forall₂ parts member)

theorem Agree.text_eq (firstCanonical : first.Canonical) (secondCanonical : second.Canonical)
    (agree : first.Agree second id other) : first.text id = second.text other :=
  agree.textWithin_eq firstCanonical secondCanonical textLevels

end TypeStore

end AssociationCheck
