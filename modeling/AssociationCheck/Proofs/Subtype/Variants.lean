/-
The relation on variants of types.

Neither the spelling of class names nor the order or repetition of members changes an answer, as
long as no union stands among the members of an intersection. The identifiers of variants differ,
so where two identifiers are one the answer has to be found again by the rules.
-/

import AssociationCheck.Proofs.Rule.History
import AssociationCheck.Proofs.Subtype.Settled
import AssociationCheck.Proofs.Subtype.Trees
import AssociationCheck.Proofs.Subtype.Unlimited
import AssociationCheck.Proofs.Types.Variants

namespace AssociationCheck

theorem Verdict.Combines.congr_matched {α β : Type} {combine : List Verdict → Verdict}
    (combines : Combines combine) {judged : α → Verdict} {judgedOther : β → Verdict}
    {items : List α} {others : List β}
    (matched : Matched (fun item other => judged item = judgedOther other) items others) :
    combine (items.map judged) = combine (others.map judgedOther) := by
  obtain ⟨each, every⟩ := matched
  apply combines.congr
  intro verdict
  rw [List.mem_map, List.mem_map]
  constructor
  · intro ⟨item, present, same⟩
    obtain ⟨other, among, alike⟩ := each item present
    exact ⟨other, among, alike.symm.trans same⟩
  · intro ⟨other, present, same⟩
    obtain ⟨item, among, alike⟩ := every other present
    exact ⟨item, among, alike.trans same⟩

namespace TypeStore

variable {store : TypeStore} {id other part member : TypeId} {shape : Shape}

/-! ### No union in an intersection -/

/-- Nowhere in a type a union is a direct member of an intersection. -/
def MeetsNoUnion (store : TypeStore) (id : TypeId) : Prop :=
  ∀ whole members, store.HasPart id whole → store.lookup whole = some (.intersection members) →
    ∀ member ∈ members, ∀ options, store.lookup member ≠ some (.union options)

theorem MeetsNoUnion.of_part (single : store.MeetsNoUnion id)
    (found : store.lookup id = some shape) (present : part ∈ shape.parts) :
    store.MeetsNoUnion part :=
  fun whole members inside => single whole members (.head ⟨shape, found, present⟩ inside)

theorem MeetsNoUnion.of_store
    (single : ∀ shape ∈ store.shapes, ∀ member ∈ (shape.intersectionMembers?).getD [],
      (store.lookup member).bind Shape.unionMembers? = none) (id : TypeId) :
    store.MeetsNoUnion id := by
  intro whole members _ found member present options isUnion
  have stored : Shape.intersection members ∈ store.shapes := Array.mem_of_getElem? found
  have noUnion := single _ stored member present
  rw [isUnion] at noUnion
  cases noUnion

theorem meetsNoUnion_scalar (standard : initial.GrowsTo store) (kind : Scalar) :
    store.MeetsNoUnion kind.id := by
  intro whole members inside found
  rcases inside.cases_head with same | ⟨next, ⟨shape, atTop, present⟩, _⟩
  · rw [← same, lookup_scalar standard kind] at found
    cases found
  · rw [← lookup_unique (lookup_scalar standard kind) atTop] at present
    cases present

theorem MeetsNoUnion.of_unionMembers (single : store.MeetsNoUnion id)
    (present : member ∈ store.unionMembers id) : store.MeetsNoUnion member := by
  rw [unionMembers] at present
  split at present
  · rename_i members found
    exact single.of_part found present
  · rw [List.mem_singleton.mp present]
    exact single

theorem MeetsNoUnion.of_intersectionMembers (single : store.MeetsNoUnion id)
    (present : member ∈ store.intersectionMembers id) : store.MeetsNoUnion member := by
  rw [intersectionMembers] at present
  split at present
  · rename_i members found
    exact single.of_part found present
  · rw [List.mem_singleton.mp present]
    exact single

/-! ### Types that are variants -/

def IsWhole (store : TypeStore) (id : TypeId) : Prop :=
  (store.lookup id).bind Shape.unionMembers? = none

def IsUndivided (store : TypeStore) (id : TypeId) : Prop :=
  (store.lookup id).bind Shape.members? = none

/-- Types whose trees are variants, without unions in intersections. -/
structure Variants (store : TypeStore) (id other : TypeId) : Prop where
  known : store.Contains id
  otherKnown : store.Contains other
  single : store.MeetsNoUnion id
  otherSingle : store.MeetsNoUnion other
  variant : (store.tree id).Variant (store.tree other)

theorem Canonical.variants_scalar (canonical : store.Canonical) (kind : Scalar) :
    store.Variants kind.id kind.id := by
  have known := contains_scalar canonical.standard kind
  have single := meetsNoUnion_scalar canonical.standard kind
  refine ⟨known, known, single, single, ?_⟩
  rw [canonical.tree_scalar kind]
  exact .scalar kind

theorem Canonical.option_facts (canonical : store.Canonical) (known : store.Contains id)
    (present : member ∈ store.unionMembers id) :
    member.index ≤ id.index ∧ store.IsWhole member := by
  obtain ⟨shape, found⟩ := exists_lookup known
  rw [unionMembers, found] at present
  cases shape with
  | union members =>
      have earlier := canonical.earlier found member present
      exact ⟨Nat.le_of_lt earlier, (canonical.normal found).2 member present⟩
  | _ =>
      rw [List.mem_singleton.mp present, IsWhole, found]
      exact ⟨Nat.le_refl _, rfl⟩

theorem Canonical.demand_facts (canonical : store.Canonical) (known : store.Contains id)
    (single : store.MeetsNoUnion id) (whole : store.IsWhole id)
    (present : member ∈ store.intersectionMembers id) :
    member.index ≤ id.index ∧ store.IsUndivided member := by
  obtain ⟨shape, found⟩ := exists_lookup known
  rw [IsWhole, found] at whole
  rw [intersectionMembers, found] at present
  cases shape with
  | union members => cases whole
  | intersection members =>
      have earlier := canonical.earlier found member present
      have demand := (canonical.normal found).2 member present
      have option := single id members .refl found member present
      refine ⟨Nat.le_of_lt earlier, ?_⟩
      obtain ⟨inner, memberFound⟩ := exists_lookup (canonical.contains_part found present)
      rw [IsUndivided, memberFound]
      rw [memberFound] at demand
      cases inner with
      | union options => exact absurd memberFound (option options)
      | intersection members => cases demand
      | _ => rfl
  | _ =>
      rw [List.mem_singleton.mp present, IsUndivided, found]
      exact ⟨Nat.le_refl _, rfl⟩

section

variable (canonical : store.Canonical) (variants : store.Variants id other)
include canonical variants

theorem Variants.options :
    Matched (fun member item => store.Variants member item ∧ member.index ≤ id.index ∧
      store.IsWhole member ∧ store.IsWhole item) (store.unionMembers id)
      (store.unionMembers other) := by
  have matched := variants.variant.unionMembers
  rw [canonical.unionMembers_tree variants.known,
    canonical.unionMembers_tree variants.otherKnown] at matched
  refine (matched_of_map matched).imp fun member item ⟨present, among, variant⟩ => ?_
  obtain ⟨earlier, whole⟩ := canonical.option_facts variants.known present
  exact ⟨⟨canonical.mem_unionMembers variants.known present,
    canonical.mem_unionMembers variants.otherKnown among, variants.single.of_unionMembers present,
    variants.otherSingle.of_unionMembers among, variant⟩, earlier, whole,
    (canonical.option_facts variants.otherKnown among).2⟩

theorem Variants.demands (whole : store.IsWhole id) (otherWhole : store.IsWhole other) :
    Matched (fun member item => store.Variants member item ∧ member.index ≤ id.index ∧
      store.IsUndivided member ∧ store.IsUndivided item) (store.intersectionMembers id)
      (store.intersectionMembers other) := by
  have matched := variants.variant.intersectionMembers
    (canonical.unionMembers_of_whole variants.known whole)
    (canonical.unionMembers_of_whole variants.otherKnown otherWhole)
  rw [canonical.intersectionMembers_tree variants.known,
    canonical.intersectionMembers_tree variants.otherKnown] at matched
  refine (matched_of_map matched).imp fun member item ⟨present, among, variant⟩ => ?_
  obtain ⟨earlier, undivided⟩ :=
    canonical.demand_facts variants.known variants.single whole present
  have otherUndivided :=
    (canonical.demand_facts variants.otherKnown variants.otherSingle otherWhole among).2
  exact ⟨⟨canonical.mem_intersectionMembers variants.known present,
    canonical.mem_intersectionMembers variants.otherKnown among,
    variants.single.of_intersectionMembers present,
    variants.otherSingle.of_intersectionMembers among, variant⟩, earlier, undivided,
    otherUndivided⟩

theorem Variants.shapes (undivided : store.IsUndivided id)
    (otherUndivided : store.IsUndivided other) :
    ∃ shape another, store.lookup id = some shape ∧ store.lookup other = some another ∧
      shape.Respelled (fun part item => store.Variants part item ∧ part.index < id.index)
        another := by
  obtain ⟨shape, found⟩ := exists_lookup variants.known
  obtain ⟨another, otherFound⟩ := exists_lookup variants.otherKnown
  rw [IsUndivided, found] at undivided
  rw [IsUndivided, otherFound] at otherUndivided
  refine ⟨shape, another, found, otherFound, ?_⟩
  have alike := Shape.respelled_of_variant variants.variant (canonical.tree_of_lookup found).symm
    (canonical.tree_of_lookup otherFound).symm undivided otherUndivided
  refine alike.imp fun part item ⟨present, among, variant⟩ => ?_
  exact ⟨⟨canonical.contains_part found present, canonical.contains_part otherFound among,
    variants.single.of_part found present, variants.otherSingle.of_part otherFound among,
    variant⟩, canonical.earlier found part present⟩

end

end TypeStore

namespace Subtype

open TypeStore

variable {store : TypeStore} {hierarchy : Hierarchy} {source target : TypeId}
  {sourceShape targetShape sourceOther targetOther : Shape}

/-! ### Types without members -/

theorem atomicRule_respelled {ask askOther : TypePair → Answer}
    {sourceRelated targetRelated : TypeId → TypeId → Prop} (mixed : sourceRelated .mixed .mixed)
    (asks : ∀ source other target another, sourceRelated source other →
      targetRelated target another → ask (source, target) = askOther (other, another))
    (sources : sourceShape.Respelled sourceRelated sourceOther)
    (targets : targetShape.Respelled targetRelated targetOther) :
    atomicRule hierarchy ask sourceShape targetShape =
      atomicRule hierarchy askOther sourceOther targetOther := by
  cases sources with
  | scalar kind => cases targets <;> rfl
  | object sameSource arguments =>
      cases targets with
      | object sameTarget others =>
          exact objectRule_congr asks mixed sameSource sameTarget arguments others
      | iterable keys values =>
          exact objectToIterableRule_congr asks mixed sameSource arguments keys values
      | _ => rfl
  | iterable sourceKeys sourceValues =>
      cases targets with
      | object sameTarget others =>
          have facts := hierarchy.facts_congr sameTarget
          simp only [atomicRule, iterableToObjectRule, facts]
      | iterable keys values =>
          exact allOf_entryPairs_congr asks sourceKeys sourceValues keys values
      | array keys values =>
          simp only [atomicRule, allOf_entryPairs_congr asks sourceKeys sourceValues keys values]
      | scalar => rfl
  | array sourceKeys sourceValues =>
      cases targets with
      | iterable keys values =>
          exact allOf_entryPairs_congr asks sourceKeys sourceValues keys values
      | array keys values =>
          exact allOf_entryPairs_congr asks sourceKeys sourceValues keys values
      | _ => rfl

theorem atomicRule_self {ask : TypePair → Answer} (self : ∀ id, Accepted ask id id)
    (atomic : IsAtomic sourceShape) :
    (atomicRule hierarchy ask sourceShape sourceShape).verdict = .yes := by
  rw [atomicRule_yes_iff]
  cases sourceShape with
  | object name arguments =>
      refine .object (Hierarchy.isSameOrDerived_refl name) (.inr (.inr rfl)) ?_
      have pairs : List.Forall₂ (Accepted ask) arguments arguments :=
        List.forall₂_same.mpr fun argument _ => self argument
      rw [argumentPairs_eq_zip rfl]
      exact fun pair present => (List.forall₂_iff_zip.mp pairs).2 present
  | iterable key value => exact .iterableToIterable (self key) (self value)
  | array key value => exact .arrayToArray (self key) (self value)
  | scalar => cases atomic.1
  | union | intersection => cases atomic.2

theorem shapeRule_atomic {ask : TypePair → Answer} {pair : TypePair}
    (sourceUndivided : sourceShape.members? = none)
    (targetUndivided : targetShape.members? = none) :
    shapeRule hierarchy ask pair sourceShape targetShape =
      atomicRule hierarchy ask sourceShape targetShape := by
  cases sourceShape with
  | union | intersection => cases sourceUndivided
  | _ =>
      cases targetShape with
      | union | intersection => cases targetUndivided
      | _ => rfl

theorem judge_atomic (formed : store.WellFormed)
    (sourceFound : store.lookup source = some sourceShape)
    (targetFound : store.lookup target = some targetShape) (sourceAtomic : IsAtomic sourceShape)
    (targetAtomic : IsAtomic targetShape) :
    judge store hierarchy source target =
      (atomicRule hierarchy (unlimited store hierarchy) sourceShape targetShape).verdict := by
  have sourceApart (kind : Scalar) : source ≠ kind.id :=
    ne_of_lookup sourceFound (lookup_scalar formed.standard kind) (sourceAtomic.composed kind)
  have targetApart (kind : Scalar) : target ≠ kind.id :=
    ne_of_lookup targetFound (lookup_scalar formed.standard kind) (targetAtomic.composed kind)
  by_cases same : source = target
  · subst same
    rw [← lookup_unique sourceFound targetFound, judge_self formed]
    exact (atomicRule_self (judge_self formed) sourceAtomic).symm
  · rw [judge_shapes formed sourceFound targetFound same (targetApart .mixed) (sourceApart .never)
      (targetApart .never) (sourceApart .mixed), shapeRule_atomic sourceAtomic.2 targetAtomic.2]

theorem judge_scalar (formed : store.WellFormed) (found : store.lookup source = some sourceShape)
    (atomic : IsAtomic sourceShape) (kind : Scalar) :
    judge store hierarchy source kind.id = (if kind = .mixed then .yes else .no) ∧
      judge store hierarchy kind.id source =
        (if kind = .never then .yes else if kind = .mixed then .maybe else .no) := by
  have apart (other : Scalar) : source ≠ other.id :=
    ne_of_lookup found (lookup_scalar formed.standard other) (atomic.composed other)
  by_cases isMixed : kind = .mixed
  · subst isMixed
    exact ⟨judge_mixed formed source, mixed_judge formed (apart .mixed) (apart .never)⟩
  · by_cases isNever : kind = .never
    · subst isNever
      exact ⟨judge_never formed (apart .never), never_judge formed source⟩
    · have kindFound := lookup_scalar formed.standard kind
      have notTop : kind.id ≠ .mixed := by cases kind <;> simp_all [Scalar.id] <;> decide
      have notBottom : kind.id ≠ .never := by cases kind <;> simp_all [Scalar.id] <;> decide
      rw [if_neg isMixed, if_neg isNever, if_neg isMixed]
      constructor
      · rw [judge_shapes formed found kindFound (apart kind) notTop (apart .never) notBottom
          (apart .mixed), shapeRule_atomic atomic.2 rfl]
        cases sourceShape <;> rfl
      · rw [judge_shapes formed kindFound found (apart kind).symm (apart .mixed) notBottom
          (apart .never) notTop, shapeRule_atomic rfl atomic.2]
        rfl

theorem scalar_or_atomic {related : TypeId → TypeId → Prop}
    (alike : sourceShape.Respelled related sourceOther) :
    (∃ kind, sourceShape = .scalar kind ∧ sourceOther = .scalar kind) ∨
      IsAtomic sourceShape ∧ IsAtomic sourceOther := by
  cases alike with
  | scalar kind => exact .inl ⟨kind, rfl, rfl⟩
  | object => exact .inr ⟨isAtomic_object _ _, isAtomic_object _ _⟩
  | iterable => exact .inr ⟨isAtomic_iterable _ _, isAtomic_iterable _ _⟩
  | array => exact .inr ⟨isAtomic_array _ _, isAtomic_array _ _⟩

/-! ### All types -/

/-- Variants get one verdict, for types of two kinds whose identifiers add up to no more than a
bound. -/
def VariantsAgree (store : TypeStore) (hierarchy : Hierarchy) (bound : Nat)
    (sources targets : TypeId → Prop) : Prop :=
  ∀ ⦃source other target another : TypeId⦄, source.index + target.index ≤ bound →
    store.Variants source other → store.Variants target another → sources source →
    sources other → targets target → targets another →
    judge store hierarchy source target = judge store hierarchy other another

section

variable {bound : Nat} (canonical : store.Canonical)
include canonical

theorem variantsAgree_undivided
    (fewer : ∀ less < bound, VariantsAgree store hierarchy less (fun _ => True) fun _ => True) :
    VariantsAgree store hierarchy bound store.IsUndivided store.IsUndivided := by
  intro source other target another within sources targets undivided otherUndivided
    targetUndivided anotherUndivided
  have formed := canonical.toWellFormed
  have scalarId {id : TypeId} {kind : Scalar} (found : store.lookup id = some (.scalar kind)) :
      id = kind.id := canonical.unique found (lookup_scalar canonical.standard kind)
  obtain ⟨sourceShape, otherShape, found, otherFound, sourceAlike⟩ :=
    sources.shapes canonical undivided otherUndivided
  obtain ⟨targetShape, anotherShape, targetFound, anotherFound, targetAlike⟩ :=
    targets.shapes canonical targetUndivided anotherUndivided
  rcases scalar_or_atomic sourceAlike with ⟨kind, rfl, rfl⟩ | ⟨sourceAtomic, otherAtomic⟩
  · rw [scalarId found, scalarId otherFound]
    rcases scalar_or_atomic targetAlike with ⟨_, rfl, rfl⟩ | ⟨targetAtomic, anotherAtomic⟩
    · rw [scalarId targetFound, scalarId anotherFound]
    · rw [(judge_scalar formed targetFound targetAtomic kind).2,
        (judge_scalar formed anotherFound anotherAtomic kind).2]
  · rcases scalar_or_atomic targetAlike with ⟨kind, rfl, rfl⟩ | ⟨targetAtomic, anotherAtomic⟩
    · rw [scalarId targetFound, scalarId anotherFound,
        (judge_scalar formed found sourceAtomic kind).1,
        (judge_scalar formed otherFound otherAtomic kind).1]
    · -- The rule decides also where one side has equal identifiers and the other has not.
      have asks (first firstOther second secondOther : TypeId)
          (firsts : store.Variants first firstOther ∧ first.index ≤ source.index)
          (seconds : store.Variants second secondOther ∧ second.index < target.index) :
          unlimited store hierarchy (first, second) =
            unlimited store hierarchy (firstOther, secondOther) := by
        apply unlimited_eq_of_judge_eq formed
        exact fewer (first.index + second.index) (by omega) (Nat.le_refl _) firsts.1 seconds.1
          trivial trivial trivial trivial
      rw [judge_atomic formed found targetFound sourceAtomic targetAtomic,
        judge_atomic formed otherFound anotherFound otherAtomic anotherAtomic,
        atomicRule_respelled ⟨canonical.variants_scalar .mixed, Nat.zero_le _⟩ asks
          (sourceAlike.imp fun _ _ both => ⟨both.1, Nat.le_of_lt both.2⟩) targetAlike]

theorem variantsAgree_sourceDemands
    (agree : VariantsAgree store hierarchy bound store.IsUndivided store.IsUndivided) :
    VariantsAgree store hierarchy bound store.IsWhole store.IsUndivided := by
  intro source other target another within sources targets whole otherWhole undivided
    otherUndivided
  rw [judge_sourceDemands canonical sources.known targets.known undivided,
    judge_sourceDemands canonical sources.otherKnown targets.otherKnown otherUndivided]
  apply Verdict.combines_highest.congr_matched
  refine (sources.demands canonical whole otherWhole).imp
    fun member item ⟨variants, earlier, memberUndivided, itemUndivided⟩ => ?_
  exact agree (by omega) variants targets memberUndivided itemUndivided undivided otherUndivided

theorem variantsAgree_targetDemands
    (agree : VariantsAgree store hierarchy bound store.IsWhole store.IsUndivided) :
    VariantsAgree store hierarchy bound store.IsWhole store.IsWhole := by
  intro source other target another within sources targets whole otherWhole targetWhole
    anotherWhole
  rw [judge_targetDemands canonical sources.known targets.known whole fun _ present =>
      (canonical.demand_facts targets.known targets.single targetWhole present).2,
    judge_targetDemands canonical sources.otherKnown targets.otherKnown otherWhole
      fun _ present =>
        (canonical.demand_facts targets.otherKnown targets.otherSingle anotherWhole present).2]
  apply Verdict.combines_lowest.congr_matched
  refine (targets.demands canonical targetWhole anotherWhole).imp
    fun member item ⟨variants, earlier, memberUndivided, itemUndivided⟩ => ?_
  exact agree (by omega) sources variants whole otherWhole memberUndivided itemUndivided

theorem variantsAgree_targetOptions
    (agree : VariantsAgree store hierarchy bound store.IsWhole store.IsWhole) :
    VariantsAgree store hierarchy bound store.IsWhole fun _ => True := by
  intro source other target another within sources targets whole otherWhole _ _
  rw [judge_targetOptions canonical sources.known targets.known whole,
    judge_targetOptions canonical sources.otherKnown targets.otherKnown otherWhole]
  apply Verdict.combines_highest.congr_matched
  refine (targets.options canonical).imp
    fun member item ⟨variants, earlier, memberWhole, itemWhole⟩ => ?_
  exact agree (by omega) sources variants whole otherWhole memberWhole itemWhole

theorem variantsAgree_sourceOptions
    (agree : VariantsAgree store hierarchy bound store.IsWhole fun _ => True) :
    VariantsAgree store hierarchy bound (fun _ => True) fun _ => True := by
  intro source other target another within sources targets _ _ _ _
  rw [judge_sourceOptions canonical sources.known targets.known,
    judge_sourceOptions canonical sources.otherKnown targets.otherKnown]
  apply Verdict.combines_agreement.congr_matched
  refine (sources.options canonical).imp
    fun member item ⟨variants, earlier, memberWhole, itemWhole⟩ => ?_
  exact agree (by omega) variants targets memberWhole itemWhole trivial trivial

theorem variantsAgree (bound : Nat) :
    VariantsAgree store hierarchy bound (fun _ => True) fun _ => True := by
  induction bound using Nat.strongRecOn with
  | _ bound ih =>
      have undivided := variantsAgree_undivided canonical ih
      have sourceDemands := variantsAgree_sourceDemands canonical undivided
      have targetDemands := variantsAgree_targetDemands canonical sourceDemands
      exact variantsAgree_sourceOptions canonical
        (variantsAgree_targetOptions canonical targetDemands)

end

end Subtype

/-! ### Whatever the history of a store -/

variable {store : TypeStore} {returned : List TypeId}

/-- Types whose trees differ in the spelling of class names and in the order and repetition of
members alone are related alike, where neither answer meets the limit. -/
theorem Reached.relate_variants (reached : Reached store returned) (hierarchy : Hierarchy)
    {source other target another : TypeId} (sources : store.Variants source other)
    (targets : store.Variants target another)
    (unlimited : (relate store hierarchy source target).limited = false)
    (otherUnlimited : (relate store hierarchy other another).limited = false) :
    relate store hierarchy source target = relate store hierarchy other another := by
  have formed := reached.canonical.toWellFormed
  rw [← Subtype.unlimited_eq_relate formed unlimited,
    ← Subtype.unlimited_eq_relate formed otherUnlimited]
  apply Subtype.unlimited_eq_of_judge_eq formed
  exact Subtype.variantsAgree reached.canonical _ (Nat.le_refl _) sources targets trivial trivial
    trivial trivial

/-- The store after `Box&C`, `c&BOX`, `Box<A|a>|null` and `null|box<a>`. -/
def respelledStore : TypeStore where
  shapes := TypeStore.initial.shapes ++ #[.object "Box" [], .object "C" [],
    .intersection [⟨7⟩, ⟨8⟩], .object "c" [], .object "BOX" [], .intersection [⟨10⟩, ⟨11⟩],
    .object "A" [], .object "a" [], .union [⟨13⟩, ⟨14⟩], .object "Box" [⟨15⟩],
    .union [⟨16⟩, .null], .object "box" [⟨14⟩], .union [⟨18⟩, .null]]

theorem reached_respelledStore :
    Reached respelledStore [⟨19⟩, ⟨17⟩, ⟨12⟩, ⟨9⟩, .mixed, .never, .null, .int, .string, .bool,
      .float] :=
  Reached.start.runAll
    [.parse "Box&C", .parse "c&BOX", .parse "Box<A|a>|null", .parse "null|box<a>"]
    (by decide +kernel)

theorem variants_respelledStore :
    respelledStore.Variants ⟨9⟩ ⟨12⟩ ∧ respelledStore.Variants ⟨17⟩ ⟨19⟩ := by
  have boxAndC : respelledStore.tree ⟨9⟩ = .intersection [.object "Box" [], .object "C" []] := rfl
  have cAndBox : respelledStore.tree ⟨12⟩ = .intersection [.object "c" [], .object "BOX" []] := rfl
  have nullableBox : respelledStore.tree ⟨17⟩ = .union
      [.object "Box" [.union [.object "A" [], .object "a" []]], .scalar .null] := rfl
  have nullableOther : respelledStore.tree ⟨19⟩ =
      .union [.object "box" [.object "a" []], .scalar .null] := rfl
  have single (id : TypeId) : respelledStore.MeetsNoUnion id := .of_store (by decide) id
  have bare {name other : String} (same : ClassKey.of name = ClassKey.of other) :
      TypeTree.Variant (.object name []) (.object other []) :=
    .object same rfl fun _ impossible => nomatch impossible
  have demands : (respelledStore.tree ⟨9⟩).Variant (respelledStore.tree ⟨12⟩) := by
    rw [boxAndC, cAndBox]
    apply TypeTree.Variant.of_intersectionMembers rfl rfl
    constructor
    · intro member present
      rcases List.mem_pair.mp present with rfl | rfl
      · exact ⟨.object "BOX" [], List.mem_pair.mpr (.inr rfl), bare (by decide)⟩
      · exact ⟨.object "c" [], List.mem_pair.mpr (.inl rfl), bare (by decide)⟩
    · intro member present
      rcases List.mem_pair.mp present with rfl | rfl
      · exact ⟨.object "C" [], List.mem_pair.mpr (.inr rfl), bare (by decide)⟩
      · exact ⟨.object "Box" [], List.mem_pair.mpr (.inl rfl), bare (by decide)⟩
  have arguments : TypeTree.Variant (.union [.object "A" [], .object "a" []]) (.object "a" []) := by
    apply TypeTree.Variant.of_unionMembers
    constructor
    · intro member present
      refine ⟨.object "a" [], List.mem_singleton_self _, ?_⟩
      rcases List.mem_pair.mp present with rfl | rfl
      · exact bare (by decide)
      · exact bare rfl
    · intro member present
      rw [List.mem_singleton.mp present]
      exact ⟨.object "a" [], List.mem_pair.mpr (.inr rfl), bare rfl⟩
  have boxes : TypeTree.Variant (.object "Box" [.union [.object "A" [], .object "a" []]])
      (.object "box" [.object "a" []]) := by
    refine .object (by decide) rfl fun pair present => ?_
    rw [List.mem_singleton.mp present]
    exact arguments
  have options : (respelledStore.tree ⟨17⟩).Variant (respelledStore.tree ⟨19⟩) := by
    rw [nullableBox, nullableOther]
    apply TypeTree.Variant.of_unionMembers
    constructor
    · intro member present
      rcases List.mem_pair.mp present with rfl | rfl
      · exact ⟨_, List.mem_pair.mpr (.inl rfl), boxes⟩
      · exact ⟨_, List.mem_pair.mpr (.inr rfl), .scalar .null⟩
    · intro member present
      rcases List.mem_pair.mp present with rfl | rfl
      · exact ⟨_, List.mem_pair.mpr (.inl rfl), boxes⟩
      · exact ⟨_, List.mem_pair.mpr (.inr rfl), .scalar .null⟩
  exact ⟨⟨by decide, by decide, single _, single _, demands⟩,
    ⟨by decide, by decide, single _, single _, options⟩⟩

theorem relate_variants_box :
    respelledStore.Variants ⟨9⟩ ⟨12⟩ ∧ respelledStore.Variants ⟨17⟩ ⟨19⟩ ∧
      relate respelledStore .empty ⟨9⟩ ⟨17⟩ = .maybe ∧
      relate respelledStore .empty ⟨12⟩ ⟨19⟩ = .maybe := by
  obtain ⟨sources, targets⟩ := variants_respelledStore
  have answer : relate respelledStore .empty ⟨9⟩ ⟨17⟩ = .maybe := rfl
  have same := reached_respelledStore.relate_variants .empty sources targets rfl rfl
  exact ⟨sources, targets, answer, same.symm.trans answer⟩

end AssociationCheck
