/-
Unions and intersections as bounds.

A union is the least type above its members, and what is below every member of an intersection is
below the intersection. That an intersection is below its members is seen only where no union has
to be taken apart for it: the target's union comes first, and its members are asked for alone.
-/

import AssociationCheck.Proofs.Rule.History
import AssociationCheck.Proofs.Subtype.Members
import AssociationCheck.Proofs.Subtype.Transitivity

namespace AssociationCheck

namespace TypeTree

variable {hierarchy : Hierarchy} {source tree part : TypeTree} {trees : List TypeTree}

/-! ### Above the members of a union -/

theorem fits_unite_of_mem (normal : ∀ tree ∈ trees, tree.Normal) (present : tree ∈ trees) :
    tree.Fits hierarchy (unite trees) := by
  have formed := normal tree present
  rw [formed.fits_iff_of_unionMembers]
  intro member among
  by_cases isNever : member = .scalar .never
  · rw [isNever]
    exact .bottom _
  · have whole := (formed.of_mem_unionMembers among).2
    have fitsTree : member.Fits hierarchy tree :=
      (formed.fits_unionMembers_iff whole isNever).mpr ⟨member, among, .refl member⟩
    exact (fits_unite_iff normal whole isNever).mpr ⟨tree, present, fitsTree⟩

/-! ### Below the members of an intersection -/

theorem Normal.fits_of_intersectionMembers (normal : tree.Normal)
    (whole : source.unionMembers = [source])
    (each : ∀ member ∈ tree.intersectionMembers, source.Fits hierarchy member) :
    source.Fits hierarchy tree := by
  cases tree with
  | intersection members => exact (normal.fits_intersection_iff whole fun _ => each).mpr each
  | _ => exact each _ (List.mem_singleton_self _)

/-- What fits several trees fits their intersection, where none of them is one already. -/
theorem fits_meet_of_each (formed : source.Normal) (normal : ∀ tree ∈ trees, tree.Normal)
    (single : ∀ tree ∈ trees, tree.intersectionMembers = [tree])
    (each : ∀ tree ∈ trees, source.Fits hierarchy tree) : source.Fits hierarchy (meet trees) := by
  rw [formed.fits_iff_of_unionMembers]
  intro member among
  have whole := (formed.of_mem_unionMembers among).2
  have memberFits : ∀ tree ∈ trees, member.Fits hierarchy tree :=
    fun tree present => formed.fits_iff_of_unionMembers.mp (each tree present) member among
  have neverDecides : member.Fits hierarchy (.scalar .never) →
      ∀ tree, member.Fits hierarchy tree := by
    intro fits tree
    rw [fits_never_iff.mp fits]
    exact .bottom tree
  apply (Normal.meet normal).fits_of_intersectionMembers whole
  rw [forall_intersectionMembers_meet normal (.top member) neverDecides]
  intro tree present inner inside
  rw [single tree present, List.mem_singleton] at inside
  rw [inside]
  exact memberFits tree present

/-! ### An intersection and its own members -/

theorem mem_intersectionMembers_meet (normal : ∀ tree ∈ trees, tree.Normal)
    (proper : meet trees ≠ .scalar .never) (present : tree ∈ trees)
    (inside : part ∈ tree.intersectionMembers) :
    part = .scalar .mixed ∨ part ∈ (meet trees).intersectionMembers := by
  have noNever : TypeTree.scalar .never ∉ (meet trees).intersectionMembers := by
    have formed := Normal.meet normal
    intro absorbed
    cases found : meet trees with
    | intersection members =>
        rw [found] at formed absorbed
        cases formed with
        | intersection form => exact form.noBottom absorbed
    | _ =>
        rw [found] at absorbed proper
        exact proper (List.mem_singleton.mp absorbed).symm
  have neverDecides : (TypeTree.scalar .never = .scalar .mixed ∨
      .scalar .never ∈ (meet trees).intersectionMembers) →
      ∀ tree, tree = .scalar .mixed ∨ tree ∈ (meet trees).intersectionMembers := by
    intro never
    rcases never with impossible | absorbed
    · cases impossible
    · exact absurd absorbed noNever
  have all : ∀ tree ∈ trees, ∀ part ∈ tree.intersectionMembers,
      part = .scalar .mixed ∨ part ∈ (meet trees).intersectionMembers :=
    (forall_intersectionMembers_meet normal (.inl rfl) neverDecides).mp fun _ among => .inr among
  exact all tree present part inside

theorem Normal.eq_of_intersectionMembers (normal : tree.Normal)
    (only : ∀ part ∈ tree.intersectionMembers, part = .scalar .mixed ∨ part = source) :
    tree = .scalar .mixed ∨ tree = source := by
  cases normal with
  | @intersection members form whole each =>
      have same : ∀ part ∈ members, part = source := by
        intro part present
        rcases only part present with isMixed | isSource
        · exact absurd (isMixed ▸ present) form.noTop
        · exact isSource
      have repeated := List.eq_replicate_of_mem same
      have several := form.several
      have once := form.once
      rw [repeated, List.nodup_replicate] at once
      omega
  | _ => exact only _ (List.mem_singleton_self _)

/-- An intersection comes down to `never` or to a tree that it is made of, or else it has the
members of that tree, `mixed` apart, among its own. -/
theorem meet_cases (normal : ∀ tree ∈ trees, tree.Normal) (present : tree ∈ trees) :
    meet trees = .scalar .never ∨ tree = .scalar .mixed ∨ meet trees = tree ∨
      ∃ members, meet trees = .intersection members ∧
        ∀ part ∈ tree.intersectionMembers, part = .scalar .mixed ∨ part ∈ members := by
  by_cases isNever : meet trees = .scalar .never
  · exact .inl isNever
  · have inherited : ∀ part ∈ tree.intersectionMembers,
        part = .scalar .mixed ∨ part ∈ (meet trees).intersectionMembers :=
      fun part inside => mem_intersectionMembers_meet normal isNever present inside
    refine .inr ?_
    cases found : meet trees with
    | intersection members =>
        rw [found] at inherited
        exact .inr (.inr ⟨members, rfl, inherited⟩)
    | _ =>
        rw [found] at inherited
        rcases (normal tree present).eq_of_intersectionMembers
          (fun part inside => (inherited part inside).imp_right List.mem_singleton.mp) with
          isMixed | same
        · exact .inl isMixed
        · exact .inr (.inl same.symm)

theorem Normal.undivided_of_intersectionMembers (normal : tree.Normal)
    (present : part ∈ tree.intersectionMembers)
    (noUnion : ∀ options, part ≠ .union options) : part.Undivided := by
  refine ⟨?_, (normal.of_mem_intersectionMembers present).2⟩
  cases part with
  | union options => exact absurd rfl (noUnion options)
  | _ => rfl

/-- An intersection fits a tree that it is made of, provided that it fits some member of each union
that stands in the tree. -/
theorem meet_fits_of_options (normal : ∀ tree ∈ trees, tree.Normal) (present : tree ∈ trees)
    (options : ∀ options, .union options ∈ tree.intersectionMembers →
      ∃ option ∈ options, (meet trees).Fits hierarchy option) :
    (meet trees).Fits hierarchy tree := by
  have formed := normal tree present
  have formedWhole := Normal.meet normal
  rcases meet_cases normal present with isNever | isMixed | same | ⟨members, found, among⟩
  · rw [isNever]
    exact .bottom tree
  · rw [isMixed]
    exact .top _
  · rw [same]
    exact .refl tree
  · rw [found] at options formedWhole ⊢
    apply formed.fits_of_intersectionMembers rfl
    intro part inside
    rcases among part inside with isMixed | isMember
    · rw [isMixed]
      exact .top _
    · have proper : part ≠ .scalar .mixed := by
        intro isMixed
        cases formedWhole with
        | intersection form => exact form.noTop (isMixed ▸ isMember)
      by_cases isUnion : ∃ members, part = .union members
      · obtain ⟨members, rfl⟩ := isUnion
        have formedPart := (formed.of_mem_intersectionMembers inside).1
        exact (formedPart.fits_union_iff rfl (by simp)).mpr (options members inside)
      · have undivided := formed.undivided_of_intersectionMembers inside
          (fun options same => isUnion ⟨options, same⟩)
        exact (formedWhole.intersection_fits_iff undivided proper).mpr
          ⟨part, isMember, .refl part⟩

end TypeTree

/-! ### Answers about members -/

namespace Subtype

open TypeStore

variable {hierarchy : Hierarchy} {store : TypeStore} {source target : TypeId}
  {sourceShape : Shape} {members : List TypeId} {levels : Nat}

theorem relate_yes_iff_fits (canonical : store.Canonical) (sourceKnown : store.Contains source)
    (targetKnown : store.Contains target)
    (unlimited : (relate store hierarchy source target).limited = false) :
    (relate store hierarchy source target).verdict = .yes ↔
      (store.tree source).Fits hierarchy (store.tree target) := by
  constructor
  · intro yes
    exact (below_of_relate_yes yes).fits canonical sourceKnown targetKnown
  · intro fits
    exact relate_yes_of_fits canonical sourceKnown targetKnown fits unlimited

theorem Below.reason (canonical : store.Canonical)
    (sourceFound : store.lookup source = some sourceShape) {targetShape : Shape}
    (targetFound : store.lookup target = some targetShape) (divided : targetShape.members?.isSome)
    (apart : source ≠ target) (yes : Below hierarchy store (levels + 1) source target) :
    source = .never ∨
      Definite hierarchy (Below hierarchy store levels) source target sourceShape targetShape := by
  rcases (below_succ_iff ..).mp yes with
    (same | isMixed | isNever) | ⟨_, _, _, _, found, otherFound, reason⟩
  · exact absurd same apart
  · have found : store.lookup target = some (.scalar .mixed) := by
      rw [isMixed]
      exact lookup_scalar canonical.standard .mixed
    rw [lookup_unique targetFound found] at divided
    cases divided
  · exact .inl isNever
  · rw [lookup_unique sourceFound found, lookup_unique targetFound otherFound]
    exact .inr reason

theorem never_below (levels : Nat) (target : TypeId) :
    Below hierarchy store (levels + 1) .never target :=
  (below_succ_iff ..).mpr (.inl (.inr (.inr rfl)))

section

variable (canonical : store.Canonical) (sourceFound : store.lookup source = some sourceShape)
  (whole : sourceShape.unionMembers? = none) (apart : source ≠ target)
include canonical sourceFound whole apart

theorem Below.some_of_union (found : store.lookup target = some (.union members))
    (yes : Below hierarchy store levels source target) :
    ∃ member ∈ members, Below hierarchy store levels source member := by
  cases levels with
  | zero => exact absurd yes (not_below_zero _ _ _ _)
  | succ levels =>
      rcases yes.reason canonical sourceFound found rfl apart with rfl | reason
      · obtain ⟨member, present⟩ := List.exists_mem_of_length_pos
          (Nat.lt_of_lt_of_le Nat.zero_lt_two (canonical.normal found).1.several)
        exact ⟨member, present, never_below levels member⟩
      · obtain ⟨member, present, below⟩ := reason.some_of_union whole
        exact ⟨member, present, below.deeper (Nat.le_succ levels)⟩

theorem Below.each_of_intersection (found : store.lookup target = some (.intersection members))
    (yes : Below hierarchy store levels source target) :
    ∀ member ∈ members, Below hierarchy store levels source member := by
  intro member present
  cases levels with
  | zero => exact absurd yes (not_below_zero _ _ _ _)
  | succ levels =>
      rcases yes.reason canonical sourceFound found rfl apart with rfl | reason
      · exact never_below levels member
      · exact (reason.each_of_intersection whole member present).deeper (Nat.le_succ levels)

/-- What is below another type is below each of its members, and below some member of a union that
stands among them. -/
theorem Below.some_option (targetKnown : store.Contains target)
    (yes : Below hierarchy store levels source target) {part : TypeId} {options : List TypeId}
    (inside : part ∈ store.intersectionMembers target)
    (found : store.lookup part = some (.union options)) (differs : source ≠ part) :
    ∃ option ∈ options, Below hierarchy store levels source option := by
  obtain ⟨shape, targetFound⟩ := exists_lookup targetKnown
  rw [intersectionMembers, targetFound] at inside
  cases shape with
  | intersection parts =>
      have below := yes.each_of_intersection canonical sourceFound whole apart targetFound
      exact (below part inside).some_of_union canonical sourceFound whole differs found
  | _ =>
      rw [List.mem_singleton.mp inside] at found
      exact yes.some_of_union canonical sourceFound whole apart found

end

section

variable {trees : List TypeTree} {whole member : TypeId} (canonical : store.Canonical)
  (wholeKnown : store.Contains whole) (memberKnown : store.Contains member)
  (isMeet : store.tree whole = .meet trees) (normal : ∀ tree ∈ trees, tree.Normal)
  (present : store.tree member ∈ trees)
include canonical wholeKnown memberKnown isMeet normal present

theorem below_option_of_meet (yes : Below hierarchy store levels whole member)
    (apart : whole ≠ member) {part : TypeId} {options : List TypeId}
    (inside : part ∈ store.intersectionMembers member)
    (found : store.lookup part = some (.union options)) :
    ∃ option ∈ options, Below hierarchy store levels whole option := by
  have byShape {shape : Shape} (wholeFound : store.lookup whole = some shape)
      (noUnion : shape.unionMembers? = none) :
      ∃ option ∈ options, Below hierarchy store levels whole option := by
    refine yes.some_option canonical wholeFound noUnion apart memberKnown inside found ?_
    intro isPart
    rw [isPart] at wholeFound
    rw [lookup_unique wholeFound found] at noUnion
    cases noUnion
  rcases TypeTree.meet_cases normal present with isNever | isMixed | same | ⟨parts, divides, _⟩
  · have wholeNever := (canonical.tree_eq_scalar_iff wholeKnown).mp (isMeet.trans isNever)
    rw [wholeNever] at byShape
    rw [wholeNever]
    exact byShape (lookup_scalar canonical.standard .never) rfl
  · have memberMixed := (canonical.tree_eq_scalar_iff memberKnown).mp isMixed
    have mixedFound := lookup_scalar canonical.standard .mixed
    rw [memberMixed, intersectionMembers, mixedFound] at inside
    rw [List.mem_singleton.mp inside, mixedFound] at found
    cases found
  · exact absurd (canonical.eq_of_tree_eq wholeKnown memberKnown (isMeet.trans same)) apart
  · obtain ⟨ids, wholeFound, _⟩ :=
      exists_intersection canonical wholeKnown (isMeet.trans divides)
    exact byShape wholeFound rfl

theorem meet_fits_of_below_options
    (below : ∀ part ∈ store.intersectionMembers member, ∀ options,
      store.lookup part = some (.union options) →
        ∃ option ∈ options, Below hierarchy store levels whole option) :
    (store.tree whole).Fits hierarchy (store.tree member) := by
  rw [isMeet]
  apply TypeTree.meet_fits_of_options normal present
  intro options inside
  rw [canonical.intersectionMembers_tree memberKnown] at inside
  obtain ⟨part, among, isUnion⟩ := List.mem_map.mp inside
  have partKnown : store.Contains part := canonical.mem_intersectionMembers memberKnown among
  obtain ⟨ids, found, rfl⟩ := exists_union canonical partKnown isUnion
  obtain ⟨option, isOption, yes⟩ := below part among ids found
  have optionKnown : store.Contains option := canonical.contains_part found isOption
  have fits := yes.fits canonical wholeKnown optionKnown
  rw [isMeet] at fits
  exact ⟨store.tree option, List.mem_map_of_mem isOption, fits⟩

end

end Subtype

/-! ### Whatever the history of a store -/

variable {store : TypeStore} {returned : List TypeId}

/-- An intersection is below a type that it is made of exactly where it is that type, or where it is
below some member of each union that the type is or has for a member: so it is below every type
without such a union, wherever the limit is not met. -/
theorem Reached.intersection_below_member (reached : Reached store returned)
    (hierarchy : Hierarchy) {members : List TypeId}
    (known : ∀ member ∈ members, store.Contains member) {member : TypeId}
    (present : member ∈ members) :
    let whole := ((TypeStore.intersection members).run store).1
    let later := ((TypeStore.intersection members).run store).2
    (relate later hierarchy whole member).limited = false →
      ((relate later hierarchy whole member).verdict = .yes ↔
        whole = member ∨
          ∀ part ∈ later.intersectionMembers member, ∀ options,
            later.lookup part = some (.union options) →
              ∃ option ∈ options, (relate later hierarchy whole option).verdict = .yes) := by
  obtain ⟨continues, wholeKnown, isMeet⟩ := TypeStore.intersection_makes reached.canonical known
  intro whole later unlimited
  have memberKnown : later.Contains member := continues.grows.contains (known member present)
  have memberTree : later.tree member = store.tree member :=
    reached.canonical.tree_later continues.grows (known member present)
  have normal : ∀ tree ∈ members.map store.tree, tree.Normal :=
    List.forall_mem_map.mpr fun id among => reached.canonical.tree_normal (known id among)
  have among : later.tree member ∈ members.map store.tree :=
    memberTree ▸ List.mem_map_of_mem present
  constructor
  · intro yes
    by_cases same : whole = member
    · exact .inl same
    · exact .inr fun part inside options found =>
        Subtype.below_option_of_meet continues.canonical wholeKnown memberKnown isMeet normal among
          yes same inside found
  · intro reason
    apply Subtype.relate_yes_of_fits continues.canonical wholeKnown memberKnown _ unlimited
    rcases reason with same | below
    · rw [← same]
      exact .refl _
    · exact Subtype.meet_fits_of_below_options continues.canonical wholeKnown memberKnown isMeet
        normal among below

/-- The store after `A|B` and `C`. -/
def forkStore : TypeStore where
  shapes := TypeStore.initial.shapes ++
    #[.object "A" [], .object "B" [], .union [⟨7⟩, ⟨8⟩], .object "C" []]

theorem reached_forkStore :
    Reached forkStore [⟨10⟩, ⟨9⟩, .mixed, .never, .null, .int, .string, .bool, .float] :=
  Reached.start.runAll [.parse "A|B", .parse "C"] (by with_unfolding_all rfl)

theorem made_forkStore :
    (TypeStore.intersection [⟨9⟩, ⟨7⟩]).run forkStore =
        (⟨11⟩, ⟨forkStore.shapes.push (.intersection [⟨9⟩, ⟨7⟩])⟩) ∧
      (TypeStore.intersection [⟨9⟩, ⟨10⟩]).run forkStore =
        (⟨11⟩, ⟨forkStore.shapes.push (.intersection [⟨9⟩, ⟨10⟩])⟩) ∧
      (TypeStore.union [⟨8⟩, ⟨7⟩]).run forkStore =
        (⟨11⟩, ⟨forkStore.shapes.push (.union [⟨8⟩, ⟨7⟩])⟩) := by
  with_unfolding_all exact ⟨rfl, rfl, rfl⟩

/-- `(A|B)&A` is below `A|B`, since it is below `A`. -/
theorem intersection_below_member_fork :
    let whole := ((TypeStore.intersection [⟨9⟩, ⟨7⟩]).run forkStore).1
    let later := ((TypeStore.intersection [⟨9⟩, ⟨7⟩]).run forkStore).2
    whole ≠ ⟨9⟩ ∧ later.lookup ⟨9⟩ = some (.union [⟨7⟩, ⟨8⟩]) ∧
      (relate later .empty whole ⟨9⟩).verdict = .yes := by
  have known : ∀ member ∈ [(⟨9⟩ : TypeId), ⟨7⟩], forkStore.Contains member := by decide
  have law := reached_forkStore.intersection_below_member .empty known List.mem_cons_self
  rw [made_forkStore.1] at law ⊢
  intro whole later
  have below : (relate later .empty whole ⟨7⟩).verdict = .yes := rfl
  have alone : later.intersectionMembers ⟨9⟩ = [⟨9⟩] := rfl
  have union : later.lookup ⟨9⟩ = some (.union [⟨7⟩, ⟨8⟩]) := rfl
  refine ⟨by decide, union, (law rfl).mpr (.inr fun part inside options found => ?_)⟩
  have among : part ∈ later.intersectionMembers ⟨9⟩ := inside
  rw [alone] at among
  rw [List.mem_singleton.mp among] at found
  cases TypeStore.lookup_unique union found
  exact ⟨⟨7⟩, List.mem_cons_self, below⟩

/-- `(A|B)&C` is not seen to be below `A|B`: it is below neither `A` nor `B`. -/
theorem not_below_every_member :
    ¬ ∀ (store : TypeStore) (returned : List TypeId), Reached store returned →
      ∀ (hierarchy : Hierarchy) (members : List TypeId), members ≠ [] →
        (∀ member ∈ members, member ∈ returned) → ∀ member ∈ members,
          let whole := ((TypeStore.intersection members).run store).1
          let later := ((TypeStore.intersection members).run store).2
          (relate later hierarchy whole member).limited = false →
            (relate later hierarchy whole member).verdict = .yes := by
  intro always
  have wrong := always forkStore _ reached_forkStore .empty [⟨9⟩, ⟨10⟩] (by decide) (by decide)
    ⟨9⟩ List.mem_cons_self
  rw [made_forkStore.2.1] at wrong
  cases wrong rfl

/-- A union is below a type exactly where all that it is made of is below that type, and it is above
all of it. A type that is below everything an intersection is made of is below the intersection,
where nothing of that is an intersection itself. -/
theorem Reached.union_and_intersection_bounds (reached : Reached store returned)
    (hierarchy : Hierarchy) {alternatives demands : List TypeId} {source target : TypeId}
    (alternativesKnown : ∀ member ∈ alternatives, store.Contains member)
    (demandsKnown : ∀ member ∈ demands, store.Contains member)
    (sourceKnown : store.Contains source) (targetKnown : store.Contains target) :
    let united := ((TypeStore.union alternatives).run store).1
    let unitedStore := ((TypeStore.union alternatives).run store).2
    let met := ((TypeStore.intersection demands).run store).1
    let metStore := ((TypeStore.intersection demands).run store).2
    ((∀ member ∈ united :: alternatives,
          (relate unitedStore hierarchy member target).limited = false) →
        ((relate unitedStore hierarchy united target).verdict = .yes ↔
          ∀ member ∈ alternatives, (relate unitedStore hierarchy member target).verdict = .yes)) ∧
      (∀ member ∈ alternatives, (relate unitedStore hierarchy member united).limited = false →
        (relate unitedStore hierarchy member united).verdict = .yes) ∧
      ((∀ member ∈ demands, ∀ parts, store.lookup member ≠ some (.intersection parts)) →
        (∀ member ∈ demands, (relate metStore hierarchy source member).verdict = .yes) →
        (relate metStore hierarchy source met).limited = false →
        (relate metStore hierarchy source met).verdict = .yes) := by
  intro united unitedStore met metStore
  have canonical := reached.canonical
  have normalTrees {ids : List TypeId} (known : ∀ id ∈ ids, store.Contains id) :
      ∀ tree ∈ ids.map store.tree, tree.Normal :=
    List.forall_mem_map.mpr fun id present => canonical.tree_normal (known id present)
  obtain ⟨unites, unitedKnown, isUnion⟩ := TypeStore.union_makes canonical alternativesKnown
  obtain ⟨meets, metKnown, isMeet⟩ := TypeStore.intersection_makes canonical demandsKnown
  have alternativesNormal := normalTrees alternativesKnown
  refine ⟨fun unlimited => ?_, fun member present unlimited => ?_, fun single each unlimited => ?_⟩
  · have memberIff (member : TypeId) (present : member ∈ alternatives) :
        (relate unitedStore hierarchy member target).verdict = .yes ↔
          (store.tree member).Fits hierarchy (unitedStore.tree target) := by
      rw [← canonical.tree_later unites.grows (alternativesKnown member present)]
      exact Subtype.relate_yes_iff_fits unites.canonical
        (unites.grows.contains (alternativesKnown member present))
        (unites.grows.contains targetKnown) (unlimited member (List.mem_cons_of_mem _ present))
    rw [Subtype.relate_yes_iff_fits unites.canonical unitedKnown
      (unites.grows.contains targetKnown) (unlimited united List.mem_cons_self),
      forall₂_congr memberIff, isUnion, TypeTree.unite_fits_iff alternativesNormal,
      List.forall_mem_map]
  · apply Subtype.relate_yes_of_fits unites.canonical
      (unites.grows.contains (alternativesKnown member present)) unitedKnown _ unlimited
    rw [canonical.tree_later unites.grows (alternativesKnown member present), isUnion]
    exact TypeTree.fits_unite_of_mem alternativesNormal (List.mem_map_of_mem present)
  · have sourceLater := canonical.tree_later meets.grows sourceKnown
    apply Subtype.relate_yes_of_fits meets.canonical (meets.grows.contains sourceKnown) metKnown _
      unlimited
    rw [isMeet, sourceLater]
    apply TypeTree.fits_meet_of_each (canonical.tree_normal sourceKnown) (normalTrees demandsKnown)
    · intro tree present
      obtain ⟨member, among, rfl⟩ := List.mem_map.mp present
      apply canonical.intersectionMembers_of_whole (demandsKnown member among)
      obtain ⟨shape, found⟩ := TypeStore.exists_lookup (demandsKnown member among)
      rw [found]
      cases shape with
      | intersection parts => exact absurd found (single member among parts)
      | _ => rfl
    · intro tree present
      obtain ⟨member, among, rfl⟩ := List.mem_map.mp present
      have fits := (Subtype.below_of_relate_yes (each member among)).fits meets.canonical
        (meets.grows.contains sourceKnown) (meets.grows.contains (demandsKnown member among))
      rwa [sourceLater, canonical.tree_later meets.grows (demandsKnown member among)] at fits

theorem union_and_intersection_bounds_fork :
    let united := ((TypeStore.union [⟨8⟩, ⟨7⟩]).run forkStore).1
    let unitedStore := ((TypeStore.union [⟨8⟩, ⟨7⟩]).run forkStore).2
    let met := ((TypeStore.intersection [⟨9⟩, ⟨7⟩]).run forkStore).1
    let metStore := ((TypeStore.intersection [⟨9⟩, ⟨7⟩]).run forkStore).2
    united ≠ ⟨9⟩ ∧ (relate unitedStore .empty united ⟨9⟩).verdict = .yes ∧
      (∀ member ∈ [(⟨8⟩ : TypeId), ⟨7⟩],
        (relate unitedStore .empty member united).verdict = .yes) ∧
      (relate metStore .empty ⟨7⟩ met).verdict = .yes := by
  have single : ∀ member ∈ [(⟨9⟩ : TypeId), ⟨7⟩], ∀ parts,
      forkStore.lookup member ≠ some (.intersection parts) := by
    intro member present parts found
    rcases List.mem_pair.mp present with rfl | rfl <;> cases found
  have alternativesKnown : ∀ member ∈ [(⟨8⟩ : TypeId), ⟨7⟩], forkStore.Contains member := by decide
  have demandsKnown : ∀ member ∈ [(⟨9⟩ : TypeId), ⟨7⟩], forkStore.Contains member := by decide
  have bounds := reached_forkStore.union_and_intersection_bounds .empty alternativesKnown
    demandsKnown (demandsKnown ⟨7⟩ (by decide)) (demandsKnown ⟨9⟩ (by decide))
  rw [made_forkStore.1, made_forkStore.2.2] at bounds ⊢
  intro united unitedStore met metStore
  obtain ⟨least, above, greatest⟩ := bounds
  have eachOption : ∀ member ∈ [(⟨8⟩ : TypeId), ⟨7⟩],
      (relate unitedStore .empty member ⟨9⟩).verdict = .yes := by decide
  have eachDemand : ∀ member ∈ [(⟨9⟩ : TypeId), ⟨7⟩],
      (relate metStore .empty ⟨7⟩ member).verdict = .yes := by decide
  have unlimited : ∀ member ∈ united :: [⟨8⟩, ⟨7⟩],
      (relate unitedStore .empty member ⟨9⟩).limited = false := by decide
  have aboveUnlimited : ∀ member ∈ [(⟨8⟩ : TypeId), ⟨7⟩],
      (relate unitedStore .empty member united).limited = false := by decide
  exact ⟨by decide, (least unlimited).mpr eachOption,
    fun member present => above member present (aboveUnlimited member present),
    greatest single eachDemand rfl⟩

end AssociationCheck
