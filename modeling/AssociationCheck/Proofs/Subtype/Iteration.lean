/-
Classes in front of what iterating them yields.

A class is compared with its ancestor from the first type argument on, and what it yields is read
from its last ones. Both readings name the same arguments only where both classes are given
equally many, or the ancestor none: there whatever bounds what the ancestor yields bounds what the
class yields.
-/

import AssociationCheck.Proofs.Rule.History
import AssociationCheck.Proofs.Subtype.Settled
import AssociationCheck.Proofs.Subtype.Transitivity

namespace AssociationCheck

open TypeStore

variable {hierarchy : Hierarchy} {store : TypeStore} {arity : ClassKey → Nat}
  {source target bound : TypeId} {name ancestor : String} {sources targets : List TypeId}
  {key value : TypeId}

theorem TypeStore.HasArities.of_lookup {shape : Shape} (found : store.lookup source = some shape)
    (takes : shape.Takes arity) (parts : ∀ part ∈ shape.parts, store.HasArities arity part) :
    store.HasArities arity source := by
  intro part other inside partFound
  rcases inside.cases_head with same | ⟨next, ⟨_, atTop, present⟩, below⟩
  · rw [← same] at partFound
    rwa [← lookup_unique found partFound]
  · rw [← lookup_unique found atTop] at present
    exact parts next present part other below partFound

section

variable (standard : initial.GrowsTo store)
  (sourceFound : store.lookup source = some (.object name sources))

include standard sourceFound

theorem Subtype.objects_of_below {levels : Nat}
    (targetFound : store.lookup target = some (.object ancestor targets)) (apart : source ≠ target)
    (yes : Below hierarchy store (levels + 1) source target) :
    hierarchy.isSameOrDerived name ancestor = true ∧
      ∀ pair ∈ argumentPairs sources targets, Below hierarchy store levels pair.1 pair.2 := by
  have cases := (below_atomic_iff standard levels sourceFound targetFound (isAtomic_object _ _)
    (isAtomic_object _ _)).mp yes
  rcases cases with same | reason
  · exact absurd same apart
  · cases reason with
    | object derived _ covariant => exact ⟨derived, covariant⟩

/-- A class is below an iterable exactly where it yields what the iterable asks for. -/
theorem Subtype.below_iterable_iff (levels : Nat)
    (boundFound : store.lookup bound = some (.iterable key value)) :
    Below hierarchy store (levels + 1) source bound ↔
      hierarchy.isTraversable name = true ∧
        Below hierarchy store levels (iteratedTypes sources).1 key ∧
        Below hierarchy store levels (iteratedTypes sources).2 value := by
  rw [below_atomic_iff standard levels sourceFound boundFound (isAtomic_object _ _)
    (isAtomic_iterable _ _)]
  constructor
  · rintro (same | reason)
    · exact absurd same (ne_of_lookup sourceFound boundFound (by simp))
    · cases reason with
      | objectToIterable iterates keys values => exact ⟨iterates, keys, values⟩
  · intro ⟨iterates, keys, values⟩
    exact .inr (.objectToIterable iterates keys values)

/-- A class is below every iterable that its ancestor is below, where the two are given equally many
arguments or the ancestor none. The arguments themselves have to be such that definite answers
between them compose. -/
theorem relate_iterable_of_ancestor (few : ∀ key, hierarchy.FewAncestors key)
    (targetFound : store.lookup target = some (.object ancestor targets))
    (boundFound : store.lookup bound = some (.iterable key value))
    (equallyMany : targets = [] ∨ sources.length = targets.length)
    (fixed : ∀ part ∈ sources ++ targets ++ [key, value], store.HasArities arity part)
    (lower : (relate store hierarchy source target).verdict = .yes)
    (upper : (relate store hierarchy target bound).verdict = .yes)
    (unlimited : (relate store hierarchy source bound).limited = false) :
    (relate store hierarchy source bound).verdict = .yes := by
  by_cases same : source = target
  · rwa [same]
  · obtain ⟨derived, covariant⟩ :=
      Subtype.objects_of_below standard sourceFound targetFound same lower
    obtain ⟨iterates, keys, values⟩ :=
      (Subtype.below_iterable_iff standard targetFound 63 boundFound).mp upper
    have compose : ∀ first ∈ sources, ∀ second ∈ targets, ∀ third ∈ [key, value],
        Subtype.Below hierarchy store 63 first second →
        Subtype.Below hierarchy store 63 second third →
        Subtype.Below hierarchy store (63 + 63) first third := by
      intro first inSources second inTargets third inBound below above
      exact Subtype.composesWithin few (63 + 63 + 1) (Nat.lt_succ_self _)
        (fixed first (by simp [inSources])) (fixed second (by simp [inTargets]))
        (fixed third (List.mem_append_right _ inBound)) below above
    have fromMixed : ∀ first third, Subtype.Below hierarchy store 63 .mixed third →
        Subtype.Below hierarchy store (63 + 63) first third := by
      intro first third above
      rw [Subtype.eq_mixed_of_mixed_below above]
      exact Subtype.below_mixed _ _
    obtain ⟨keysBelow, valuesBelow⟩ :=
      Subtype.iterated_trans fromMixed compose equallyMany covariant keys values
    have iteratesSource := Hierarchy.isSameOrDerived_trans (few _) derived iterates
    have below := (Subtype.below_iterable_iff standard sourceFound (63 + 63) boundFound).mpr
      ⟨iteratesSource, keysBelow, valuesBelow⟩
    exact below.relate_yes unlimited

end

/-- The store after `Traversable<int, string>`, `Traversable<int>`, `iterable<int>`, `int|string`,
`Traversable<int|string>` and `iterable<int|string>`. -/
def yieldingStore : TypeStore where
  shapes := initial.shapes ++ #[.object "Traversable" [.int, .string],
    .object "Traversable" [.int], .iterable .mixed .int, .union [.int, .string],
    .object "Traversable" [⟨10⟩], .iterable .mixed ⟨10⟩]

theorem reached_yieldingStore :
    Reached yieldingStore [⟨12⟩, ⟨11⟩, ⟨10⟩, ⟨9⟩, ⟨8⟩, ⟨7⟩, .mixed, .never, .null, .int, .string,
      .bool, .float] :=
  Reached.start.runAll
    [.object "Traversable" [.int, .string], .object "Traversable" [.int], .iterable .mixed .int,
      .union [.int, .string], .object "Traversable" [⟨10⟩], .iterable .mixed ⟨10⟩]
    (by with_unfolding_all rfl)

theorem relate_iterable_of_ancestor_int :
    yieldingStore.lookup ⟨8⟩ = some (.object "Traversable" [.int]) ∧
      yieldingStore.lookup ⟨11⟩ = some (.object "Traversable" [⟨10⟩]) ∧
      yieldingStore.lookup ⟨12⟩ = some (.iterable .mixed ⟨10⟩) ∧
      (relate yieldingStore .empty ⟨8⟩ ⟨11⟩).verdict = .yes ∧
      (relate yieldingStore .empty ⟨11⟩ ⟨12⟩).verdict = .yes ∧
      (relate yieldingStore .empty ⟨8⟩ ⟨12⟩).verdict = .yes := by
  have acyclic : Hierarchy.empty.AcyclicOn ∅ := .empty
  have few : ∀ key, Hierarchy.empty.FewAncestors key := acyclic.fewAncestors (by simp)
  have standard : initial.GrowsTo yieldingStore := reached_yieldingStore.canonical.standard
  have scalar (kind : Scalar) : yieldingStore.HasArities (fun _ => 1) kind.id :=
    .of_lookup (lookup_scalar standard kind) trivial (fun _ impossible => nomatch impossible)
  have intOrString : yieldingStore.HasArities (fun _ => 1) ⟨10⟩ := by
    have found : yieldingStore.lookup ⟨10⟩ = some (.union [.int, .string]) := rfl
    refine .of_lookup found trivial (fun part present => ?_)
    rcases List.mem_pair.mp present with rfl | rfl
    · exact scalar .int
    · exact scalar .string
  have fixed : ∀ part ∈ [.int] ++ [⟨10⟩] ++ [.mixed, ⟨10⟩],
      yieldingStore.HasArities (fun _ => 1) part := by
    intro part present
    have among : part = .int ∨ part = ⟨10⟩ ∨ part = .mixed := by
      simp only [List.mem_append, List.mem_cons, List.not_mem_nil, or_false] at present
      tauto
    rcases among with rfl | rfl | rfl
    · exact scalar .int
    · exact intOrString
    · exact scalar .mixed
  have source : yieldingStore.lookup ⟨8⟩ = some (.object "Traversable" [.int]) := rfl
  have target : yieldingStore.lookup ⟨11⟩ = some (.object "Traversable" [⟨10⟩]) := rfl
  have bound : yieldingStore.lookup ⟨12⟩ = some (.iterable .mixed ⟨10⟩) := rfl
  have lower : (relate yieldingStore .empty ⟨8⟩ ⟨11⟩).verdict = .yes := rfl
  have upper : (relate yieldingStore .empty ⟨11⟩ ⟨12⟩).verdict = .yes := rfl
  exact ⟨source, target, bound, lower, upper,
    relate_iterable_of_ancestor standard source few target bound (.inr rfl) fixed lower upper rfl⟩

/-- `Traversable<int, string>` is below `Traversable<int>`, which compares the first arguments, and
that is below `iterable<int>`, which reads the last ones; what `Traversable<int, string>` yields
is not. -/
theorem not_relate_iterable_of_ancestor :
    ¬ ∀ (store : TypeStore) (returned : List TypeId), Reached store returned →
      ∀ (hierarchy : Hierarchy), ∀ source ∈ returned, ∀ target ∈ returned, ∀ bound ∈ returned,
      ∀ name ancestor sources targets key value,
        store.lookup source = some (.object name sources) →
        store.lookup target = some (.object ancestor targets) →
        hierarchy.isTraversable ancestor = true →
        store.lookup bound = some (.iterable key value) →
        (relate store hierarchy source target).limited = false →
        (relate store hierarchy target bound).limited = false →
        (relate store hierarchy source bound).limited = false →
        (relate store hierarchy source target).verdict = .yes →
        (relate store hierarchy target bound).verdict = .yes →
        (relate store hierarchy source bound).verdict = .yes := by
  intro always
  have wrong := always yieldingStore _ reached_yieldingStore .empty ⟨7⟩ (by decide) ⟨8⟩ (by decide)
    ⟨9⟩ (by decide) "Traversable" "Traversable" [.int, .string] [.int] .mixed .int rfl rfl rfl rfl
    rfl rfl rfl rfl rfl
  cases wrong

end AssociationCheck
