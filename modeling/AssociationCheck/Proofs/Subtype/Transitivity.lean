/-
A definite yes is transitive.

The order in which unions and intersections are taken apart does not backtrack, so the type in the
middle is passed by induction on the levels that both answers needed: its own reason on the left
always meets the one on the right. Classes need the walk to be exact, and type arguments need
every class to be given equally many of them wherever it stands, since they are compared by
position.
-/

import AssociationCheck.Proofs.Hierarchy.Changes
import AssociationCheck.Proofs.Subtype.Levels
import AssociationCheck.Proofs.Subtype.Soundness

namespace AssociationCheck

/-! ### One number of arguments for each class -/

/-- An object type gives its class the number of arguments that is fixed for it. -/
def Shape.Takes (arity : ClassKey → Nat) : Shape → Prop
  | .object name arguments => arguments.length = arity (.of name)
  | _ => True

def TypeStore.HasArities (store : TypeStore) (arity : ClassKey → Nat) (id : TypeId) : Prop :=
  ∀ part shape, store.HasPart id part → store.lookup part = some shape → shape.Takes arity

namespace TypeStore.HasArities

variable {store : TypeStore} {arity : ClassKey → Nat} {id part : TypeId} {shape : Shape}

theorem takes (fixed : store.HasArities arity id) (found : store.lookup id = some shape) :
    shape.Takes arity :=
  fixed id shape .refl found

theorem of_part (fixed : store.HasArities arity id) (found : store.lookup id = some shape)
    (present : part ∈ shape.parts) : store.HasArities arity part :=
  fun inner innerShape inside => fixed inner innerShape (.head ⟨shape, found, present⟩ inside)

end TypeStore.HasArities

namespace Subtype

open TypeStore

variable {hierarchy : Hierarchy} {store : TypeStore} {arity : ClassKey → Nat}

/-! ### Classes and arrays in the middle -/

/-- Classes that are given fixed numbers of arguments can be compared only where the target has
none or both have equally many. -/
theorem equallyMany_of_takes {source target : String} {sources targets : List TypeId}
    (sourceTakes : (Shape.object source sources).Takes arity)
    (targetTakes : (Shape.object target targets).Takes arity)
    (comparable : sameClass source target = true ∨ targets = [] ∨
      sources.length = targets.length) :
    targets = [] ∨ sources.length = targets.length := by
  rcases comparable with same | equallyMany
  · refine .inr (Eq.trans sourceTakes (Eq.trans ?_ (Eq.symm targetTakes)))
    rw [(sameClass_iff source target).mp same]
  · exact equallyMany

section

variable {lower upper both : TypeId → TypeId → Prop}
  (few : ∀ key, hierarchy.FewAncestors key)
  (onlyMixed : ∀ second, lower .mixed second → second = .mixed)
  (fromMixed : ∀ first third, upper .mixed third → both first third)

include fromMixed in
/-- What iterating a class yields lies below what iterating its ancestor yields. -/
theorem iterated_trans {sources targets : List TypeId} {key value : TypeId}
    (compose : ∀ first ∈ sources, ∀ second ∈ targets, ∀ third ∈ [key, value],
      lower first second → upper second third → both first third)
    (equallyMany : targets = [] ∨ sources.length = targets.length)
    (covariant : ∀ pair ∈ argumentPairs sources targets, lower pair.1 pair.2)
    (keys : upper (iteratedTypes targets).1 key) (values : upper (iteratedTypes targets).2 value) :
    both (iteratedTypes sources).1 key ∧ both (iteratedTypes sources).2 value := by
  rcases equallyMany with rfl | equallyMany
  · exact ⟨fromMixed _ _ keys, fromMixed _ _ values⟩
  · have fromPosition {first second third : TypeId} (above : third ∈ [key, value])
        (position : second = .mixed ∨ (first, second) ∈ argumentPairs sources targets)
        (onward : upper second third) : both first third := by
      rcases position with rfl | paired
      · exact fromMixed _ _ onward
      · have zipped := paired
        rw [argumentPairs_eq_zip equallyMany] at zipped
        obtain ⟨inSources, inTargets⟩ := List.of_mem_zip zipped
        exact compose _ inSources _ inTargets _ above (covariant _ paired) onward
    obtain ⟨keyPosition, valuePosition⟩ := iteratedTypes_mem_argumentPairs equallyMany
    exact ⟨fromPosition (by simp) keyPosition keys, fromPosition (by simp) valuePosition values⟩

theorem argumentPairs_trans {firsts seconds thirds : List TypeId}
    (compose : ∀ first ∈ firsts, ∀ second ∈ seconds, ∀ third ∈ thirds,
      lower first second → upper second third → both first third)
    (lowerMany : firsts.length = seconds.length) (upperMany : seconds.length = thirds.length)
    (lowers : ∀ pair ∈ argumentPairs firsts seconds, lower pair.1 pair.2)
    (uppers : ∀ pair ∈ argumentPairs seconds thirds, upper pair.1 pair.2) :
    ∀ pair ∈ argumentPairs firsts thirds, both pair.1 pair.2 := by
  rw [argumentPairs_eq_zip lowerMany] at lowers
  rw [argumentPairs_eq_zip upperMany] at uppers
  rw [argumentPairs_eq_zip (lowerMany.trans upperMany)]
  intro pair present
  obtain ⟨place, inFirsts, atPlace⟩ := List.mem_iff_getElem.mp present
  obtain ⟨inFirst, inThird⟩ : place < firsts.length ∧ place < thirds.length := by
    simpa [List.length_zip] using inFirsts
  have inSecond : place < seconds.length := lowerMany ▸ inFirst
  rw [List.getElem_zip] at atPlace
  subst atPlace
  refine compose _ (List.getElem_mem _) seconds[place] (List.getElem_mem _) _ (List.getElem_mem _)
    ?_ ?_
  · exact lowers (_, _) (List.mem_iff_getElem.mpr
      ⟨place, by simp [inFirst, inSecond], List.getElem_zip⟩)
  · exact uppers (_, _) (List.mem_iff_getElem.mpr
      ⟨place, by simp [inSecond, inThird], List.getElem_zip⟩)

include few in
theorem object_trans {first second third : String} {firsts seconds thirds : List TypeId}
    (firstTakes : (Shape.object first firsts).Takes arity)
    (secondTakes : (Shape.object second seconds).Takes arity)
    (thirdTakes : (Shape.object third thirds).Takes arity)
    (compose : ∀ first ∈ firsts, ∀ second ∈ seconds, ∀ third ∈ thirds,
      lower first second → upper second third → both first third)
    (lowerReason : DefiniteAtomic hierarchy lower (.object first firsts) (.object second seconds))
    (upperReason : DefiniteAtomic hierarchy upper (.object second seconds) (.object third thirds)) :
    DefiniteAtomic hierarchy both (.object first firsts) (.object third thirds) := by
  obtain @⟨_, _, _, _, lowerDerived, lowerMany, lowers⟩ := lowerReason
  obtain @⟨_, _, _, _, upperDerived, upperMany, uppers⟩ := upperReason
  have derived := Hierarchy.isSameOrDerived_trans (few _) lowerDerived upperDerived
  rcases equallyMany_of_takes secondTakes thirdTakes upperMany with rfl | upperMany
  · exact .object derived (.inr (.inl rfl)) (by simp [argumentPairs])
  · rcases equallyMany_of_takes firstTakes secondTakes lowerMany with rfl | lowerMany
    · obtain rfl := List.length_eq_zero_iff.mp upperMany.symm
      exact .object derived (.inr (.inl rfl)) (by simp [argumentPairs])
    · exact .object derived (.inr (.inr (lowerMany.trans upperMany)))
        (argumentPairs_trans compose lowerMany upperMany lowers uppers)

include few onlyMixed fromMixed in
theorem DefiniteAtomic.trans {first second third : Shape} (firstTakes : first.Takes arity)
    (secondTakes : second.Takes arity) (thirdTakes : third.Takes arity)
    (compose : ∀ one ∈ first.parts, ∀ two ∈ second.parts, ∀ three ∈ third.parts,
      lower one two → upper two three → both one three)
    (lowerReason : DefiniteAtomic hierarchy lower first second)
    (upperReason : DefiniteAtomic hierarchy upper second third) :
    DefiniteAtomic hierarchy both first third := by
  -- Keys and values are the two parts of an iterable or array.
  have entries {firstKey firstValue key value thirdKey thirdValue : TypeId}
      (firstParts : first.parts = [firstKey, firstValue]) (parts : second.parts = [key, value])
      (thirdParts : third.parts = [thirdKey, thirdValue]) (lowerKeys : lower firstKey key)
      (lowerValues : lower firstValue value) (upperKeys : upper key thirdKey)
      (upperValues : upper value thirdValue) :
      both firstKey thirdKey ∧ both firstValue thirdValue := by
    constructor
    · exact compose _ (by simp [firstParts]) _ (by simp [parts]) _ (by simp [thirdParts])
        lowerKeys upperKeys
    · exact compose _ (by simp [firstParts]) _ (by simp [parts]) _ (by simp [thirdParts])
        lowerValues upperValues
  cases lowerReason with
  | object derived comparable covariant =>
      cases upperReason with
      | object upperDerived upperComparable upperCovariant =>
          exact object_trans few firstTakes secondTakes thirdTakes compose
            (.object derived comparable covariant)
            (.object upperDerived upperComparable upperCovariant)
      | objectToIterable iterates keys values =>
          obtain ⟨keys, values⟩ := iterated_trans fromMixed compose
            (equallyMany_of_takes firstTakes secondTakes comparable) covariant keys values
          exact .objectToIterable (Hierarchy.isSameOrDerived_trans (few _) derived iterates) keys
            values
  | objectToIterable iterates keys values =>
      cases upperReason with
      | iterableToIterable upperKeys upperValues =>
          rename_i arguments key value thirdKey thirdValue
          have yielded {one two three : TypeId} (among : one = .mixed ∨ one ∈ arguments)
              (inSecond : two ∈ [key, value]) (inThird : three ∈ [thirdKey, thirdValue])
              (below : lower one two) (above : upper two three) : both one three := by
            rcases among with rfl | among
            · exact fromMixed _ _ (onlyMixed _ below ▸ above)
            · exact compose _ among _ inSecond _ inThird below above
          obtain ⟨keyAmong, valueAmong⟩ := iteratedTypes_cases arguments
          exact .objectToIterable iterates
            (yielded keyAmong (by simp) (by simp) keys upperKeys)
            (yielded valueAmong (by simp) (by simp) values upperValues)
  | iterableToIterable keys values =>
      cases upperReason with
      | iterableToIterable upperKeys upperValues =>
          obtain ⟨keys, values⟩ := entries rfl rfl rfl keys values upperKeys upperValues
          exact .iterableToIterable keys values
  | arrayToIterable keys values =>
      cases upperReason with
      | iterableToIterable upperKeys upperValues =>
          obtain ⟨keys, values⟩ := entries rfl rfl rfl keys values upperKeys upperValues
          exact .arrayToIterable keys values
  | arrayToArray keys values =>
      cases upperReason with
      | arrayToIterable upperKeys upperValues =>
          obtain ⟨keys, values⟩ := entries rfl rfl rfl keys values upperKeys upperValues
          exact .arrayToIterable keys values
      | arrayToArray upperKeys upperValues =>
          obtain ⟨keys, values⟩ := entries rfl rfl rfl keys values upperKeys upperValues
          exact .arrayToArray keys values

end

/-! ### All types -/

variable {source middle target : TypeId} {levels more : Nat}

theorem below_mixed (levels : Nat) (source : TypeId) :
    Below hierarchy store (levels + 1) source .mixed :=
  (below_succ_iff ..).mpr (.inl (.inr (.inl rfl)))

theorem eq_mixed_of_mixed_below (yes : Below hierarchy store levels .mixed target) :
    target = .mixed := by
  cases levels with
  | zero => exact absurd yes (not_below_zero _ _ _ _)
  | succ levels =>
      rcases (below_succ_iff ..).mp yes with (same | top | bottom) | ⟨_, notMixed, _⟩
      · exact same.symm
      · exact top
      · cases bottom
      · exact absurd rfl notMixed

theorem eq_never_of_below_never (yes : Below hierarchy store levels source .never) :
    source = .never := by
  cases levels with
  | zero => exact absurd yes (not_below_zero _ _ _ _)
  | succ levels =>
      rcases (below_succ_iff ..).mp yes with (same | top | bottom) | ⟨notNever, _⟩
      · exact same
      · cases top
      · exact bottom
      · exact absurd rfl notNever

section

variable {below : TypeId → TypeId → Prop} {sourceShape targetShape : Shape} {members : List TypeId}

theorem Definite.each_of_union
    (reason : Definite hierarchy below source target (.union members) targetShape) :
    ∀ member ∈ members, below member target := by
  cases reason with
  | unionSource each => exact each
  | unionTarget whole | intersectionTarget whole => cases whole
  | atomic reason => cases reason

theorem Definite.some_of_union (whole : sourceShape.unionMembers? = none)
    (reason : Definite hierarchy below source target sourceShape (.union members)) :
    ∃ member ∈ members, below source member := by
  cases reason with
  | unionSource | intersectionSource wholeTarget => cases ‹_ = none›
  | unionTarget _ present accepts => exact ⟨_, present, accepts⟩
  | atomic reason => cases reason

theorem Definite.each_of_intersection (whole : sourceShape.unionMembers? = none)
    (reason : Definite hierarchy below source target sourceShape (.intersection members)) :
    ∀ member ∈ members, below source member := by
  cases reason with
  | unionSource | intersectionSource wholeTarget => cases ‹_ = none›
  | intersectionTarget _ each => exact each
  | atomic reason => cases reason

end

/-- Two answers compose wherever they need fewer levels together. -/
def ComposesWithin (hierarchy : Hierarchy) (store : TypeStore) (arity : ClassKey → Nat)
    (total : Nat) : Prop :=
  ∀ {levels more : Nat} {source middle target : TypeId}, levels + more < total →
    store.HasArities arity source → store.HasArities arity middle →
    store.HasArities arity target → Below hierarchy store levels source middle →
    Below hierarchy store more middle target → Below hierarchy store (levels + more) source target

/-- The reasons of two answers, each a level below its answer, compose. -/
theorem definite_trans (few : ∀ key, hierarchy.FewAncestors key)
    {sourceShape middleShape targetShape : Shape}
    (fewer : ComposesWithin hierarchy store arity (levels + 1 + (more + 1)))
    (sourceFixed : store.HasArities arity source) (middleFixed : store.HasArities arity middle)
    (targetFixed : store.HasArities arity target)
    (sourceFound : store.lookup source = some sourceShape)
    (middleFound : store.lookup middle = some middleShape)
    (targetFound : store.lookup target = some targetShape)
    (notBottom : target ≠ .never) (notTop : source ≠ .mixed)
    (lower : Below hierarchy store (levels + 1) source middle)
    (upper : Below hierarchy store (more + 1) middle target)
    (lowerReason : Definite hierarchy (Below hierarchy store levels) source middle sourceShape
      middleShape)
    (upperReason : Definite hierarchy (Below hierarchy store more) middle target middleShape
      targetShape) :
    Below hierarchy store (levels + 1 + (more + 1)) source target := by
  have sourcePart {part : TypeId} (present : part ∈ sourceShape.parts) :=
    sourceFixed.of_part sourceFound present
  have middlePart {part : TypeId} (present : part ∈ middleShape.parts) :=
    middleFixed.of_part middleFound present
  have targetPart {part : TypeId} (present : part ∈ targetShape.parts) :=
    targetFixed.of_part targetFound present
  have byReason (reason : Definite hierarchy (Below hierarchy store (levels + more + 1)) source
      target sourceShape targetShape) :
      Below hierarchy store (levels + 1 + (more + 1)) source target := by
    rw [show levels + 1 + (more + 1) = levels + more + 1 + 1 by omega]
    exact (below_succ_iff ..).mpr
      (.inr ⟨notBottom, notTop, _, _, sourceFound, targetFound, reason⟩)
  have memberBelow {member : TypeId} (present : member ∈ sourceShape.parts)
      (below : Below hierarchy store levels member middle) :
      Below hierarchy store (levels + more + 1) member target :=
    (fewer (by omega) (sourcePart present) middleFixed targetFixed below upper).deeper (by omega)
  have belowMember {member : TypeId} (present : member ∈ targetShape.parts)
      (above : Below hierarchy store more middle member) :
      Below hierarchy store (levels + more + 1) source member :=
    (fewer (by omega) sourceFixed middleFixed (targetPart present) lower above).deeper (by omega)
  have throughMember {member : TypeId} (present : member ∈ middleShape.parts)
      (below : Below hierarchy store levels source member)
      (above : Below hierarchy store more member target) :
      Below hierarchy store (levels + 1 + (more + 1)) source target :=
    (fewer (by omega) sourceFixed (middlePart present) targetFixed below above).deeper (by omega)
  -- A union on the left is taken apart first, then what is on the right. Only then the reasons meet
  -- in the middle, where each of them takes the same type apart.
  by_cases whole : sourceShape.unionMembers? = none
  · cases upperReason with
    | unionSource each =>
        obtain ⟨member, present, below⟩ := lowerReason.some_of_union whole
        exact throughMember present below (each member present)
    | unionTarget _ present accepts =>
        exact byReason (.unionTarget whole present (belowMember present accepts))
    | intersectionTarget _ each =>
        exact byReason (.intersectionTarget whole fun member present =>
          belowMember present (each member present))
    | intersectionSource _ present relates =>
        exact throughMember present (lowerReason.each_of_intersection whole _ present) relates
    | atomic upperAtomic =>
        cases lowerReason with
        | unionSource => cases whole
        | unionTarget | intersectionTarget => cases upperAtomic
        | intersectionSource _ present relates =>
            refine byReason (.intersectionSource ?_ present (memberBelow present relates))
            cases upperAtomic <;> rfl
        | atomic lowerAtomic =>
            refine byReason (.atomic (lowerAtomic.trans few (fun _ => eq_mixed_of_mixed_below)
              ?_ (sourceFixed.takes sourceFound) (middleFixed.takes middleFound)
              (targetFixed.takes targetFound) ?_ upperAtomic))
            · intro first third fromMixed
              rw [eq_mixed_of_mixed_below fromMixed]
              exact below_mixed _ _
            · intro one inSource two inMiddle three inTarget below above
              exact (fewer (by omega) (sourcePart inSource) (middlePart inMiddle)
                (targetPart inTarget) below above).deeper (by omega)
  · obtain ⟨members, rfl⟩ : ∃ members, sourceShape = .union members := by
      cases sourceShape <;> simp_all [Shape.unionMembers?]
    exact byReason (.unionSource fun member present =>
      memberBelow present (lowerReason.each_of_union member present))

theorem composesWithin (few : ∀ key, hierarchy.FewAncestors key) (total : Nat) :
    ComposesWithin hierarchy store arity total := by
  induction total with
  | zero => exact fun impossible => absurd impossible (Nat.not_lt_zero _)
  | succ total ih =>
      intro levels more source middle target bound sourceFixed middleFixed targetFixed lower upper
      cases levels with
      | zero => exact absurd lower (not_below_zero _ _ _ _)
      | succ levels =>
          cases more with
          | zero => exact absurd upper (not_below_zero _ _ _ _)
          | succ more =>
              rcases (below_succ_iff ..).mp lower with
                (rfl | rfl | rfl) | ⟨_, notTop, _, _, sourceFound, middleFound, lowerReason⟩
              · exact upper.deeper (by omega)
              · rw [eq_mixed_of_mixed_below upper]
                exact below_mixed _ _
              · exact (below_succ_iff ..).mpr (.inl (.inr (.inr rfl)))
              rcases (below_succ_iff ..).mp upper with
                (rfl | rfl | rfl) | ⟨notBottom, _, _, _, found, targetFound, upperReason⟩
              · exact lower.deeper (by omega)
              · exact below_mixed _ _
              · rw [eq_never_of_below_never lower]
                exact (below_succ_iff ..).mpr (.inl (.inr (.inr rfl)))
              obtain rfl := lookup_unique middleFound found
              exact definite_trans few (fun fewer => ih (by omega)) sourceFixed middleFixed
                targetFixed sourceFound middleFound targetFound notBottom notTop lower upper
                lowerReason upperReason

end Subtype

variable {hierarchy : Hierarchy} {store : TypeStore} {arity : ClassKey → Nat}
  {source middle target : TypeId}

/-- Definite answers compose where every class has few ancestors and is given equally many
arguments throughout, provided that the limit is not met between the outer types. -/
theorem relate_yes_trans (few : ∀ key, hierarchy.FewAncestors key)
    (sourceFixed : store.HasArities arity source) (middleFixed : store.HasArities arity middle)
    (targetFixed : store.HasArities arity target)
    (lower : (relate store hierarchy source middle).verdict = .yes)
    (upper : (relate store hierarchy middle target).verdict = .yes)
    (unlimited : (relate store hierarchy source target).limited = false) :
    (relate store hierarchy source target).verdict = .yes := by
  have composed := Subtype.composesWithin few (Subtype.levelLimit + Subtype.levelLimit + 1)
    (Nat.lt_succ_self _) sourceFixed middleFixed targetFixed (Subtype.below_of_relate_yes lower)
    (Subtype.below_of_relate_yes upper)
  exact composed.relate_yes unlimited

theorem relate_yes_trans_bag :
    (relate bagStore bagHierarchy ⟨7⟩ ⟨9⟩).verdict = .yes ∧
      (relate bagStore bagHierarchy ⟨9⟩ ⟨11⟩).verdict = .yes ∧
      (relate bagStore bagHierarchy ⟨7⟩ ⟨11⟩).verdict = .yes := by
  have short : (Hierarchy.keys [Hierarchy.traversable]).encard ≤ Hierarchy.walkLimit :=
    Hierarchy.few_keys (by decide)
  have onward :
      ¬ Hierarchy.empty.Reaches (.of Hierarchy.traversable) (.of "Bag") := by
    rw [← Hierarchy.AcyclicOn.empty.closesCycle_iff short "Bag"]
    decide
  have named : ClassKey.of Hierarchy.traversable ∈ Hierarchy.keys [Hierarchy.traversable] :=
    ⟨_, List.mem_singleton_self _, rfl⟩
  have few : ∀ key, bagHierarchy.FewAncestors key :=
    (Hierarchy.AcyclicOn.empty.addParent onward named).fewAncestors short
  have fixed (id : TypeId) :
      bagStore.HasArities (fun key => if key = .of "Bag" then 1 else 0) id := by
    intro part shape _ found
    have present : shape ∈ bagStore.shapes := Array.mem_of_getElem? found
    simp only [bagStore, TypeStore.initial, Array.mem_push, List.mem_toArray, List.mem_cons,
      List.not_mem_nil] at present
    rcases present with ((((scalar | rfl) | rfl) | rfl) | rfl) | rfl
    · rcases scalar with rfl | rfl | rfl | rfl | rfl | rfl | rfl | impossible
      all_goals trivial
    all_goals simp [Shape.Takes]
  have lower : (relate bagStore bagHierarchy ⟨7⟩ ⟨9⟩).verdict = .yes := by decide
  have upper : (relate bagStore bagHierarchy ⟨9⟩ ⟨11⟩).verdict = .yes := by decide
  exact ⟨lower, upper,
    relate_yes_trans few (fixed _) (fixed _) (fixed _) lower upper (by decide)⟩

end AssociationCheck
