/-
A yes of the subtype relation means containment.

Where the relation says yes, every value of the source is a value of the target, provided that the
generic classes on both sides take equally many arguments: how a subclass fills the parameters of
its ancestor is not known, and arguments are compared by position. A no says less, since arguments
that differ do not matter for a class that cannot be iterated.
-/

import AssociationCheck.Proofs.Subtype.Definite
import AssociationCheck.Proofs.Types.Values

namespace AssociationCheck

namespace TypeStore

/-! ### Numbers of type arguments -/

def HasPart (store : TypeStore) : TypeId → TypeId → Prop :=
  Relation.ReflTransGen
    (fun whole part => ∃ shape, store.lookup whole = some shape ∧ part ∈ shape.parts)

/-- Somewhere in a type a class is given this number of arguments, at least one. -/
def HasArity (store : TypeStore) (id : TypeId) (count : Nat) : Prop :=
  ∃ part name arguments, store.HasPart id part ∧
    store.lookup part = some (.object name arguments) ∧ arguments ≠ [] ∧ arguments.length = count

/-- The generic classes of one type take as many arguments as those of another. -/
def Comparable (store : TypeStore) (source target : TypeId) : Prop :=
  ∀ sourceCount targetCount, store.HasArity source sourceCount →
    store.HasArity target targetCount → sourceCount = targetCount

variable {store : TypeStore} {id source target part sourcePart targetPart : TypeId} {shape : Shape}

theorem HasArity.of_part {count : Nat} (arity : store.HasArity part count)
    (found : store.lookup id = some shape) (present : part ∈ shape.parts) :
    store.HasArity id count := by
  obtain ⟨inner, name, arguments, inside, generic⟩ := arity
  exact ⟨inner, name, arguments, .head ⟨shape, found, present⟩ inside, generic⟩

theorem hasArity_of_lookup {name : String} {arguments : List TypeId}
    (found : store.lookup id = some (.object name arguments)) (given : arguments ≠ []) :
    store.HasArity id arguments.length :=
  ⟨id, name, arguments, .refl, found, given, rfl⟩

theorem HasArity.mem_shapes {count : Nat} (arity : store.HasArity id count) :
    ∃ name arguments, .object name arguments ∈ store.shapes ∧ arguments ≠ [] ∧
      arguments.length = count := by
  obtain ⟨part, name, arguments, -, found, generic⟩ := arity
  exact ⟨name, arguments, Array.mem_of_getElem? found, generic⟩

theorem HasArity.cases {count : Nat} (arity : store.HasArity id count)
    (found : store.lookup id = some shape) :
    (∃ name arguments, shape = .object name arguments ∧ arguments ≠ []) ∨
      ∃ part ∈ shape.parts, store.HasArity part count := by
  obtain ⟨part, name, arguments, inside, partFound, generic⟩ := arity
  rcases inside.cases_head with same | ⟨other, ⟨_, atTop, present⟩, below⟩
  · rw [same] at found
    exact Or.inl ⟨name, arguments, lookup_unique found partFound, generic.1⟩
  · rw [lookup_unique found atTop]
    exact Or.inr ⟨other, present, part, name, arguments, below, partFound, generic⟩

theorem not_hasArity_scalar (standard : initial.GrowsTo store) (kind : Scalar) (count : Nat) :
    ¬ store.HasArity kind.id count := by
  intro arity
  rcases arity.cases (lookup_scalar standard kind) with ⟨_, _, generic, _⟩ | ⟨_, present, _⟩
  · cases generic
  · cases present

theorem Comparable.of_arities (comparable : store.Comparable source target)
    (sourceWithin : ∀ count, store.HasArity sourcePart count → store.HasArity source count)
    (targetWithin : ∀ count, store.HasArity targetPart count → store.HasArity target count) :
    store.Comparable sourcePart targetPart :=
  fun _ _ inSource inTarget => comparable _ _ (sourceWithin _ inSource) (targetWithin _ inTarget)

theorem hasArity_of_iteratedTypes (standard : initial.GrowsTo store) {name : String}
    {arguments : List TypeId} (found : store.lookup id = some (.object name arguments))
    (count : Nat) :
    (store.HasArity (Subtype.iteratedTypes arguments).1 count → store.HasArity id count) ∧
      (store.HasArity (Subtype.iteratedTypes arguments).2 count → store.HasArity id count) := by
  obtain ⟨key, value⟩ := iteratedTypes_cases arguments
  constructor <;> intro arity
  · rcases key with same | present
    · rw [same] at arity
      exact absurd arity (not_hasArity_scalar standard .mixed count)
    · exact arity.of_part found present
  · rcases value with same | present
    · rw [same] at arity
      exact absurd arity (not_hasArity_scalar standard .mixed count)
    · exact arity.of_part found present

end TypeStore

namespace Subtype

open TypeStore

/-! ### Arguments by position -/

theorem argumentPairs_eq_zip {sources targets : List TypeId}
    (equallyMany : sources.length = targets.length) :
    argumentPairs sources targets = sources.zip targets := by
  induction targets generalizing sources with
  | nil => simp [argumentPairs]
  | cons target targets ih =>
      cases sources with
      | nil => cases equallyMany
      | cons source sources => simp [argumentPairs, ih (Nat.succ.inj equallyMany)]

theorem mem_argumentPairs_nil {target : TypeId} {targets : List TypeId}
    (present : target ∈ targets) : (.mixed, target) ∈ argumentPairs [] targets := by
  induction targets with
  | nil => cases present
  | cons first others ih =>
      rw [argumentPairs]
      rcases List.mem_cons.mp present with rfl | later
      · exact List.mem_cons_self
      · exact List.mem_cons_of_mem _ (ih later)

theorem mem_of_mem_argumentPairs {sources targets : List TypeId} {pair : TypePair}
    (present : pair ∈ argumentPairs sources targets) :
    (pair.1 = .mixed ∨ pair.1 ∈ sources) ∧ pair.2 ∈ targets := by
  induction targets generalizing sources with
  | nil => simp [argumentPairs] at present
  | cons target targets ih =>
      cases sources with
      | nil =>
          rw [argumentPairs] at present
          rcases List.mem_cons.mp present with rfl | later
          · exact ⟨Or.inl rfl, List.mem_cons_self⟩
          · exact ⟨(ih later).1, List.mem_cons_of_mem _ (ih later).2⟩
      | cons source sources =>
          rw [argumentPairs] at present
          rcases List.mem_cons.mp present with rfl | later
          · exact ⟨Or.inr List.mem_cons_self, List.mem_cons_self⟩
          · exact ⟨(ih later).1.imp_right (List.mem_cons_of_mem _),
              List.mem_cons_of_mem _ (ih later).2⟩

/-- What a class yields is compared where its arguments are, as far as they are given. -/
theorem iteratedTypes_mem_argumentPairs {sources targets : List TypeId}
    (equallyMany : sources.length = targets.length) :
    ((iteratedTypes targets).1 = .mixed ∨
        ((iteratedTypes sources).1, (iteratedTypes targets).1) ∈ argumentPairs sources targets) ∧
      ((iteratedTypes targets).2 = .mixed ∨
        ((iteratedTypes sources).2, (iteratedTypes targets).2) ∈
          argumentPairs sources targets) := by
  have paired : (argumentPairs sources targets).reverse = sources.reverse.zip targets.reverse := by
    rw [argumentPairs_eq_zip equallyMany]
    exact List.reverse_zipWith equallyMany
  have mem_of_zip : ∀ pair, pair ∈ sources.reverse.zip targets.reverse →
      pair ∈ argumentPairs sources targets := by
    intro pair present
    rw [← paired] at present
    exact List.mem_reverse.mp present
  have sameCount : sources.reverse.length = targets.reverse.length := by simpa using equallyMany
  unfold iteratedTypes
  -- The last two arguments are the first two from behind.
  match sources.reverse, targets.reverse, sameCount, mem_of_zip with
  | [], [], _, _ => exact ⟨Or.inl rfl, Or.inl rfl⟩
  | [sourceValue], [targetValue], _, mem => exact ⟨Or.inl rfl, Or.inr (mem _ (by simp))⟩
  | sourceValue :: sourceKey :: _, targetValue :: targetKey :: _, _, mem =>
      exact ⟨Or.inr (mem _ (by simp)), Or.inr (mem _ (by simp))⟩

/-! ### Containment -/

variable {store : TypeStore} {hierarchy : Hierarchy} {source target : TypeId}

def Contained (store : TypeStore) (hierarchy : Hierarchy) (source target : TypeId) : Prop :=
  ∀ value, store.Holds hierarchy source value → store.Holds hierarchy target value

theorem contained_entries {sourceKey sourceValue key value : TypeId}
    (keys : Contained store hierarchy sourceKey key)
    (values : Contained store hierarchy sourceValue value) {entries : List (Value × Value)}
    (held : ∀ entry ∈ entries, store.Holds hierarchy sourceKey entry.1 ∧
      store.Holds hierarchy sourceValue entry.2) :
    ∀ entry ∈ entries, store.Holds hierarchy key entry.1 ∧ store.Holds hierarchy value entry.2 :=
  fun entry present => ⟨keys _ (held entry present).1, values _ (held entry present).2⟩

/-- What is contained position by position is contained in what the classes yield. A source
without arguments yields anything, and so does then the target. -/
theorem contained_iterated (standard : initial.GrowsTo store) {sources targets : List TypeId}
    (equallyMany : sources ≠ [] → sources.length = targets.length)
    (covariant : ∀ pair ∈ argumentPairs sources targets,
      Contained store hierarchy pair.1 pair.2) :
    Contained store hierarchy (iteratedTypes sources).1 (iteratedTypes targets).1 ∧
      Contained store hierarchy (iteratedTypes sources).2 (iteratedTypes targets).2 := by
  have fromPosition {sourceType targetType : TypeId}
      (position : targetType = .mixed ∨ (sourceType, targetType) ∈ argumentPairs sources targets) :
      Contained store hierarchy sourceType targetType := by
    rcases position with top | paired
    · rw [top]
      exact fun _ _ => holds_mixed standard
    · exact covariant _ paired
  by_cases bare : sources = []
  · rw [bare] at fromPosition ⊢
    obtain ⟨key, value⟩ := iteratedTypes_cases targets
    exact ⟨fromPosition (key.imp_right mem_argumentPairs_nil),
      fromPosition (value.imp_right mem_argumentPairs_nil)⟩
  · obtain ⟨keys, values⟩ := iteratedTypes_mem_argumentPairs (equallyMany bare)
    exact ⟨fromPosition keys, fromPosition values⟩

/-- An object of a class that can be iterated yields what its arguments say, which is anything
where there are none. -/
theorem yields_iterated (standard : initial.GrowsTo store) {name : String}
    {arguments : List TypeId} {entries : List (Value × Value)}
    (iterates : hierarchy.Reaches (.of name) (.of Hierarchy.traversable))
    (yields : arguments ≠ [] → hierarchy.Reaches (.of name) (.of Hierarchy.traversable) →
      ∀ entry ∈ entries, store.Holds hierarchy (iteratedTypes arguments).1 entry.1 ∧
        store.Holds hierarchy (iteratedTypes arguments).2 entry.2) :
    ∀ entry ∈ entries, store.Holds hierarchy (iteratedTypes arguments).1 entry.1 ∧
      store.Holds hierarchy (iteratedTypes arguments).2 entry.2 := by
  by_cases bare : arguments = []
  · rw [bare]
    exact fun _ _ => ⟨holds_mixed standard, holds_mixed standard⟩
  · exact yields bare iterates

/-- A type and another one whose parts are contained wherever they are definitely below. -/
structure Comparison (store : TypeStore) (hierarchy : Hierarchy) (below : TypeId → TypeId → Prop)
    (source target : TypeId) : Prop where
  standard : initial.GrowsTo store
  comparable : store.Comparable source target
  lower : ∀ sourcePart targetPart,
    (∀ count, store.HasArity sourcePart count → store.HasArity source count) →
    (∀ count, store.HasArity targetPart count → store.HasArity target count) →
    below sourcePart targetPart → Contained store hierarchy sourcePart targetPart

section

variable {below : TypeId → TypeId → Prop} {sourceShape targetShape : Shape}
  (comparison : Comparison store hierarchy below source target)
  (sourceFound : store.lookup source = some sourceShape)
  (targetFound : store.lookup target = some targetShape)

include comparison sourceFound targetFound

theorem Comparison.entries {sourceKey sourceValue key value : TypeId}
    (sourceParts : sourceShape.parts = [sourceKey, sourceValue])
    (targetParts : targetShape.parts = [key, value]) (keys : below sourceKey key)
    (values : below sourceValue value) :
    Contained store hierarchy sourceKey key ∧ Contained store hierarchy sourceValue value := by
  constructor
  · exact comparison.lower _ _ (fun _ arity => arity.of_part sourceFound (by simp [sourceParts]))
      (fun _ arity => arity.of_part targetFound (by simp [targetParts])) keys
  · exact comparison.lower _ _ (fun _ arity => arity.of_part sourceFound (by simp [sourceParts]))
      (fun _ arity => arity.of_part targetFound (by simp [targetParts])) values

theorem contained_object {sourceName targetName : String} {sources targets : List TypeId}
    (isSource : sourceShape = .object sourceName sources)
    (isTarget : targetShape = .object targetName targets)
    (derived : hierarchy.isSameOrDerived sourceName targetName = true)
    (covariant : ∀ pair ∈ argumentPairs sources targets, below pair.1 pair.2) :
    Contained store hierarchy source target := by
  subst isSource isTarget
  intro value held
  rw [holds_iff sourceFound] at held
  rw [holds_iff targetFound]
  cases value with
  | object className entries =>
      obtain ⟨instanceOf, yields⟩ := held
      have above := Hierarchy.reaches_of_isSameOrDerived derived
      refine ⟨instanceOf.trans above, fun given iterates => ?_⟩
      have equallyMany : sources ≠ [] → sources.length = targets.length := fun some =>
        comparison.comparable _ _ (hasArity_of_lookup sourceFound some)
          (hasArity_of_lookup targetFound given)
      have positions : ∀ pair ∈ argumentPairs sources targets,
          Contained store hierarchy pair.1 pair.2 := by
        intro pair present
        obtain ⟨fromSource, inTarget⟩ := mem_of_mem_argumentPairs present
        apply comparison.lower _ _ _ _ (covariant pair present)
        · rcases fromSource with top | inSource
          · rw [top]
            exact fun count arity =>
              absurd arity (not_hasArity_scalar comparison.standard .mixed count)
          · exact fun _ arity => arity.of_part sourceFound inSource
        · exact fun _ arity => arity.of_part targetFound inTarget
      obtain ⟨keys, values⟩ := contained_iterated comparison.standard equallyMany positions
      exact contained_entries keys values
        (yields_iterated comparison.standard (above.trans iterates) yields)
  | _ => exact held.elim

theorem contained_objectToIterable {name : String} {arguments : List TypeId} {key value : TypeId}
    (isSource : sourceShape = .object name arguments) (isTarget : targetShape = .iterable key value)
    (iterates : hierarchy.isTraversable name = true)
    (keys : below (iteratedTypes arguments).1 key)
    (values : below (iteratedTypes arguments).2 value) :
    Contained store hierarchy source target := by
  subst isSource isTarget
  intro value held
  rw [holds_iff sourceFound] at held
  rw [holds_iff targetFound]
  have arities := hasArity_of_iteratedTypes comparison.standard sourceFound
  cases value with
  | object className entries =>
      obtain ⟨instanceOf, yields⟩ := held
      have traversable := Hierarchy.reaches_of_isSameOrDerived iterates
      refine ⟨instanceOf.trans traversable, ?_⟩
      refine contained_entries ?_ ?_ (yields_iterated comparison.standard traversable yields)
      · exact comparison.lower _ _ (fun count => (arities count).1)
          (fun _ arity => arity.of_part targetFound List.mem_cons_self) keys
      · exact comparison.lower _ _ (fun count => (arities count).2)
          (fun _ arity => arity.of_part targetFound (by simp [Shape.parts])) values
  | _ => exact held.elim

theorem contained_atomic (reason : DefiniteAtomic hierarchy below sourceShape targetShape) :
    Contained store hierarchy source target := by
  cases reason with
  | object derived _ covariant =>
      exact contained_object comparison sourceFound targetFound rfl rfl derived covariant
  | objectToIterable iterates keys values =>
      exact contained_objectToIterable comparison sourceFound targetFound rfl rfl iterates keys
        values
  | iterableToIterable keys values =>
      obtain ⟨keysIn, valuesIn⟩ :=
        comparison.entries sourceFound targetFound rfl rfl keys values
      intro value held
      rw [holds_iff sourceFound] at held
      rw [holds_iff targetFound]
      cases value with
      | array entries => exact contained_entries keysIn valuesIn held
      | object className entries => exact ⟨held.1, contained_entries keysIn valuesIn held.2⟩
      | _ => exact held.elim
  | arrayToIterable keys values =>
      obtain ⟨keysIn, valuesIn⟩ :=
        comparison.entries sourceFound targetFound rfl rfl keys values
      intro value held
      rw [holds_iff sourceFound] at held
      rw [holds_iff targetFound]
      cases value with
      | array entries => exact contained_entries keysIn valuesIn held
      | _ => exact held.elim
  | arrayToArray keys values =>
      obtain ⟨keysIn, valuesIn⟩ :=
        comparison.entries sourceFound targetFound rfl rfl keys values
      intro value held
      rw [holds_iff sourceFound] at held
      rw [holds_iff targetFound]
      cases value with
      | array entries => exact contained_entries keysIn valuesIn held
      | _ => exact held.elim

end

/-- Containment descends with the relation, level by level, from the pair to its parts. -/
theorem contained_of_below (standard : initial.GrowsTo store) (levels : Nat)
    (comparable : store.Comparable source target)
    (yes : Below hierarchy store levels source target) :
    Contained store hierarchy source target := by
  -- Parts have no arities that the whole does not have, so they stay comparable.
  induction levels generalizing source target with
  | zero => exact absurd yes (not_below_zero _ _ _ _)
  | succ levels ih =>
      rcases (below_succ_iff ..).mp yes with
        trivially | ⟨-, -, _, _, sourceFound, targetFound, reason⟩
      · rcases trivially with same | top | bottom
        · rw [same]
          exact fun _ held => held
        · rw [top]
          exact fun _ _ => holds_mixed standard
        · rw [bottom]
          exact fun _ held => absurd held (not_holds_never standard)
      · cases reason with
        | unionSource each =>
            intro value held
            obtain ⟨member, present, held⟩ := (holds_iff sourceFound).mp held
            have lower := comparable.of_arities (fun _ arity => arity.of_part sourceFound present)
              (fun _ arity => arity)
            exact ih lower (each member present) value held
        | unionTarget _ present accepts =>
            intro value held
            have lower := comparable.of_arities (fun _ arity => arity)
              (fun _ arity => arity.of_part targetFound present)
            exact (holds_iff targetFound).mpr ⟨_, present, ih lower accepts value held⟩
        | intersectionTarget _ each =>
            intro value held
            refine (holds_iff targetFound).mpr (fun member present => ?_)
            have lower := comparable.of_arities (fun _ arity => arity)
              (fun _ arity => arity.of_part targetFound present)
            exact ih lower (each member present) value held
        | intersectionSource _ present relates =>
            intro value held
            have all := (holds_iff sourceFound).mp held
            have lower := comparable.of_arities (fun _ arity => arity.of_part sourceFound present)
              (fun _ arity => arity)
            exact ih lower relates value (all _ present)
        | atomic reason =>
            have comparison : Comparison store hierarchy (Below hierarchy store levels) source
                target :=
              ⟨standard, comparable, fun _ _ inSource inTarget related =>
                ih (comparable.of_arities inSource inTarget) related⟩
            exact contained_atomic comparison sourceFound targetFound reason

theorem contained_of_isSubtype (standard : initial.GrowsTo store)
    (comparable : store.Comparable source target)
    (fits : isSubtype store hierarchy source target = true) :
    Contained store hierarchy source target :=
  contained_of_below standard levelLimit comparable ((isSubtype_iff_below ..).mp fits)

end Subtype

open TypeStore

/-- A yes means containment, where all generic classes in both types take equally many arguments.
The store may hold any types, also such as contain themselves. -/
theorem holds_of_relate_yes {store : TypeStore} (standard : initial.GrowsTo store)
    (hierarchy : Hierarchy) {source target : TypeId} {count : Nat}
    (sourceArity : ∀ other, store.HasArity source other → other = count)
    (targetArity : ∀ other, store.HasArity target other → other = count)
    (yes : (relate store hierarchy source target).verdict = .yes) (value : Value)
    (held : store.Holds hierarchy source value) : store.Holds hierarchy target value := by
  have comparable : store.Comparable source target := fun _ _ inSource inTarget =>
    (sourceArity _ inSource).trans (targetArity _ inTarget).symm
  exact Subtype.contained_of_below standard _ comparable yes value held

def bagHierarchy : Hierarchy := Hierarchy.empty.addParent "Bag" Hierarchy.traversable

/-- The shapes `Bag<int>`, `array<int>`, their union, `int|string` and `iterable<int|string>`,
numbered from 7. -/
def bagStore : TypeStore :=
  ⟨((((initial.shapes.push (.object "Bag" [.int])).push (.array .mixed .int)).push
    (.union [⟨7⟩, ⟨8⟩])).push (.union [.int, .string])).push (.iterable .mixed ⟨10⟩)⟩

theorem holds_of_relate_yes_bag :
    initial.GrowsTo bagStore ∧ (∀ other, bagStore.HasArity ⟨9⟩ other → other = 1) ∧
      (∀ other, bagStore.HasArity ⟨11⟩ other → other = 1) ∧
      (relate bagStore bagHierarchy ⟨9⟩ ⟨11⟩).verdict = .yes ∧
      bagStore.Holds bagHierarchy ⟨9⟩ (.object "\\BAG" [(.null, .int 3)]) ∧
      bagStore.Holds bagHierarchy ⟨11⟩ (.object "\\BAG" [(.null, .int 3)]) := by
  have standard : initial.GrowsTo bagStore :=
    ((((growsTo_push _ _).trans (growsTo_push _ _)).trans (growsTo_push _ _)).trans
      (growsTo_push _ _)).trans (growsTo_push _ _)
  have single (id : TypeId) (other : Nat) (arity : bagStore.HasArity id other) : other = 1 := by
    obtain ⟨name, arguments, present, _, rfl⟩ := arity.mem_shapes
    simp [bagStore, initial] at present
    simp [present]
  have yes : (relate bagStore bagHierarchy ⟨9⟩ ⟨11⟩).verdict = .yes := by decide
  have held : bagStore.Holds bagHierarchy ⟨9⟩ (.object "\\BAG" [(.null, .int 3)]) := by
    have inBag : bagStore.Holds bagHierarchy ⟨7⟩ (.object "\\BAG" [(.null, .int 3)]) := by
      have mixedKey : bagStore.Holds bagHierarchy .mixed .null := holds_mixed standard
      have intValue : bagStore.Holds bagHierarchy .int (.int 3) := .scalar rfl trivial
      refine .object rfl (Hierarchy.reaches_of_isSameOrDerived (by decide)) ?_ ?_
      · simpa [Subtype.iteratedTypes] using fun _ => mixedKey
      · simpa [Subtype.iteratedTypes] using fun _ => intValue
    exact .union rfl List.mem_cons_self inBag
  exact ⟨standard, single _, single _, yes, held,
    holds_of_relate_yes standard bagHierarchy (single _) (single _) yes _ held⟩

end AssociationCheck
