/-
Learning more of the hierarchy.

When more classes are known to derive from others, more types fit. A class with arguments may then
count as a collection that did not before, which changes the form in which a declared type is
compared. What fitted before still fits: the new form is the normal form of the old one, and normal
form loses nothing that the expected type asks for.
-/

import AssociationCheck.Proofs.Rule.ComparedForms

namespace AssociationCheck

namespace TypeTree

variable {hierarchy further : Hierarchy} {options : CheckOptions} {source target tree : TypeTree}
  {trees : List TypeTree}

/-! ### Comparing again -/

section Learning

variable (learns : ∀ child ancestor, hierarchy.isSameOrDerived child ancestor = true →
  further.isSameOrDerived child ancestor = true)
include learns

/-- The form in which a tree is compared with more knowledge is that of its form with less. -/
theorem Normal.normalize_normalize (normal : tree.Normal) :
    TypeTree.normalize further options (TypeTree.normalize hierarchy options tree) =
      TypeTree.normalize further options tree := by
  induction normal with
  | scalar kind => rfl
  | @object name arguments each =>
      cases last : arguments.getLast? with
      | none => rw [normalize_object_of_nil last]
      | some value =>
          rw [normalize_object_of_last last, normalize_object_of_last last]
          by_cases derived :
              hierarchy.isSameOrDerived name options.collectionInterface = true
          · rw [if_pos derived, if_pos (learns _ _ derived)]
            exact normalize_collectionOf name (each value (List.mem_of_getLast? last))
          · rw [if_neg derived, normalize_object_of_last last]
  | iterable => rfl
  | array => rfl
  | union _ _ each ih =>
      rw [normalize_union, normalize_union, normalize_unite (normal_map_normalize each),
        List.map_map]
      exact congrArg TypeTree.unite (List.map_congr_left ih)
  | intersection _ _ each ih =>
      rw [normalize_intersection, normalize_intersection,
        normalize_meet (normal_map_normalize each), List.map_map]
      exact congrArg TypeTree.meet (List.map_congr_left ih)

end Learning

/-! ### What normal form keeps -/

/-- If normal form keeps what fits an undivided tree wherever it is no union or intersection, it
keeps it everywhere. -/
theorem Normal.normalize_fits (undivided : target.Undivided) (proper : target ≠ .scalar .mixed)
    (leaf : ∀ tree : TypeTree, tree.Normal → tree.Undivided → tree.Fits hierarchy target →
      (TypeTree.normalize further options tree).Fits further target)
    (normal : tree.Normal) (fits : tree.Fits hierarchy target) :
    (TypeTree.normalize further options tree).Fits further target := by
  induction normal using Normal.divide with
  | undivided tree normal whole => exact leaf tree normal whole fits
  | union members normal each ih =>
      rw [normal.union_fits_iff] at fits
      rw [normalize_union, unite_fits_iff (normal_map_normalize each), List.forall_mem_map]
      exact fun member present => ih member present (fits member present)
  | intersection members normal each ih =>
      rw [normal.intersection_fits_iff undivided proper] at fits
      obtain ⟨member, present, fits⟩ := fits
      rw [normalize_intersection, meet_fits_iff (normal_map_normalize each) undivided proper]
      exact ⟨_, List.mem_map_of_mem present, ih member present fits⟩

/-- If normal form keeps what a tree fits wherever that is no union or intersection, it keeps it
everywhere. -/
theorem Normal.fits_normalize (whole : source.unionMembers = [source])
    (proper : source ≠ .scalar .never)
    (self : ∀ member ∈ source.intersectionMembers,
      source.Fits hierarchy member ∧ source.Fits further member)
    (leaf : ∀ tree : TypeTree, tree.Normal → tree.Undivided → source.Fits hierarchy tree →
      source.Fits further (TypeTree.normalize further options tree))
    (normal : tree.Normal) (fits : source.Fits hierarchy tree) :
    source.Fits further (TypeTree.normalize further options tree) := by
  induction normal using Normal.divide with
  | undivided tree normal undivided => exact leaf tree normal undivided fits
  | union members normal each ih =>
      rw [normal.fits_union_iff whole proper] at fits
      obtain ⟨member, present, fits⟩ := fits
      rw [normalize_union, fits_unite_iff (normal_map_normalize each) whole proper]
      exact ⟨_, List.mem_map_of_mem present, ih member present fits⟩
  | intersection members normal each ih =>
      rw [normal.fits_intersectionMembers_iff whole fun member present =>
        (self member present).1] at fits
      rw [normalize_intersection, fits_meet_iff (normal_map_normalize each) whole
        fun member present => (self member present).2, List.forall_mem_map]
      exact fun member present => ih member present (fits member present)

/-! ### Collections -/

section Collections

variable {name : String} {value : TypeTree}

variable (learns : ∀ child ancestor, hierarchy.isSameOrDerived child ancestor = true →
    further.isSameOrDerived child ancestor = true)
include learns

theorem normalize_fits_instances (normal : tree.Normal)
    (fits : tree.Fits hierarchy (instances options.collectionInterface)) :
    (normalize further options tree).Fits further
      (instances options.collectionInterface) := by
  apply normal.normalize_fits ⟨rfl, rfl⟩ (by simp [instances]) _ fits
  intro tree normal undivided fits
  have compared : Compared further options tree (normalize further options tree) :=
    undivided.compared
  generalize normalize further options tree = form at compared ⊢
  cases compared with
  | kept => exact fits.mono learns
  | collection last derived =>
      cases normal with
      | object name each =>
          rw [collectionOf_fits_iff (each _ (List.mem_of_getLast? last)) ⟨rfl, rfl⟩
            (by simp [instances])]
          exact .inl (.object (by simpa using derived) (.inr (.inl rfl)) (by simp [argumentPairs]))
  | iterable key value => cases fits
  | array key value => cases fits

theorem normalize_fits_yielding (normal : tree.Normal)
    (fits : tree.Fits hierarchy (yielding value)) :
    (normalize further options tree).Fits further (yielding value) := by
  apply normal.normalize_fits ⟨rfl, rfl⟩ (by simp [yielding]) _ fits
  intro tree normal undivided fits
  have compared : Compared further options tree (normalize further options tree) :=
    undivided.compared
  generalize normalize further options tree = form at compared ⊢
  cases compared with
  | kept => exact fits.mono learns
  | collection last =>
      cases normal with
      | object name each =>
          rw [collectionOf_fits_iff (each _ (List.mem_of_getLast? last)) ⟨rfl, rfl⟩
            (by simp [yielding])]
          cases fits with
          | objectToIterable _ _ values =>
              rw [iteratedTypes_of_last last] at values
              exact .inr (.iterableToIterable (.refl _) (values.mono learns))
  | iterable key value =>
      cases fits with
      | refl => exact .refl _
      | iterableToIterable _ values => exact .iterableToIterable (.refl _) (values.mono learns)
  | array key value =>
      cases fits with
      | arrayToIterable _ values => exact .arrayToIterable (.refl _) (values.mono learns)

theorem collection_fits_normalize (valueNormal : value.Normal) (normal : tree.Normal)
    (fits : (collectionOf name value).Fits hierarchy tree) :
    (collectionOf name value).Fits further (normalize further options tree) := by
  have collection := collectionOf_eq name value
  have self : ∀ (known : Hierarchy), ∀ member ∈ (collectionOf name value).intersectionMembers,
      (collectionOf name value).Fits known member := by
    intro known member present
    rw [collection] at present ⊢
    refine .intersectionSource ?_ (undivided_collection_members name value member present) present
      (.refl member)
    intro isNever
    exact (collection_form name value).noBottom (isNever ▸ present)
  apply Normal.fits_normalize (by rw [collection]; rfl) (by simp [collection])
    (fun member present => ⟨self hierarchy member present, self further member present⟩)
    _ normal fits
  intro tree normal undivided fits
  have compared : Compared further options tree (normalize further options tree) :=
    undivided.compared
  generalize normalize further options tree = form at compared ⊢
  cases compared with
  | kept => exact fits.mono learns
  | collection last =>
      cases normal with
      | object other each =>
          -- The arguments are all `mixed`, so the collection asks for no values in particular.
          have present := List.mem_of_getLast? last
          obtain ⟨isMixed, derived⟩ := eq_mixed_of_collection_fits valueNormal present fits
          rw [fits_collectionOf_iff (each _ present) (.collectionOf name valueNormal),
            collectionOf_fits_iff valueNormal ⟨rfl, rfl⟩ (by simp [instances]),
            collectionOf_fits_iff valueNormal ⟨rfl, rfl⟩ (by simp [yielding]), isMixed]
          exact ⟨.inl (.object (by simpa using learns _ _ derived) (.inr (.inl rfl))
            (by simp [argumentPairs])), .inr (.iterableToIterable (.refl _) (.top value))⟩
  | iterable key item =>
      -- Normal form forgets the key, which here cannot have been any other than `mixed`.
      have anyKey : key = .scalar .mixed := by
        rw [collectionOf_fits_iff valueNormal ⟨rfl, rfl⟩ (by simp)] at fits
        rcases fits with fits | fits
        · cases fits with
          | objectToIterable _ keys => exact mixed_fits_iff.mp keys
        · cases fits with
          | refl => rfl
          | iterableToIterable keys => exact mixed_fits_iff.mp keys
      rw [anyKey] at fits
      exact fits.mono learns
  | array key item =>
      rw [collectionOf_fits_iff valueNormal ⟨rfl, rfl⟩ (by simp)] at fits
      rcases fits with fits | fits <;> cases fits

end Collections

/-! ### Without null -/

theorem normalize_withoutNull_fits
    (keeps : ∀ tree : TypeTree, tree.Normal → tree.Fits hierarchy target →
      (normalize further options tree).Fits further target)
    (normal : tree.Normal) (fits : tree.withoutNull.Fits hierarchy target) :
    (normalize further options tree).withoutNull.Fits further target := by
  have single : ∀ member : TypeTree, member.Normal →
      (member = .scalar .null ∨ member.Fits hierarchy target) →
      ∀ part ∈ (normalize further options member).unionMembers,
        part = .scalar .null ∨ part.Fits further target := by
    intro member memberNormal holds part present
    rcases holds with isNull | fits
    · rw [isNull] at present
      exact .inl (List.mem_singleton.mp present)
    · have kept := keeps member memberNormal fits
      rw [memberNormal.normalize.fits_iff_of_unionMembers] at kept
      exact .inr (kept part present)
  rw [withoutNull_fits_iff normal] at fits
  rw [withoutNull_fits_iff normal.normalize]
  cases tree with
  | union members =>
      have each : ∀ member ∈ members, member.Normal :=
        fun member present => (normal.of_mem_unionMembers present).1
      have mixedDecides : (TypeTree.scalar .mixed = .scalar .null ∨
          Fits further (.scalar .mixed) target) →
          ∀ part : TypeTree, part = .scalar .null ∨ part.Fits further target := by
        intro holds part
        have isMixed := mixed_fits_iff.mp (holds.resolve_left (by simp))
        exact .inr (isMixed ▸ .top part)
      rw [normalize_union, forall_unionMembers_unite (normal_map_normalize each)
        (.inr (.bottom target)) mixedDecides, List.forall_mem_map]
      exact fun member present => single member (each member present) (fits member present)
  | _ => exact single _ normal (fits _ List.mem_cons_self)

end TypeTree

/-! ### The two directions of a property -/

namespace Association

variable {hierarchy further : Hierarchy} {options : CheckOptions} {association : Association}
  {declared : TypeTree}
  (learns : ∀ child ancestor, hierarchy.isSameOrDerived child ancestor = true →
    further.isSameOrDerived child ancestor = true)
include learns

/-- What the database can hold keeps fitting the property when more is known. -/
theorem database_fits_learning (normal : declared.Normal)
    (fits : (association.expectedTree options).Fits hierarchy
      (association.comparedTree hierarchy options declared)) :
    (association.expectedTree options).Fits further
      (association.comparedTree further options declared) := by
  unfold comparedTree expectedTree at *
  cases toMany : association.isToMany with
  | false =>
      simp only [toMany, Bool.false_eq_true, if_false] at fits ⊢
      exact fits.mono learns
  | true =>
      simp only [toMany, if_true] at fits ⊢
      rw [← normal.normalize_normalize learns]
      exact TypeTree.collection_fits_normalize learns
        (TypeTree.normal_instances association.targetEntity) normal.normalize fits

theorem property_fits_learning (normal : declared.Normal)
    (fits : (TypeTree.forProperty options (association.expectedTree options)
      (association.comparedTree hierarchy options declared)).Fits hierarchy
        (association.expectedTree options)) :
    (TypeTree.forProperty options (association.expectedTree options)
      (association.comparedTree further options declared)).Fits further
        (association.expectedTree options) := by
  unfold comparedTree expectedTree TypeTree.forProperty at *
  cases toMany : association.isToMany with
  | false =>
      simp only [toMany, Bool.false_eq_true, if_false] at fits ⊢
      exact fits.mono learns
  | true =>
      simp only [toMany, if_true] at fits ⊢
      have target : TypeTree.Normal
          (.object (withoutLeadingSeparators association.targetEntity) []) :=
        TypeTree.normal_instances _
      have formNormal : (declared.normalize hierarchy options).Normal := normal.normalize
      rw [← normal.normalize_normalize learns]
      split
      · rename_i tolerated
        rw [if_pos tolerated, TypeTree.fits_collectionOf_iff target formNormal.withoutNull] at fits
        rw [TypeTree.fits_collectionOf_iff target formNormal.normalize.withoutNull]
        obtain ⟨isInstance, yields⟩ := fits
        exact ⟨TypeTree.normalize_withoutNull_fits
            (fun _ normal fits => TypeTree.normalize_fits_instances learns normal fits) formNormal
            isInstance,
          TypeTree.normalize_withoutNull_fits
            (fun _ normal fits => TypeTree.normalize_fits_yielding learns normal fits) formNormal
            yields⟩
      · rename_i required
        rw [if_neg required, TypeTree.fits_collectionOf_iff target formNormal] at fits
        rw [TypeTree.fits_collectionOf_iff target formNormal.normalize]
        exact fits.imp (TypeTree.normalize_fits_instances learns formNormal)
          (TypeTree.normalize_fits_yielding learns formNormal)

end Association

end AssociationCheck
