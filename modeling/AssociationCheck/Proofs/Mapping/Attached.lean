/-
Which metadata a class has.

Whatever was attached, looked up and forgotten before, the metadata of a class are those attached
last under its name. The cache of a resolver never knows anything else, so looking a class up is
the same with and without it.
-/

import AssociationCheck.Mapping.Attached

namespace AssociationCheck

/-- The metadata attached last under a class name, if they are those of an entity. -/
def lastAttached (attached : List ClassMetadata) (name : String) : Option ClassMetadata :=
  (attached.reverse.find? (fun metadata => sameClass metadata.name name)).filter
    ClassMetadata.isEntity

theorem lastAttached_congr {attached : List ClassMetadata} {name other : String}
    (same : ClassKey.of name = ClassKey.of other) :
    lastAttached attached other = lastAttached attached name := by
  simp only [lastAttached, sameClass, same]

theorem lastAttached_concat (attached : List ClassMetadata) (metadata : ClassMetadata)
    (name : String) :
    lastAttached (attached ++ [metadata]) name =
      if sameClass metadata.name name then some metadata |>.filter ClassMetadata.isEntity
      else lastAttached attached name := by
  rw [lastAttached, List.reverse_append, List.reverse_singleton, List.singleton_append,
    List.find?_cons]
  cases sameClass metadata.name name <;> rfl

namespace StaticResolver

variable {resolver : StaticResolver} {attached : List ClassMetadata}

/-- The resolver has the metadata that were attached, and remembers nothing else. -/
structure Knows (resolver : StaticResolver) (attached : List ClassMetadata) : Prop where
  lookup : ∀ name, resolver.lookup name = lastAttached attached name
  remembered : ∀ name found, resolver.cache.find? name = some found →
    found = lastAttached attached name

theorem knows_nothing : Knows {} [] where
  lookup _ := rfl
  remembered _ _ impossible := by cases impossible

theorem lookup_filter_ne {key other : ClassKey} (apart : other ≠ key)
    (entries : List (ClassKey × ClassMetadata)) :
    (entries.filter (fun entry => entry.1 != key)).lookup other = entries.lookup other := by
  induction entries with
  | nil => rfl
  | cons entry others ih =>
      obtain ⟨first, metadata⟩ := entry
      by_cases dropped : first = key
      · have missed : (other == first) = false := by simpa [dropped] using apart
        rw [List.filter_cons_of_neg (by simp [dropped]), ih, List.lookup_cons, missed]
      · rw [List.filter_cons_of_pos (by simp [dropped]), List.lookup_cons, List.lookup_cons, ih]

theorem lookup_attach (resolver : StaticResolver) (metadata : ClassMetadata) (name : String) :
    (resolver.attach metadata).lookup name =
      if sameClass metadata.name name then some metadata |>.filter ClassMetadata.isEntity
      else resolver.lookup name := by
  unfold lookup attach
  by_cases same : ClassKey.of name = ClassKey.of metadata.name
  · have found : sameClass metadata.name name = true := (sameClass_iff _ _).mpr same.symm
    simp [found, same]
  · have missed : ¬ sameClass metadata.name name = true :=
      fun found => same ((sameClass_iff _ _).mp found).symm
    have apart : (ClassKey.of name == ClassKey.of metadata.name) = false := by simpa using same
    simp [missed, List.lookup_cons, apart, lookup_filter_ne same]

theorem Knows.attach (knows : resolver.Knows attached) (metadata : ClassMetadata) :
    (resolver.attach metadata).Knows (attached ++ [metadata]) where
  lookup name := by rw [lookup_attach, lastAttached_concat, knows.lookup]
  remembered name found isKept := by
    rw [lastAttached_concat]
    unfold StaticResolver.attach at isKept
    cases seen : resolver.cache.contains metadata.name with
    | true =>
        simp only [seen, if_true] at isKept
        cases isKept
    | false =>
        simp only [seen, Bool.false_eq_true, if_false] at isKept
        have other : ¬ sameClass metadata.name name = true := by
          intro same
          rw [MetadataCache.contains, MetadataCache.find?, (sameClass_iff _ _).mp same] at seen
          rw [MetadataCache.find?] at isKept
          rw [isKept] at seen
          cases seen
        rw [if_neg other]
        exact knows.remembered name found isKept

theorem Knows.clear (knows : resolver.Knows attached) : resolver.clear.Knows attached where
  lookup := knows.lookup
  remembered _ _ impossible := by cases impossible

/-- Looking a class up finds the metadata attached last, whether it was looked up before or not. -/
theorem Knows.resolve (knows : resolver.Knows attached) (name : String) :
    (resolver.resolve name).1 = lastAttached attached name ∧
      (resolver.resolve name).2.Knows attached := by
  unfold StaticResolver.resolve MetadataCache.getOrResolve
  cases seen : resolver.cache.find? name with
  | some found => exact ⟨knows.remembered name found seen, knows⟩
  | none =>
      refine ⟨knows.lookup name, ⟨knows.lookup, fun other found isKept => ?_⟩⟩
      change List.lookup _ (_ :: _) = some found at isKept
      rw [List.lookup_cons] at isKept
      split at isKept
      · rename_i same
        rw [← Option.some.inj isKept, knows.lookup name, lastAttached_congr (beq_iff_eq.mp same)]
        rfl
      · exact knows.remembered other found isKept

theorem Knows.attachAll (knows : resolver.Knows attached) (additions : List ClassMetadata) :
    (additions.foldl StaticResolver.attach resolver).Knows (attached ++ additions) := by
  induction additions generalizing resolver attached with
  | nil => simpa using knows
  | cons metadata others ih => simpa using ih (knows.attach metadata)

end StaticResolver

end AssociationCheck
