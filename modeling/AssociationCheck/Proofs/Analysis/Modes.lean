/-
Live and static resolvers agree.

A snapshot that has some metadata under the names of their classes, and a resolver to which the same
metadata were attached, have the same metadata for every class in every spelling, if no two of the
metadata are of one class. So classes are found the same with either, whatever was looked up before.
-/

import AssociationCheck.Proofs.Analysis.Runs
import AssociationCheck.Proofs.Mapping.Spellings
import AssociationCheck.Proofs.Mapping.StaticCalls

namespace AssociationCheck

open StaticResolver (classKeys)

/-! ### Look-ups -/

def Snapshot.named (known : List ClassMetadata) : Snapshot where
  entities := known.map (fun metadata => (metadata.name, metadata))

section Lookups

variable {known attached : List ClassMetadata} {name : String} {metadata : ClassMetadata}

theorem find?_sameClass_perm (distinct : (classKeys known).Nodup) (same : attached.Perm known) :
    attached.find? (fun metadata => sameClass metadata.name name) =
      known.find? (fun metadata => sameClass metadata.name name) := by
  have distinctToo : (classKeys attached).Nodup := (same.map _).nodup_iff.mpr distinct
  ext metadata
  rw [find?_sameClass_eq_some_iff ClassMetadata.name distinctToo,
    find?_sameClass_eq_some_iff ClassMetadata.name distinct, same.mem_iff]

theorem get?_named (distinct : (classKeys known).Nodup) (name : String) :
    (Snapshot.named known).get? name =
      known.find? (fun metadata => sameClass metadata.name name) := by
  have apart : (Snapshot.named known).NamesApart := by
    unfold Snapshot.NamesApart Snapshot.named
    rw [List.map_map]
    exact distinct
  rw [Snapshot.get?_eq_find? apart, Snapshot.named, List.find?_map, Option.map_map]
  exact Option.map_id'

theorem lookup_named (distinct : (classKeys known).Nodup) (same : attached.Perm known)
    (name : String) :
    LiveRun.lookup (some (Snapshot.named known)) name = lastAttached attached name := by
  rw [LiveRun.lookup, Option.bind_some, get?_named distinct, lastAttached,
    find?_sameClass_perm distinct ((List.reverse_perm attached).trans same)]

end Lookups

/-! ### Resolvers that have the same metadata -/

section Serving

open LiveRun

variable {σ ε : Type} (load : StateM σ (Except ε Snapshot)) {snapshot : Snapshot} {run : LiveRun}
  {now : σ} {call : LiveRun.Call} {calls : List LiveRun.Call}

/-- A run has loaded a snapshot and remembers nothing else, or is new and about to load it. -/
def LiveRun.LoadsFrom (load : StateM σ (Except ε Snapshot)) (snapshot : Snapshot) (run : LiveRun)
    (now : σ) : Prop :=
  run = {} ∧ (load.run now).1 = .ok snapshot ∨
    run.loaded = some (some snapshot) ∧ run.Remembers (some snapshot)

theorem LiveRun.LoadsFrom.perform (loads : run.LoadsFrom load snapshot now)
    (stays : call ≠ .clear) :
    let given := (LiveRun.perform load call run).run now
    call.AnsweredFrom (.ok snapshot : Except ε Snapshot) given.1.1 ∧
      given.1.2.LoadsFrom load snapshot given.2 := by
  intro given
  rcases loads with ⟨rfl, isLoaded⟩ | ⟨loaded, remembers⟩
  · have nothing : Remembers {} (Except.ok snapshot : Except ε Snapshot).toOption :=
      remembers_nothing (some snapshot)
    obtain ⟨answered, remembers⟩ := nothing.performKnown stays
    cases asks : call.asks with
    | true =>
        have same :
            given = (performKnown (.ok snapshot : Except ε _) call {}, (load.run now).2) := by
          rw [← isLoaded]
          exact congrFun (perform_new load asks) now
        rw [same]
        exact ⟨answered, .inr ⟨performKnown_new _ asks, remembers⟩⟩
    | false =>
        have same : given = ((.attached false, {}), now) :=
          congrFun (perform_offered load asks stays) now
        have quiet : performKnown (.ok snapshot : Except ε _) call {} = (.attached false, {}) :=
          congrArg Id.run (perform_offered (pure (.ok snapshot)) asks stays)
        rw [quiet] at answered
        rw [same]
        exact ⟨answered, .inl ⟨rfl, isLoaded⟩⟩
  · obtain ⟨first, next⟩ := perform_loaded load (.ok snapshot) loaded stays
    have same : given = (performKnown (.ok snapshot : Except ε _) call run, now) :=
      congrFun first now
    rw [same]
    have remembered : run.Remembers (Except.ok snapshot : Except ε Snapshot).toOption := remembers
    obtain ⟨answered, remembersNext⟩ := remembered.performKnown stays
    exact ⟨answered, .inr ⟨next, remembersNext⟩⟩

theorem LiveRun.LoadsFrom.performAll (loads : run.LoadsFrom load snapshot now)
    (stays : Call.clear ∉ calls) :
    let given := (LiveRun.performAll load calls run).run now
    given.1.2.LoadsFrom load snapshot given.2 := by
  induction calls generalizing run now with
  | nil => exact loads
  | cons call others ih =>
      obtain ⟨_, next⟩ := loads.perform load (List.ne_of_not_mem_cons stays).symm
      rw [LiveRun.performAll_cons]
      exact ih next (List.not_mem_of_not_mem_cons stays)

/-- Every answer of a resolver is the metadata that a function says, now and later: some property
of resolvers that says so is kept by look-ups. -/
structure Serves (load : StateM σ (Except ε Snapshot)) (metadata : String → Option ClassMetadata)
    (stands : Resolver → σ → Prop) : Prop where
  found : ∀ {resolver now}, stands resolver now → ∀ name,
    ((resolver.resolve load name).run now).1.1 = metadata name
  kept : ∀ {resolver now}, stands resolver now → ∀ name,
    stands ((resolver.resolve load name).run now).1.2 ((resolver.resolve load name).run now).2

variable {known attached : List ClassMetadata} {metadata : String → Option ClassMetadata}
  {stands : Resolver → σ → Prop}

theorem serves_static (attached : List ClassMetadata) :
    Serves load (lastAttached attached)
      (fun resolver _ => ∃ static, resolver = .static static ∧ static.Knows attached) where
  found := by
    rintro _ now ⟨static, rfl, knows⟩ name
    exact (knows.resolve name).1
  kept := by
    rintro _ now ⟨static, rfl, knows⟩ name
    exact ⟨_, rfl, (knows.resolve name).2⟩

theorem asked (name : String) : Call.resolve name ≠ .clear := by
  intro impossible
  cases impossible

theorem serves_live (distinct : (classKeys known).Nodup) (same : attached.Perm known) :
    Serves load (lastAttached attached)
      (fun resolver now => ∃ run, resolver = .live run ∧
        run.LoadsFrom load (.named known) now) where
  found := by
    rintro _ now ⟨run, rfl, loads⟩ name
    obtain ⟨⟨found, isFound, ⟨spelling, isSpelling, looked⟩, _⟩, _⟩ :=
      loads.perform load (asked name)
    have given : ((Resolver.resolve (.live run) load name).run now).1.1 = found :=
      Answer.found.inj isFound
    -- The answer may have been remembered under another spelling of the name.
    rw [given, looked]
    exact (lookup_named distinct same spelling).trans
      (lastAttached_congr ((sameClass_iff _ _).mp isSpelling).symm)
  kept := by
    rintro _ now ⟨run, rfl, loads⟩ name
    exact ⟨_, rfl, (loads.perform load (asked name)).2⟩

theorem checkClasses_first (hierarchy : Hierarchy) (options : CheckOptions) (entity : EntityClass)
    (others : List EntityClass) (store : TypeStore) (resolver : Resolver) (now : σ) :
    ((checkClasses load hierarchy options (entity :: others) store resolver).run now).1.1 =
      let given := (resolver.resolve load entity.name).run now
      let checked := (checkClass hierarchy options given.1.1 entity).run store
      checked.1 ++
        ((checkClasses load hierarchy options others checked.2 given.1.2).run given.2).1.1 := rfl

/-- What is found for classes depends on the metadata that a resolver serves, and not on the
resolver. -/
theorem Serves.checkClasses_eq {standsToo : Resolver → σ → Prop}
    (serves : Serves load metadata stands) (servesToo : Serves load metadata standsToo)
    (hierarchy : Hierarchy) (options : CheckOptions) (classes : List EntityClass)
    (store : TypeStore) {resolver other : Resolver} {now then_ : σ} (is : stands resolver now)
    (isToo : standsToo other then_) :
    ((checkClasses load hierarchy options classes store resolver).run now).1.1 =
      ((checkClasses load hierarchy options classes store other).run then_).1.1 := by
  induction classes generalizing store resolver other now then_ with
  | nil => rfl
  | cons entity others ih =>
      have found := (serves.found is entity.name).trans (servesToo.found isToo entity.name).symm
      let checked := (checkClass hierarchy options
        ((resolver.resolve load entity.name).run now).1.1 entity).run store
      have rest := ih checked.2 (serves.kept is entity.name) (servesToo.kept isToo entity.name)
      rw [checkClasses_first, checkClasses_first]
      dsimp only
      rw [← found, rest]

/-- A live resolver whose loader yields a snapshot of some metadata under the names of their classes
finds for classes what a static one does to which the same metadata were attached in any order, if
the classes are different. What was looked up on either before does not matter. -/
theorem checkClasses_either_mode (start : σ) (distinct : (classKeys known).Nodup)
    (yields : (load.run start).1 = .ok (.named known)) (stays : Call.clear ∉ calls)
    {resolver : StaticResolver} (after : resolver.After attached) (same : attached.Perm known)
    (hierarchy : Hierarchy) (options : CheckOptions) (classes : List EntityClass)
    (store : TypeStore) :
    let live := (LiveRun.performAll load calls {}).run start
    ((checkClasses load hierarchy options classes store (.live live.1.2)).run live.2).1.1 =
      ((checkClasses load hierarchy options classes store (.static resolver)).run start).1.1 := by
  intro live
  have loads : LiveRun.LoadsFrom load (.named known) {} start := .inl ⟨rfl, yields⟩
  have ready := loads.performAll load stays
  exact (serves_live load distinct same).checkClasses_eq load (serves_static load attached)
    hierarchy options classes store ⟨_, rfl, ready⟩ ⟨resolver, rfl, after.knows⟩

end Serving

def marketMetadata : List ClassMetadata :=
  [ { name := "App\\Shop", associations := [("manager",
      { fieldName := "manager", kind := .manyToOne, targetEntity := "App\\User"
        joinColumns := [{ nullable := some false }] })] },
    { name := "\\app\\user", identifier := ["id"] } ]

def marketLoad : StateM Nat (Except String Snapshot) := fun count =>
  (.ok (.named marketMetadata), count + 1)

/-- The same metadata attached the other way round, with look-ups between. -/
def marketResolver : StaticResolver :=
  marketMetadata.reverse.foldl
    (fun resolver metadata => ((resolver.attach metadata).resolve "APP\\SHOP").2) {}

def marketFindings (resolver : Resolver) (count : Nat) : List Diagnostic :=
  let read := (InputClass.declare
    { name := "APP\\Shop", properties := [⟨"manager", some "App\\User|null", 5⟩] }).run .initial
  ((checkClasses marketLoad .standard {} [read.1] read.2 resolver).run count).1.1

theorem checkClasses_either_mode_market :
    let calls : List LiveRun.Call := [.resolve "app\\shop", .snapshot, .resolve "App\\Item"]
    let live := (LiveRun.performAll marketLoad calls {}).run 0
    ((classKeys marketMetadata).Nodup ∧ (marketLoad.run 0).1 = .ok (.named marketMetadata) ∧
      LiveRun.Call.clear ∉ calls ∧ marketResolver.After marketMetadata.reverse ∧
      marketMetadata.reverse.Perm marketMetadata) ∧
      marketFindings (.live live.1.2) live.2 = marketFindings (.static marketResolver) 0 ∧
      (marketFindings (.static marketResolver) 0).map (fun found => (found.line, found.code)) =
        [(5, 9002)] := by
  intro calls live
  have distinct : (classKeys marketMetadata).Nodup := by decide +kernel
  have yields : (marketLoad.run 0).1 = .ok (.named marketMetadata) := rfl
  have stays : LiveRun.Call.clear ∉ calls := by decide
  have after : marketResolver.After marketMetadata.reverse :=
    (((StaticResolver.After.start.attach _).resolve _).attach _).resolve _
  have same : marketMetadata.reverse.Perm marketMetadata := List.reverse_perm _
  refine ⟨⟨distinct, yields, stays, after, same⟩, ?_, ?_⟩
  · dsimp only [live, marketFindings]
    exact checkClasses_either_mode marketLoad 0 distinct yields stays after same .standard {} _ _
  · decide +kernel

end AssociationCheck
