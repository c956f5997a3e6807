/-
Calls of a live resolver.

A run reaches from one call that clears the resolver to the next. Whatever is called in it, the
loader is asked once if anything is looked up and never otherwise, and all answers come from what
the loader gave. So a run is the same as one for which the outcome of its only load is known
beforehand.
-/

import Mathlib.Data.List.Forall2
import AssociationCheck.Mapping.Resolver

namespace AssociationCheck

namespace LiveRun

inductive Call
  | attach (metadata : ClassMetadata)
  | resolve (name : String)
  | snapshot
  | clear
  deriving DecidableEq, Repr

def Call.asks : Call → Bool
  | resolve _ => true
  | snapshot => true
  | _ => false

inductive Answer
  /-- Whether the metadata that were offered are used. -/
  | attached (isUsed : Bool)
  | found (metadata : Option ClassMetadata)
  | snapshot (loaded : Option Snapshot)
  | cleared
  deriving DecidableEq, Repr

section Performing

variable {m : Type → Type} [Monad m] {ε : Type} (load : m (Except ε Snapshot))

def perform (call : Call) (run : LiveRun) : m (Answer × LiveRun) :=
  match call with
  | .attach metadata => pure (.attached ((Resolver.live run).attach metadata).1, run)
  | .resolve name => do
      let (found, next) ← run.resolve load name
      pure (.found found, next)
  | .snapshot => do
      let (loaded, next) ← run.snapshot load
      pure (.snapshot loaded, next)
  | .clear => pure (.cleared, run.clear)

def performAll (calls : List Call) (run : LiveRun) : m (List Answer × LiveRun) :=
  StateT.run (calls.mapM (perform load)) run

theorem performAll_nil (run : LiveRun) : performAll load [] run = pure ([], run) := by
  rw [performAll, List.mapM_nil]
  rfl

variable [LawfulMonad m]

theorem performAll_cons (call : Call) (others : List Call) (run : LiveRun) :
    performAll load (call :: others) run = (do
      let first ← perform load call run
      let rest ← performAll load others first.2
      pure (first.1 :: rest.1, rest.2)) := by
  rw [performAll, List.mapM_cons]
  rfl

theorem performAll_append (earlier later : List Call) (run : LiveRun) :
    performAll load (earlier ++ later) run = (do
      let first ← performAll load earlier run
      let rest ← performAll load later first.2
      pure (first.1 ++ rest.1, rest.2)) := by
  rw [performAll, List.mapM_append, StateT.run_bind]
  rfl

end Performing

/-! ### One load -/

section OneLoad

variable {m : Type → Type} [Monad m] {ε : Type} (load : m (Except ε Snapshot))
  (outcome : Except ε Snapshot) {run : LiveRun} {call : Call} {calls : List Call}

/-- The answer to a call if the outcome of a load is known. -/
def performKnown (call : Call) (run : LiveRun) : Answer × LiveRun :=
  Id.run (perform (pure outcome) call run)

def performAllKnown (calls : List Call) (run : LiveRun) : List Answer × LiveRun :=
  Id.run (performAll (pure outcome) calls run)

theorem performAllKnown_cons (call : Call) (others : List Call) (run : LiveRun) :
    performAllKnown outcome (call :: others) run =
      let first := performKnown outcome call run
      let rest := performAllKnown outcome others first.2
      (first.1 :: rest.1, rest.2) :=
  congrArg Id.run (performAll_cons (m := Id) (pure outcome) call others run)

variable [LawfulMonad m]

theorem perform_loaded (loaded : run.loaded = some outcome.toOption) (stays : call ≠ .clear) :
    perform load call run = pure (performKnown outcome call run) ∧
      (performKnown outcome call run).2.loaded = some outcome.toOption := by
  cases call with
  | attach => exact ⟨rfl, loaded⟩
  | clear => exact absurd rfl stays
  | snapshot => simp [performKnown, perform, LiveRun.snapshot, loaded]
  | resolve name =>
      cases seen : run.cache.find? name <;>
      simp [performKnown, perform, LiveRun.resolve, LiveRun.snapshot, loaded, seen]

/-- The first call of a run that asks for something loads, and is answered as if the outcome had
been known. -/
theorem perform_new (asks : call.asks = true) :
    perform load call {} = (fun outcome => performKnown outcome call {}) <$> load := by
  cases call with
  | attach => cases asks
  | clear => cases asks
  | snapshot => simp [performKnown, perform, LiveRun.snapshot]
  | resolve name =>
      simp [performKnown, perform, LiveRun.resolve, LiveRun.snapshot, MetadataCache.find?]

omit [LawfulMonad m] in
theorem performKnown_new (asks : call.asks = true) :
    (performKnown outcome call {}).2.loaded = some outcome.toOption := by
  cases call with
  | attach => cases asks
  | clear => cases asks
  | snapshot => rfl
  | resolve name => rfl

omit [LawfulMonad m] in
theorem perform_offered (quiet : call.asks = false) (stays : call ≠ .clear) :
    perform load call run = pure (.attached false, run) := by
  cases call with
  | attach metadata => rfl
  | clear => exact absurd rfl stays
  | snapshot => cases quiet
  | resolve => cases quiet

theorem performAll_loaded (loaded : run.loaded = some outcome.toOption)
    (stays : Call.clear ∉ calls) :
    performAll load calls run = pure (performAllKnown outcome calls run) := by
  induction calls generalizing run with
  | nil => exact performAll_nil load run
  | cons call others ih =>
      obtain ⟨first, next⟩ :=
        perform_loaded load outcome loaded (List.ne_of_not_mem_cons stays).symm
      have afterwards := ih next (List.not_mem_of_not_mem_cons stays)
      rw [performAll_cons, first, pure_bind, performAllKnown_cons, afterwards, pure_bind]

/-- A new run is what it would be with the outcome of its load known, and loads once; if it asks for
nothing it does not load. -/
theorem performAll_new (stays : Call.clear ∉ calls) :
    performAll load calls {} =
      if calls.any Call.asks then (fun outcome => performAllKnown outcome calls {}) <$> load
      else pure (calls.map (fun _ => .attached false), {}) := by
  induction calls with
  | nil => exact performAll_nil load {}
  | cons call others ih =>
      have staysOthers := List.not_mem_of_not_mem_cons stays
      rw [performAll_cons, List.any_cons]
      cases asks : call.asks with
      | true =>
          -- After the first call that asks for something the outcome is known.
          rw [perform_new load asks, bind_map_left, Bool.true_or, if_pos rfl, map_eq_pure_bind]
          congr 1
          funext outcome
          rw [performAll_loaded load outcome (performKnown_new outcome asks) staysOthers, pure_bind,
            performAllKnown_cons]
      | false =>
          have stay := (List.ne_of_not_mem_cons stays).symm
          rw [perform_offered load asks stay, pure_bind, Bool.false_or, ih staysOthers]
          split
          · rw [bind_map_left, map_eq_pure_bind]
            congr 1
            funext outcome
            rw [performAllKnown_cons, performKnown, perform_offered (pure outcome) asks stay]
            rfl
          · rw [pure_bind, List.map_cons]

end OneLoad

/-! ### Answers of one run -/

section Answers

variable {ε : Type} {outcome : Except ε Snapshot} {run : LiveRun} {call : Call}
  {calls : List Call} {name : String} {metadata : ClassMetadata}

/-- An answer comes from the outcome of a load: nothing that is offered is used, and what is found
for a name is what was loaded under some spelling of it. -/
def Call.AnsweredFrom (outcome : Except ε Snapshot) : Call → Answer → Prop
  | attach _, answer => answer = .attached false
  | resolve name, answer => ∃ found, answer = .found found ∧
      (∃ spelling, sameClass spelling name = true ∧ found = lookup outcome.toOption spelling) ∧
      ∀ metadata, found = some metadata → metadata.isEntity = true ∧
        ∃ loaded, outcome = .ok loaded ∧ metadata ∈ loaded.entities.values
  | snapshot, answer => answer = .snapshot outcome.toOption
  | clear, answer => answer = .cleared

theorem mem_values_of_get? {snapshot : Snapshot} (found : snapshot.get? name = some metadata) :
    metadata ∈ snapshot.entities.values := by
  unfold Snapshot.get? at found
  dsimp only at found
  split at found
  · rename_i known isKnown
    cases found
    obtain ⟨before, after, parts, _⟩ := List.lookup_eq_some_iff.mp isKnown
    rw [Dictionary.values, parts, List.map_append, List.map_cons]
    exact List.mem_append_right _ List.mem_cons_self
  · obtain ⟨entry, isFirst, rfl⟩ := Option.map_eq_some_iff.mp found
    exact List.mem_map_of_mem (List.mem_of_find?_eq_some isFirst)

theorem isEntity_of_lookup (found : lookup outcome.toOption name = some metadata) :
    metadata.isEntity = true ∧
      ∃ loaded, outcome = .ok loaded ∧ metadata ∈ loaded.entities.values := by
  obtain ⟨known, isEntity⟩ := Option.filter_eq_some_iff.mp found
  obtain ⟨loaded, isLoaded, isKnown⟩ := Option.bind_eq_some_iff.mp known
  refine ⟨isEntity, loaded, ?_, mem_values_of_get? isKnown⟩
  cases outcome with
  | error => cases isLoaded
  | ok => exact congrArg Except.ok (Option.some.inj isLoaded)

/-- A run has loaded nothing but the snapshot, and what it remembers was looked up there. -/
structure Remembers (run : LiveRun) (snapshot : Option Snapshot) : Prop where
  loaded : ∀ found, run.loaded = some found → found = snapshot
  remembered : ∀ name found, run.cache.find? name = some found →
    ∃ spelling, sameClass spelling name = true ∧ found = lookup snapshot spelling

theorem remembers_nothing (snapshot : Option Snapshot) : Remembers {} snapshot where
  loaded _ impossible := by cases impossible
  remembered _ _ impossible := by cases impossible

theorem find?_remember (cache : MetadataCache) (name other : String)
    (found : Option ClassMetadata) :
    (cache.remember name found).find? other =
      if sameClass name other then some found else cache.find? other := by
  unfold MetadataCache.find? MetadataCache.remember
  rw [List.lookup_cons]
  by_cases same : ClassKey.of name = ClassKey.of other
  · rw [if_pos ((sameClass_iff name other).mpr same), same, beq_self_eq_true]
  · have apart : (ClassKey.of other == ClassKey.of name) = false :=
      beq_eq_false_iff_ne.mpr (Ne.symm same)
    rw [if_neg (fun found => same ((sameClass_iff name other).mp found)), apart]

theorem answeredFrom_lookup {found : Option ClassMetadata} {spelling : String}
    (same : sameClass spelling name = true) (looked : found = lookup outcome.toOption spelling) :
    Call.AnsweredFrom outcome (.resolve name) (.found found) :=
  ⟨found, rfl, ⟨spelling, same, looked⟩, fun _ isFound => isEntity_of_lookup (looked ▸ isFound)⟩

theorem Remembers.remember (remembers : run.Remembers outcome.toOption) (name : String) :
    Remembers
      { loaded := some outcome.toOption
        cache := run.cache.remember name (lookup outcome.toOption name) } outcome.toOption where
  loaded _ isLoaded := (Option.some.inj isLoaded).symm
  remembered other found isKept := by
    rw [find?_remember] at isKept
    split at isKept
    · rename_i same
      exact ⟨name, same, (Option.some.inj isKept).symm⟩
    · exact remembers.remembered other found isKept

/-- Before the load its outcome is taken; after it nothing else can have been loaded. -/
theorem Remembers.snapshot (remembers : run.Remembers outcome.toOption) :
    run.snapshot (m := Id) (pure outcome) =
      (outcome.toOption, { run with loaded := some outcome.toOption }) := by
  obtain ⟨loaded, cache⟩ := run
  cases loaded with
  | none => rfl
  | some found =>
      cases remembers.loaded found rfl
      rfl

theorem Remembers.performKnown (remembers : run.Remembers outcome.toOption)
    (stays : call ≠ .clear) :
    call.AnsweredFrom outcome (performKnown outcome call run).1 ∧
      (performKnown outcome call run).2.Remembers outcome.toOption := by
  unfold LiveRun.performKnown perform
  cases call with
  | attach => exact ⟨rfl, remembers⟩
  | clear => exact absurd rfl stays
  | snapshot =>
      simp only [remembers.snapshot]
      exact ⟨rfl, fun _ isLoaded => (Option.some.inj isLoaded).symm, remembers.remembered⟩
  | resolve name =>
      cases seen : run.cache.find? name with
      | some found =>
          obtain ⟨spelling, same, looked⟩ := remembers.remembered name found seen
          simp only [LiveRun.resolve, seen]
          exact ⟨answeredFrom_lookup same looked, remembers⟩
      | none =>
          simp only [LiveRun.resolve, seen, remembers.snapshot]
          exact ⟨answeredFrom_lookup ((sameClass_iff name name).mpr rfl) rfl,
            remembers.remember name⟩

theorem Remembers.performAllKnown (remembers : run.Remembers outcome.toOption)
    (stays : Call.clear ∉ calls) :
    List.Forall₂ (Call.AnsweredFrom outcome) calls (performAllKnown outcome calls run).1 ∧
      (performAllKnown outcome calls run).2.Remembers outcome.toOption := by
  induction calls generalizing run with
  | nil => exact ⟨.nil, remembers⟩
  | cons call others ih =>
      obtain ⟨answered, next⟩ := remembers.performKnown (List.ne_of_not_mem_cons stays).symm
      obtain ⟨rest, last⟩ := ih next (List.not_mem_of_not_mem_cons stays)
      rw [performAllKnown_cons]
      exact ⟨.cons answered rest, last⟩

end Answers

/-! ### Sequences of runs -/

section Runs

variable {ε : Type} (outcomes : Nat → Except ε Snapshot)

/-- A loader that gives one outcome after the other, and counts how often it is asked. -/
def nextOutcome : StateM Nat (Except ε Snapshot) := fun count => (outcomes count, count + 1)

/-- The answers to calls of a new resolver and what they leave of its last run, and how often they
load. -/
def history (calls : List Call) : (List Answer × LiveRun) × Nat :=
  (performAll (nextOutcome outcomes) calls {}).run 0

def answers (calls : List Call) : List Answer := (history outcomes calls).1.1

def loads (calls : List Call) : Nat := (history outcomes calls).2

def resumed (calls earlier : List Call) : (List Answer × LiveRun) × Nat :=
  (performAll (nextOutcome outcomes) calls (history outcomes earlier).1.2).run
    (history outcomes earlier).2

theorem history_append (earlier later : List Call) :
    history outcomes (earlier ++ later) =
      ((answers outcomes earlier ++ (resumed outcomes later earlier).1.1,
        (resumed outcomes later earlier).1.2), (resumed outcomes later earlier).2) := by
  rw [history, performAll_append]
  rfl

theorem performAll_counted (call : Call) (others : List Call) (run : LiveRun) (count : Nat) :
    (performAll (nextOutcome outcomes) (call :: others) run).run count =
      let first := (perform (nextOutcome outcomes) call run).run count
      let rest := (performAll (nextOutcome outcomes) others first.1.2).run first.2
      ((first.1.1 :: rest.1.1, rest.1.2), rest.2) := by
  rw [performAll_cons]
  rfl

theorem length_answers (calls : List Call) : (answers outcomes calls).length = calls.length := by
  suffices general : ∀ run count,
      ((performAll (nextOutcome outcomes) calls run).run count).1.1.length = calls.length from
    general {} 0
  induction calls with
  | nil => exact fun _ _ => rfl
  | cons call others ih =>
      intro run count
      rw [performAll_counted]
      exact congrArg Nat.succ (ih _ _)

/-- The outcomes from some use of the loader on. -/
def outcomesFrom (start : Nat) : Nat → Except ε Snapshot := fun count => outcomes (start + count)

theorem perform_later (start count : Nat) (call : Call) (run : LiveRun) :
    (perform (nextOutcome outcomes) call run).run (start + count) =
      let later := (perform (nextOutcome (outcomesFrom outcomes start)) call run).run count
      (later.1, start + later.2) := by
  obtain ⟨loaded, cache⟩ := run
  cases call with
  | attach => rfl
  | clear => rfl
  | snapshot => cases loaded <;> rfl
  | resolve name =>
      cases seen : cache.find? name with
      | some found =>
          simp only [perform, LiveRun.resolve, seen]
          rfl
      | none =>
          simp only [perform, LiveRun.resolve, seen]
          cases loaded <;> rfl

theorem performAll_later (start count : Nat) (calls : List Call) (run : LiveRun) :
    (performAll (nextOutcome outcomes) calls run).run (start + count) =
      let later := (performAll (nextOutcome (outcomesFrom outcomes start)) calls run).run count
      (later.1, start + later.2) := by
  induction calls generalizing run count with
  | nil => rfl
  | cons call others ih =>
      rw [performAll_counted, performAll_counted, perform_later]
      dsimp only
      rw [ih]

theorem run_of_starts {before : List Call} (starts : before = [] ∨ before.getLast? = some .clear) :
    (history outcomes before).1.2 = {} := by
  rcases starts with rfl | cleared
  · rfl
  · obtain ⟨earlier, rfl⟩ := List.getLast?_eq_some_iff.mp cleared
    rw [history_append]
    rfl

/-- A stretch of calls after the start of a run loads once if something is asked, and never
otherwise, and is answered from what that load gives. -/
theorem performAll_stretch {calls : List Call} (stays : Call.clear ∉ calls) (count : Nat) :
    let given := (performAll (nextOutcome outcomes) calls {}).run count
    given.2 = count + (if calls.any Call.asks then 1 else 0) ∧
      List.Forall₂ (Call.AnsweredFrom (outcomes count)) calls given.1.1 := by
  intro given
  have known := (remembers_nothing (outcomes count).toOption).performAllKnown stays
  have run := performAll_new (nextOutcome outcomes) stays
  by_cases asks : calls.any Call.asks = true
  · rw [if_pos asks] at run ⊢
    have loaded : given = (performAllKnown (outcomes count) calls {}, count + 1) :=
      congrFun run count
    rw [loaded]
    exact ⟨rfl, known.1⟩
  · -- What asks nothing is answered alike whatever the outcome, so also from this one.
    have quiet := performAll_new (m := Id) (pure (outcomes count)) stays
    rw [if_neg asks] at run quiet ⊢
    have same : given = (performAllKnown (outcomes count) calls {}, count) :=
      (congrFun run count).trans (congrArg (·, count) quiet.symm)
    rw [same]
    exact ⟨rfl, known.1⟩

variable (earlier later : List Call)

/-- What is offered to a resolver changes no other answer and loads nothing. -/
theorem answers_offered (metadata : ClassMetadata) :
    (answers outcomes (earlier ++ .attach metadata :: later)).eraseIdx earlier.length =
        answers outcomes (earlier ++ later) ∧
      loads outcomes (earlier ++ .attach metadata :: later) =
        loads outcomes (earlier ++ later) := by
  have length := length_answers outcomes earlier
  have offered : resumed outcomes (.attach metadata :: later) earlier =
      let rest := resumed outcomes later earlier
      ((.attached false :: rest.1.1, rest.1.2), rest.2) :=
    performAll_counted ..
  rw [answers, answers, loads, loads, history_append, history_append, offered]
  refine ⟨?_, rfl⟩
  dsimp only
  rw [List.eraseIdx_append_of_length_le (Nat.le_of_eq length), length, Nat.sub_self,
    List.eraseIdx_cons_zero]

/-- After a clear all is as in a new resolver whose loader gives the outcomes that are left. -/
theorem answers_cleared :
    let left := outcomesFrom outcomes (loads outcomes earlier)
    answers outcomes (earlier ++ .clear :: later) =
        answers outcomes earlier ++ .cleared :: answers left later ∧
      loads outcomes (earlier ++ .clear :: later) =
        loads outcomes earlier + loads left later := by
  intro left
  have cleared : resumed outcomes (.clear :: later) earlier =
      let rest := (performAll (nextOutcome outcomes) later {}).run (loads outcomes earlier + 0)
      ((.cleared :: rest.1.1, rest.1.2), rest.2) :=
    performAll_counted ..
  rw [performAll_later] at cleared
  rw [answers, loads, history_append, cleared]
  exact ⟨rfl, rfl⟩

/-- In a run, that is up to a clear from the start or from the clear before, the loader is asked
once if anything is looked up and never otherwise. All answers come from what it gives then, and
there are none if it fails. What is offered is not used and changes nothing, and a run after a clear
does not depend on what was before it. -/
theorem loads_once (before stretch after : List Call)
    (starts : before = [] ∨ before.getLast? = some .clear) (stays : Call.clear ∉ stretch) :
    (loads outcomes (before ++ stretch) =
        loads outcomes before + (if stretch.any Call.asks then 1 else 0) ∧
      ∃ given rest, answers outcomes (before ++ stretch ++ after) =
          answers outcomes before ++ given ++ rest ∧
        List.Forall₂ (Call.AnsweredFrom (outcomes (loads outcomes before))) stretch given) ∧
    (∀ earlier later metadata, (∀ run, (Resolver.live run).attach metadata = (false, .live run)) ∧
      (answers outcomes (earlier ++ .attach metadata :: later)).eraseIdx earlier.length =
        answers outcomes (earlier ++ later) ∧
      loads outcomes (earlier ++ .attach metadata :: later) =
        loads outcomes (earlier ++ later)) ∧
    ∀ earlier later,
      let left := outcomesFrom outcomes (loads outcomes earlier)
      answers outcomes (earlier ++ .clear :: later) =
        answers outcomes earlier ++ .cleared :: answers left later ∧
      loads outcomes (earlier ++ .clear :: later) =
        loads outcomes earlier + loads left later := by
  have fresh := run_of_starts outcomes starts
  obtain ⟨count, answered⟩ := performAll_stretch outcomes stays (loads outcomes before)
  have stretched : resumed outcomes stretch before =
      (performAll (nextOutcome outcomes) stretch {}).run (loads outcomes before) := by
    rw [resumed, fresh, loads]
  rw [← stretched] at count answered
  refine ⟨⟨?_, _, (resumed outcomes after (before ++ stretch)).1.1, ?_, answered⟩,
    fun earlier later metadata => ⟨fun run => rfl, answers_offered outcomes earlier later metadata⟩,
    answers_cleared outcomes⟩
  · rw [loads, history_append, count]
  · rw [answers, history_append, answers, history_append]

def bookSnapshot : Snapshot where
  entities :=
    [("App\\Book", { name := "App\\Book", identifier := ["id"] }),
      ("App\\Base", { name := "App\\Base", isMappedSuperclass := true })]

def bookOutcomes (count : Nat) : Except String Snapshot :=
  if count = 1 then .ok bookSnapshot else .error "no snapshot"

theorem loads_once_books :
    let before : List Call := [.resolve "App\\Book", .snapshot, .clear]
    let stretch : List Call := [.attach { name := "App\\Base" }, .resolve "\\app\\BOOK",
      .resolve "App\\Base", .resolve "App\\Shelf", .snapshot]
    (before = [] ∨ before.getLast? = some .clear) ∧ Call.clear ∉ stretch ∧
      loads bookOutcomes (before ++ stretch) = loads bookOutcomes before + 1 ∧
      loads bookOutcomes before = 1 ∧
      answers bookOutcomes (before ++ stretch ++ [.clear, .snapshot]) =
        [.found none, .snapshot none, .cleared, .attached false,
          .found (some { name := "App\\Book", identifier := ["id"] }), .found none, .found none,
          .snapshot (some bookSnapshot), .cleared, .snapshot none] := by
  intro before stretch
  have starts : before = [] ∨ before.getLast? = some .clear := .inr rfl
  have stays : Call.clear ∉ stretch := by decide
  exact ⟨starts, stays, (loads_once bookOutcomes before stretch [] starts stays).1.1,
    by decide +kernel, by decide +kernel⟩

end Runs

end LiveRun

end AssociationCheck
