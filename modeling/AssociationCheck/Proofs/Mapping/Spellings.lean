/-
Spellings of one class in a live run.

A run remembers what it found for a class, whichever spelling of the class was asked for first, and
answers its other spellings alike. A snapshot prefers the name that is spelled as asked. So answers
are those of a new resolver where no two names of the snapshot are spellings of one class, and
otherwise they depend on what was asked before.
-/

import AssociationCheck.Proofs.Mapping.LiveCalls

namespace AssociationCheck

/-! ### Names of which no two are of one class -/

theorem find?_sameClass_eq_some_iff {α : Type} (spelling : α → String) {known : List α}
    (distinct : (known.map (fun item => ClassKey.of (spelling item))).Nodup) {name : String}
    {item : α} :
    known.find? (fun item => sameClass (spelling item) name) = some item ↔
      item ∈ known ∧ sameClass (spelling item) name = true := by
  constructor
  · intro found
    exact ⟨List.mem_of_find?_eq_some found, (List.find?_eq_some_iff_append.mp found).1⟩
  · rintro ⟨present, same⟩
    obtain ⟨before, after, rfl⟩ := List.append_of_mem present
    refine List.find?_eq_some_iff_append.mpr ⟨same, before, after, rfl, fun other isBefore => ?_⟩
    rw [List.map_append, List.map_cons] at distinct
    have apart := (List.nodup_append.mp distinct).2.2 (ClassKey.of (spelling other))
      (List.mem_map_of_mem isBefore) (ClassKey.of (spelling item)) List.mem_cons_self
    rw [Bool.not_eq_true', Bool.eq_false_iff]
    intro found
    exact apart (((sameClass_iff _ _).mp found).trans ((sameClass_iff _ _).mp same).symm)

def Snapshot.NamesApart (snapshot : Snapshot) : Prop :=
  (snapshot.entities.map (fun entry => ClassKey.of entry.1)).Nodup

theorem Snapshot.get?_eq_find? {snapshot : Snapshot} (apart : snapshot.NamesApart)
    (name : String) :
    snapshot.get? name =
      (snapshot.entities.find? (fun entry => sameClass entry.1 name)).map Prod.snd := by
  have respelled (other : String) :
      sameClass other (withoutLeadingSeparators name) = sameClass other name := by
    rw [sameClass, sameClass, ClassKey.of_withoutLeadingSeparators]
  unfold Snapshot.get?
  simp only [respelled]
  split
  · rename_i metadata found
    obtain ⟨before, after, parts, _⟩ := List.lookup_eq_some_iff.mp found
    have entry : (withoutLeadingSeparators name, metadata) ∈ snapshot.entities :=
      parts ▸ List.mem_append_right _ List.mem_cons_self
    have same : sameClass (withoutLeadingSeparators name) name = true := by
      rw [sameClass_iff, ClassKey.of_withoutLeadingSeparators]
    rw [(find?_sameClass_eq_some_iff Prod.fst apart).mpr ⟨entry, same⟩]
    rfl
  · rfl

theorem Snapshot.get?_respelled {snapshot : Snapshot} (apart : snapshot.NamesApart)
    {first second : String} (same : sameClass first second = true) :
    snapshot.get? first = snapshot.get? second := by
  have alike : (fun entry : String × ClassMetadata => sameClass entry.1 first) =
      fun entry => sameClass entry.1 second := by
    funext entry
    rw [sameClass, sameClass, (sameClass_iff first second).mp same]
  rw [get?_eq_find? apart, get?_eq_find? apart, alike]

/-! ### First spellings -/

def spelling? (names : List String) (name : String) : Option String :=
  names.find? (fun other => sameClass other name)

/-- The first spelling of a class among some names, or else the name that is asked for. -/
def firstSpelling (names : List String) (name : String) : String :=
  (spelling? names name).getD name

section Spellings

variable {names : List String} {name other : String}

theorem sameClass_of_spelling? (found : spelling? names name = some other) :
    sameClass other name = true :=
  (List.find?_eq_some_iff_append.mp found).1

theorem sameClass_firstSpelling (names : List String) (name : String) :
    sameClass (firstSpelling names name) name = true := by
  unfold firstSpelling
  cases found : spelling? names name with
  | none => exact (sameClass_iff name name).mpr rfl
  | some other => exact sameClass_of_spelling? found

theorem spelling?_append_cons (earlier later : List String) (name other : String) :
    spelling? (earlier ++ name :: later) other =
      (spelling? earlier other).or
        (if sameClass name other then some name else spelling? later other) := by
  rw [spelling?, List.find?_append, List.find?_cons]
  cases sameClass name other <;> rfl

theorem spelling?_congr (same : sameClass name other = true) (names : List String) :
    spelling? names name = spelling? names other := by
  unfold spelling?
  congr 1
  funext known
  rw [sameClass, sameClass, (sameClass_iff name other).mp same]

theorem firstSpelling_append_cons (earlier later : List String) (name : String) :
    firstSpelling (earlier ++ name :: later) name = firstSpelling earlier name := by
  have itself : sameClass name name = true := (sameClass_iff name name).mpr rfl
  rw [firstSpelling, firstSpelling, spelling?_append_cons, if_pos itself]
  cases spelling? earlier name <;> rfl

end Spellings

/-! ### What a run recalls -/

namespace LiveRun

section Recalling

variable {ε : Type} {outcome : Except ε Snapshot} {run : LiveRun} {asked : List String}

/-- A run has loaded nothing but the snapshot, and remembers of the classes that were asked for what
the snapshot has for their first spellings. -/
structure Recalls (run : LiveRun) (snapshot : Option Snapshot) (asked : List String) : Prop where
  loaded : ∀ found, run.loaded = some found → found = snapshot
  recalled : ∀ name, run.cache.find? name = (spelling? asked name).map (lookup snapshot)

theorem recalls_nothing (snapshot : Option Snapshot) : Recalls {} snapshot [] where
  loaded _ impossible := by cases impossible
  recalled _ := rfl

theorem Recalls.remembers {snapshot : Option Snapshot} (recalls : run.Recalls snapshot asked) :
    run.Remembers snapshot where
  loaded := recalls.loaded
  remembered name found isKept := by
    rw [recalls.recalled] at isKept
    obtain ⟨spelling, isFirst, rfl⟩ := Option.map_eq_some_iff.mp isKept
    exact ⟨spelling, sameClass_of_spelling? isFirst, rfl⟩

/-- One more name is answered by the first spelling of its class, which stays the first one. -/
theorem Recalls.resolve (recalls : run.Recalls outcome.toOption asked) (name : String) :
    (performKnown outcome (.resolve name) run).1 =
        .found (lookup outcome.toOption (firstSpelling asked name)) ∧
      (performKnown outcome (.resolve name) run).2.Recalls outcome.toOption (asked ++ [name]) := by
  have recalled := recalls.recalled name
  unfold performKnown perform firstSpelling
  cases first : spelling? asked name with
  | some spelling =>
      rw [first, Option.map_some] at recalled
      simp only [LiveRun.resolve, recalled]
      refine ⟨rfl, recalls.loaded, fun other => (recalls.recalled other).trans ?_⟩
      rw [spelling?_append_cons]
      by_cases same : sameClass name other = true
      · rw [← spelling?_congr same, first]
        rfl
      · rw [if_neg same]
        exact congrArg _ Option.or_none.symm
  | none =>
      rw [first, Option.map_none] at recalled
      simp only [LiveRun.resolve, recalled, recalls.remembers.snapshot]
      refine ⟨rfl, fun found isLoaded => (Option.some.inj isLoaded).symm, fun other => ?_⟩
      refine (find?_remember run.cache name other _).trans ?_
      rw [recalls.recalled, spelling?_append_cons]
      by_cases same : sameClass name other = true
      · rw [if_pos same, if_pos same, ← spelling?_congr same, first]
        rfl
      · rw [if_neg same, if_neg same]
        exact congrArg _ Option.or_none.symm

theorem Recalls.resolveAll (recalls : run.Recalls outcome.toOption asked) (names : List String) :
    (performAllKnown outcome (names.map Call.resolve) run).1 =
      names.map (fun name =>
        .found (lookup outcome.toOption (firstSpelling (asked ++ names) name))) := by
  induction names generalizing run asked with
  | nil => rfl
  | cons name others ih =>
      obtain ⟨answer, next⟩ := recalls.resolve name
      rw [List.map_cons, performAllKnown_cons, List.map_cons, firstSpelling_append_cons]
      simp only [answer, ih next, List.append_assoc, List.singleton_append]

end Recalling

section Transparency

variable {ε : Type} (outcome : Except ε Snapshot)

def answered (names : List String) : List Answer :=
  (performAllKnown outcome (names.map Call.resolve) {}).1

def answeredNew (name : String) : Answer := (performKnown outcome (.resolve name) {}).1

theorem answered_eq (names : List String) :
    answered outcome names =
      names.map (fun name => answeredNew outcome (firstSpelling names name)) :=
  (recalls_nothing outcome.toOption).resolveAll names

/-- A new resolver answers with what the snapshot has for a name, if it is an entity. In a run every
name is answered as a new resolver would answer the first spelling of its class among the names of
the run. So a run answers like new resolvers, whatever is looked up, exactly if these answer all
spellings of a class alike, as they do where no two names of the snapshot are of one class. -/
theorem answered_as_first_spelling (snapshot : Snapshot) :
    let outcome : Except ε Snapshot := .ok snapshot
    (∀ name, answeredNew outcome name =
      .found ((snapshot.get? name).filter ClassMetadata.isEntity)) ∧
    (∀ names, answered outcome names =
      names.map (fun name => answeredNew outcome (firstSpelling names name))) ∧
    ((∀ names, answered outcome names = names.map (answeredNew outcome)) ↔
      ∀ first second, sameClass first second = true →
        answeredNew outcome first = answeredNew outcome second) ∧
    (snapshot.NamesApart →
      ∀ names, answered outcome names = names.map (answeredNew outcome)) := by
  intro outcome
  have transparent (alike : ∀ first second, sameClass first second = true →
      answeredNew outcome first = answeredNew outcome second) (names : List String) :
      answered outcome names = names.map (answeredNew outcome) := by
    rw [answered_eq]
    exact List.map_congr_left (fun name _ => alike _ _ (sameClass_firstSpelling names name))
  refine ⟨fun name => rfl, answered_eq outcome, ⟨fun always first second same => ?_, transparent⟩,
    fun apart => transparent (fun first second same => ?_)⟩
  · -- After the first spelling the second one is answered as the first.
    have both := always [first, second]
    rw [answered_eq] at both
    have isFirst : firstSpelling [first, second] second = first := by
      rw [firstSpelling, show [first, second] = [] ++ first :: [second] from rfl,
        spelling?_append_cons, if_pos same]
      rfl
    simp only [List.map_cons, List.map_nil, List.cons.injEq, and_true, isFirst] at both
    exact both.2
  · show Answer.found ((snapshot.get? first).filter _) = .found ((snapshot.get? second).filter _)
    rw [Snapshot.get?_respelled apart same]

end Transparency

def respelledSnapshot : Snapshot where
  entities :=
    [("App\\User", { name := "App\\User", identifier := ["id"] }),
      ("app\\user", { name := "app\\user", identifier := ["login"] })]

/-- The second spelling is answered with the metadata of the first. -/
theorem not_answered_as_new :
    ¬ ∀ (snapshot : Snapshot) (names : List String),
      answered (.ok snapshot : Except String Snapshot) names =
        names.map (answeredNew (.ok snapshot : Except String Snapshot)) := by
  intro always
  have wrong := always respelledSnapshot ["App\\User", "app\\user"]
  revert wrong
  decide +kernel

end LiveRun

end AssociationCheck
