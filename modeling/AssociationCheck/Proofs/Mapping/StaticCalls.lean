/-
Calls of a static resolver.

Attaching, looking up and forgetting may follow one another in any order. The answer to a look-up
is what was attached last under the name, however much of it is remembered from look-ups before, and
forgetting what was looked up changes no later answer.
-/

import Mathlib.Data.Finset.Card
import AssociationCheck.Mapping.Resolver
import AssociationCheck.Proofs.Mapping.Attached
import AssociationCheck.Proofs.Text.Case

namespace AssociationCheck

namespace StaticResolver

inductive Call
  | attach (metadata : ClassMetadata)
  | resolve (name : String)
  | clear
  deriving DecidableEq, Repr

inductive Answer
  /-- Whether the metadata that were offered are used. -/
  | attached (isUsed : Bool)
  | found (metadata : Option ClassMetadata)
  | cleared
  deriving DecidableEq, Repr

def perform : Call → StateM StaticResolver Answer
  | .attach metadata => fun resolver =>
      (.attached ((Resolver.static resolver).attach metadata).1, resolver.attach metadata)
  | .resolve name => fun resolver =>
      (.found (resolver.resolve name).1, (resolver.resolve name).2)
  | .clear => fun resolver => (.cleared, resolver.clear)

def performAll (calls : List Call) (resolver : StaticResolver) : List Answer × StaticResolver :=
  (calls.mapM perform).run resolver

theorem performAll_cons (call : Call) (others : List Call) (resolver : StaticResolver) :
    performAll (call :: others) resolver =
      let (answer, next) := perform call resolver
      (answer :: (performAll others next).1, (performAll others next).2) := by
  rw [performAll, List.mapM_cons]
  rfl

/-! ### What is attached -/

def Call.attachments : Call → List ClassMetadata
  | attach metadata => [metadata]
  | _ => []

def attachments (calls : List Call) : List ClassMetadata := calls.flatMap Call.attachments

def classKeys (attached : List ClassMetadata) : List ClassKey :=
  attached.map (fun metadata => .of metadata.name)

structure Files (resolver : StaticResolver) (attached : List ClassMetadata) : Prop where
  distinct : (resolver.attached.map Prod.fst).Nodup
  keys : ∀ key, key ∈ resolver.attached.map Prod.fst ↔ key ∈ classKeys attached

variable {resolver : StaticResolver} {attached : List ClassMetadata}

theorem files_nothing : Files {} [] where
  distinct := List.nodup_nil
  keys _ := Iff.rfl

theorem mem_keys_filter_ne (key other : ClassKey) (entries : List (ClassKey × ClassMetadata)) :
    other ∈ (entries.filter (fun entry => entry.1 != key)).map Prod.fst ↔
      other ≠ key ∧ other ∈ entries.map Prod.fst := by
  constructor
  · intro present
    obtain ⟨entry, kept, rfl⟩ := List.mem_map.mp present
    obtain ⟨inside, apart⟩ := List.mem_filter.mp kept
    exact ⟨bne_iff_ne.mp apart, List.mem_map_of_mem inside⟩
  · rintro ⟨apart, present⟩
    obtain ⟨entry, inside, rfl⟩ := List.mem_map.mp present
    exact List.mem_map_of_mem (List.mem_filter.mpr ⟨inside, bne_iff_ne.mpr apart⟩)

theorem Files.attach (files : resolver.Files attached) (metadata : ClassMetadata) :
    (resolver.attach metadata).Files (attached ++ [metadata]) where
  distinct := by
    refine List.nodup_cons.mpr ⟨fun present => ?_, ?_⟩
    · exact ((mem_keys_filter_ne _ _ resolver.attached).mp present).1 rfl
    · exact files.distinct.sublist (List.filter_sublist.map Prod.fst)
  keys key := by
    have others := mem_keys_filter_ne (.of metadata.name) key resolver.attached
    change key ∈ ClassKey.of metadata.name :: _ ↔ _
    rw [List.mem_cons, others, files.keys, classKeys, classKeys, List.map_append, List.mem_append,
      List.map_singleton, List.mem_singleton]
    by_cases same : key = ClassKey.of metadata.name <;> simp [same]

theorem Files.attachedSize (files : resolver.Files attached) :
    resolver.attachedSize = (classKeys attached).toFinset.card := by
  have same : (classKeys attached).toFinset = (resolver.attached.map Prod.fst).toFinset := by
    ext key
    rw [List.mem_toFinset, List.mem_toFinset, files.keys]
  rw [same, List.toFinset_card_of_nodup files.distinct, List.length_map]
  rfl

/-- A class has the metadata of an entity exactly if these were attached under a spelling of its
name and no other metadata were since. -/
theorem lastAttached_eq_some_iff (attached : List ClassMetadata) (name : String)
    (metadata : ClassMetadata) :
    lastAttached attached name = some metadata ↔
      metadata.isEntity = true ∧ SameName metadata.name name ∧
        ∃ earlier later, attached = earlier ++ metadata :: later ∧
          ∀ other ∈ later, ¬ SameName other.name name := by
  simp only [← sameClass_iff_sameName]
  rw [lastAttached, Option.filter_eq_some_iff, List.find?_eq_some_iff_append]
  constructor
  · rintro ⟨⟨same, later, earlier, listed, others⟩, isEntity⟩
    refine ⟨isEntity, same, earlier.reverse, later.reverse, ?_, fun other since => ?_⟩
    · rw [← List.reverse_inj, listed]
      simp
    · simpa using others other (List.mem_reverse.mp since)
  · rintro ⟨isEntity, same, earlier, later, rfl, others⟩
    refine ⟨⟨same, later.reverse, earlier.reverse, by simp, fun other since => ?_⟩, isEntity⟩
    simpa using others other (List.mem_reverse.mp since)

/-! ### Answers -/

def Call.answerAfter (attached : List ClassMetadata) : Call → Answer
  | attach _ => .attached true
  | resolve name => .found (lastAttached attached name)
  | clear => .cleared

def answersAfter (attached : List ClassMetadata) : List Call → List Answer
  | [] => []
  | call :: others =>
      call.answerAfter attached :: answersAfter (attached ++ call.attachments) others

theorem answersAfter_append (attached : List ClassMetadata) (earlier later : List Call) :
    answersAfter attached (earlier ++ later) =
      answersAfter attached earlier ++ answersAfter (attached ++ attachments earlier) later := by
  induction earlier generalizing attached with
  | nil => rw [attachments, List.flatMap_nil, List.append_nil, List.nil_append, answersAfter,
      List.nil_append]
  | cons call others ih =>
      rw [List.cons_append, answersAfter, answersAfter, ih, attachments, attachments,
        List.flatMap_cons, List.append_assoc, List.cons_append]

theorem length_answersAfter (attached : List ClassMetadata) (calls : List Call) :
    (answersAfter attached calls).length = calls.length := by
  induction calls generalizing attached with
  | nil => rfl
  | cons call others ih => rw [answersAfter, List.length_cons, ih, List.length_cons]

/-- One call gives the answer that what is attached asks for, and keeps the resolver coherent. -/
theorem perform_answers (knows : resolver.Knows attached) (files : resolver.Files attached)
    (call : Call) :
    (perform call resolver).1 = call.answerAfter attached ∧
      (perform call resolver).2.Knows (attached ++ call.attachments) ∧
      (perform call resolver).2.Files (attached ++ call.attachments) := by
  cases call with
  | attach metadata => exact ⟨rfl, knows.attach metadata, files.attach metadata⟩
  | resolve name =>
      obtain ⟨found, next⟩ := knows.resolve name
      rw [show Call.attachments (.resolve name) = [] from rfl, List.append_nil]
      exact ⟨congrArg Answer.found found, next, ⟨files.distinct, files.keys⟩⟩
  | clear =>
      rw [show Call.attachments .clear = [] from rfl, List.append_nil]
      exact ⟨rfl, knows.clear, ⟨files.distinct, files.keys⟩⟩

theorem performAll_answers (knows : resolver.Knows attached) (files : resolver.Files attached)
    (calls : List Call) :
    (performAll calls resolver).1 = answersAfter attached calls ∧
      (performAll calls resolver).2.Files (attached ++ attachments calls) := by
  -- Every call may add to what is attached, which both invariants refer to.
  induction calls generalizing resolver attached with
  | nil =>
      rw [attachments, List.flatMap_nil, List.append_nil]
      exact ⟨rfl, files⟩
  | cons call others ih =>
      obtain ⟨answer, knowsNext, filesNext⟩ := perform_answers knows files call
      obtain ⟨rest, filesLast⟩ := ih knowsNext filesNext
      rw [performAll_cons, attachments, List.flatMap_cons, ← List.append_assoc]
      refine ⟨?_, filesLast⟩
      change (perform call resolver).1 :: (performAll others (perform call resolver).2).1 = _
      rw [answer, rest, answersAfter]

/-- Whatever the calls before, a class that is looked up has the metadata attached last under its
name if these are those of an entity, and none otherwise. What is attached is used, forgetting
changes no other answer, and there are as many entries as classes with attached metadata. -/
theorem answers_current (earlier later : List Call) :
    let answers (calls : List Call) := (performAll calls {}).1
    (∀ name, (answers (earlier ++ .resolve name :: later))[earlier.length]? =
      some (.found (lastAttached (attachments earlier) name))) ∧
    (∀ metadata, (answers (earlier ++ .attach metadata :: later))[earlier.length]? =
      some (.attached true)) ∧
    (answers (earlier ++ .clear :: later)).eraseIdx earlier.length = answers (earlier ++ later) ∧
    (performAll earlier {}).2.attachedSize = (classKeys (attachments earlier)).toFinset.card := by
  intro answers
  have all (calls : List Call) : answers calls = answersAfter [] calls :=
    (performAll_answers knows_nothing files_nothing calls).1
  have length := length_answersAfter [] earlier
  have answered (call : Call) : (answers (earlier ++ call :: later))[earlier.length]? =
      some (call.answerAfter (attachments earlier)) := by
    rw [all, answersAfter_append, List.getElem?_append_right length.le, length, Nat.sub_self]
    rfl
  refine ⟨fun name => answered (.resolve name), fun metadata => answered (.attach metadata),
    ?_, ?_⟩
  · rw [all, all, answersAfter_append, answersAfter_append,
      List.eraseIdx_append_of_length_le length.le, length, Nat.sub_self]
    rw [answersAfter, show Call.attachments .clear = [] from rfl, List.append_nil,
      List.eraseIdx_cons_zero]
  · exact (performAll_answers knows_nothing files_nothing earlier).2.attachedSize

/-- Users are attached in two spellings and looked up in a third, and items are no entities. -/
def userCalls : List Call :=
  [.attach { name := "App\\User" }, .resolve "\\app\\user",
    .attach { name := "Item", isMappedSuperclass := true }, .resolve "ITEM",
    .attach { name := "\\APP\\USER", identifier := ["id"] }, .resolve "Order"]

theorem answers_current_users :
    let answers (calls : List Call) := (performAll calls {}).1
    let later : List Call := [.resolve "APP\\User", .attach { name := "Order" }]
    (answers (userCalls ++ .resolve "app\\User" :: later))[6]? =
      some (.found (some { name := "\\APP\\USER", identifier := ["id"] })) ∧
    (answers (userCalls ++ .resolve "\\item" :: later))[6]? = some (.found none) ∧
    (answers (userCalls ++ .attach { name := "order" } :: later))[6]? = some (.attached true) ∧
    (answers (userCalls ++ .clear :: later)).eraseIdx 6 = answers (userCalls ++ later) ∧
    (performAll userCalls {}).2.attachedSize = 2 := by
  intro answers later
  obtain ⟨found, attached, cleared, size⟩ := answers_current userCalls later
  have lastUser : lastAttached (attachments userCalls) "app\\User" =
      some { name := "\\APP\\USER", identifier := ["id"] } := by decide +kernel
  have noItem : lastAttached (attachments userCalls) "\\item" = none := by decide +kernel
  have two : (classKeys (attachments userCalls)).toFinset.card = 2 := by decide +kernel
  exact ⟨lastUser ▸ found "app\\User", noItem ▸ found "\\item", attached { name := "order" },
    cleared, two ▸ size⟩

end StaticResolver

end AssociationCheck
