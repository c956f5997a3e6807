/-
Metadata from a loaded snapshot.

The snapshot of a run is loaded when it is first needed, and only once; a failed load leaves the
run without metadata. What is attached to classes is not used.
-/

import AssociationCheck.Mapping.Cache
import AssociationCheck.Mapping.Snapshot

namespace AssociationCheck

structure LiveRun where
  /-- Nothing before the load; then the snapshot, or none after a failure. -/
  loaded : Option (Option Snapshot) := none
  cache : MetadataCache := {}
  deriving DecidableEq, Repr

namespace LiveRun

variable {m : Type → Type} [Monad m] {ε : Type}

def snapshot (run : LiveRun) (load : m (Except ε Snapshot)) : m (Option Snapshot × LiveRun) :=
  match run.loaded with
  | some found => pure (found, run)
  | none => do
      let found := (← load).toOption
      pure (found, { run with loaded := some found })

def lookup (snapshot : Option Snapshot) (name : String) : Option ClassMetadata :=
  (snapshot.bind (fun snapshot => snapshot.get? name)).filter ClassMetadata.isEntity

def resolve (run : LiveRun) (load : m (Except ε Snapshot)) (name : String) :
    m (Option ClassMetadata × LiveRun) := do
  match run.cache.find? name with
  | some found => pure (found, run)
  | none =>
      let (snapshot, run) ← run.snapshot load
      let found := lookup snapshot name
      pure (found, { run with cache := run.cache.remember name found })

def clear (_run : LiveRun) : LiveRun := {}

end LiveRun

end AssociationCheck
