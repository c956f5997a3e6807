/-
Resolving classes to their metadata.

Metadata come either from what is attached to the classes or from a snapshot that is loaded; the
loader is an action of whatever monad the check runs in.
-/

import AssociationCheck.Mapping.Attached
import AssociationCheck.Mapping.Live

namespace AssociationCheck

inductive Resolver
  | static (resolver : StaticResolver)
  | live (run : LiveRun)
  deriving DecidableEq, Repr

namespace Resolver

def attach (resolver : Resolver) (metadata : ClassMetadata) : Bool × Resolver :=
  match resolver with
  | static resolver => (true, static (resolver.attach metadata))
  | live run => (false, live run)

variable {m : Type → Type} [Monad m] {ε : Type}

def resolve (resolver : Resolver) (load : m (Except ε Snapshot)) (name : String) :
    m (Option ClassMetadata × Resolver) :=
  match resolver with
  | static resolver =>
      let (found, next) := resolver.resolve name
      pure (found, static next)
  | live run => do
      let (found, next) ← run.resolve load name
      pure (found, live next)

def clear : Resolver → Resolver
  | static resolver => static resolver.clear
  | live run => live run.clear

end Resolver

end AssociationCheck
