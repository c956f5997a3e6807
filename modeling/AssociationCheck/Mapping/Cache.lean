/-
Metadata remembered for one run.

A cache remembers for each class what its metadata are, or that it has none, so that each class is
looked up at most once. All spellings of a class name share one entry.
-/

import AssociationCheck.Mapping.Basic

namespace AssociationCheck

/-- What was found for the classes looked up so far. -/
structure MetadataCache where
  entries : List (ClassKey × Option ClassMetadata) := []
  deriving DecidableEq, Repr

namespace MetadataCache

def find? (cache : MetadataCache) (name : String) : Option (Option ClassMetadata) :=
  cache.entries.lookup (.of name)

def contains (cache : MetadataCache) (name : String) : Bool := (cache.find? name).isSome

def remember (cache : MetadataCache) (name : String) (found : Option ClassMetadata) :
    MetadataCache :=
  ⟨(.of name, found) :: cache.entries⟩

def size (cache : MetadataCache) : Nat := cache.entries.length

/-- What is remembered of a class, or else what a look-up finds, which is remembered from then
on. -/
def getOrResolve {m : Type → Type} [Monad m] (cache : MetadataCache) (name : String)
    (resolve : m (Option ClassMetadata)) : m (Option ClassMetadata × MetadataCache) :=
  match cache.find? name with
  | some found => pure (found, cache)
  | none => do
      let found ← resolve
      pure (found, cache.remember name found)

end MetadataCache

end AssociationCheck
