/-
Metadata attached to classes.

The latest attachment under a class name counts. A class that is attached after it was looked up
must not keep an old answer, so attaching it empties the cache.
-/

import AssociationCheck.Mapping.Cache

namespace AssociationCheck

structure StaticResolver where
  attached : List (ClassKey × ClassMetadata) := []
  cache : MetadataCache := {}
  deriving DecidableEq, Repr

namespace StaticResolver

def attachedSize (resolver : StaticResolver) : Nat := resolver.attached.length

def attach (resolver : StaticResolver) (metadata : ClassMetadata) : StaticResolver :=
  let key := ClassKey.of metadata.name
  { attached := (key, metadata) :: resolver.attached.filter (fun entry => entry.1 != key)
    cache := if resolver.cache.contains metadata.name then {} else resolver.cache }

def lookup (resolver : StaticResolver) (name : String) : Option ClassMetadata :=
  (resolver.attached.lookup (.of name)).filter ClassMetadata.isEntity

def resolve (resolver : StaticResolver) (name : String) :
    Option ClassMetadata × StaticResolver :=
  let (found, cache) := Id.run (resolver.cache.getOrResolve name (pure (resolver.lookup name)))
  (found, { resolver with cache := cache })

def clear (resolver : StaticResolver) : StaticResolver := { resolver with cache := {} }

end StaticResolver

end AssociationCheck
