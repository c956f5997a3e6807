/-
The analysis of an input.

All declared types of an input are read into one store, its hierarchy entries extend the standard
hierarchy, and its mappings are offered to the resolver. Then the classes are checked one after
the other, and the run of the resolver ends.
-/

import AssociationCheck.Analysis.Input
import AssociationCheck.Mapping.Resolver
import AssociationCheck.Rule.Check
import AssociationCheck.TypeExpr.Parse

namespace AssociationCheck

/-! ### Preparation -/

def HierarchyEntry.addTo (hierarchy : Hierarchy) (entry : HierarchyEntry) : Hierarchy :=
  let kind := if entry.isInterface then ClassKind.interface else .concrete
  let isFinal := !entry.isInterface && entry.isFinal
  (hierarchy.declareClass entry.name kind isFinal entry.parents).2

def Hierarchy.ofEntries (entries : List HierarchyEntry) : Hierarchy :=
  entries.foldl HierarchyEntry.addTo Hierarchy.standard

/-- A property with its declared type; a type that cannot be read counts as none. -/
def InputProperty.declare (property : InputProperty) : Building DeclaredProperty := do
  let declared ←
    match property.declaredType with
    | some text => do
        let parsed ← parseType text
        pure parsed.toOption
    | none => pure none
  pure ⟨property.name, declared, property.line⟩

def InputProperty.declareAll : List InputProperty → Building (List DeclaredProperty)
  | [] => pure []
  | property :: others => do
      let first ← property.declare
      let rest ← declareAll others
      pure (first :: rest)

def InputClass.declare (input : InputClass) : Building EntityClass := do
  let properties ← InputProperty.declareAll input.properties
  pure (.of input.name input.file properties)

def InputClass.declareAll : List InputClass → Building (List EntityClass)
  | [] => pure []
  | input :: others => do
      let first ← input.declare
      let rest ← declareAll others
      pure (first :: rest)

def Resolver.attachAll (resolver : Resolver) (classes : List InputClass) : Resolver :=
  classes.foldl
    (fun resolver input =>
      match input.mapping with
      | some metadata => (resolver.attach metadata).2
      | none => resolver)
    resolver

/-! ### Checking -/

structure AnalysisResult where
  diagnostics : List Diagnostic
  classesChecked : Nat
  deriving DecidableEq, Repr

variable {m : Type → Type} [Monad m] {ε : Type}

def checkClasses (load : m (Except ε Snapshot)) (hierarchy : Hierarchy) (options : CheckOptions) :
    List EntityClass → TypeStore → Resolver → m (List Diagnostic × Resolver)
  | [], _, resolver => pure ([], resolver)
  | entity :: others, store, resolver => do
      let (metadata, resolver) ← resolver.resolve load entity.name
      let (first, store) := (checkClass hierarchy options metadata entity).run store
      let (rest, resolver) ← checkClasses load hierarchy options others store resolver
      pure (first ++ rest, resolver)

/-- Analyses an input with a resolver, which is ready for the next run afterwards. -/
def analyse (load : m (Except ε Snapshot)) (options : CheckOptions) (input : AnalysisInput)
    (resolver : Resolver) : m (AnalysisResult × Resolver) := do
  let hierarchy := Hierarchy.ofEntries input.hierarchy
  let (classes, store) := (InputClass.declareAll input.classes).run TypeStore.initial
  let (diagnostics, resolver) ←
    checkClasses load hierarchy options classes store (resolver.attachAll input.classes)
  pure (⟨diagnostics, classes.length⟩, resolver.clear)

end AssociationCheck
