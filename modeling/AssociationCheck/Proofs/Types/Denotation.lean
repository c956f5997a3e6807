/-
What type expressions mean.

The tree of an expression is put together from the trees of its parts, without any store. Building
the expression in a canonical store makes a type with that tree, so what a text says does not depend
on what the store has kept before.
-/

import AssociationCheck.TypeExpr.Parse
import AssociationCheck.Proofs.Types.Canonical

namespace AssociationCheck

open Building TypeStore

namespace TypeExpr

mutual

def tree : TypeExpr → TypeTree
  | .scalar kind => .scalar kind
  | .object name arguments => .object (withoutLeadingSeparators name) (trees arguments)
  | .iterable key value => .iterable key.tree value.tree
  | .array key value => .array key.tree value.tree
  | .nullable inner => inner.tree.withNull
  | .anyOf members => .unite (trees members)
  | .allOf members => .meet (trees members)

def trees : List TypeExpr → List TypeTree
  | [] => []
  | expr :: others => expr.tree :: trees others

end

theorem trees_eq_map (exprs : List TypeExpr) : trees exprs = exprs.map tree := by
  induction exprs with
  | nil => rfl
  | cons expr others ih => rw [trees, ih, List.map_cons]

theorem makes_of_two {first second : Building TypeId} {finish : TypeId → TypeId → Building TypeId}
    {store : TypeStore} {tree other : TypeTree} {whole : TypeTree → TypeTree → TypeTree}
    (firstMakes : Makes first store tree)
    (secondMakes : ∀ {later : TypeStore}, later.Canonical → Makes second later other)
    (finishes : ∀ {last : TypeStore}, last.Canonical → ∀ {id idOther : TypeId},
      last.Contains id → last.Contains idOther →
        Makes (finish id idOther) last (whole (last.tree id) (last.tree idOther))) :
    Makes (do
      let id ← first
      let idOther ← second
      finish id idOther) store (whole tree other) := by
  apply ensures_bind firstMakes
  rintro id later ⟨continues, known, rfl⟩
  apply ensures_bind (secondMakes continues.canonical)
  rintro idOther last ⟨further, knownOther, rfl⟩
  -- The first type is still the same after the second has been made.
  rw [← continues.canonical.tree_later further.grows known]
  exact (finishes further.canonical (further.grows.contains known) knownOther).since
    (continues.trans further)

mutual

theorem build_makes (expr : TypeExpr) {store : TypeStore} (canonical : store.Canonical) :
    Makes expr.build store expr.tree := by
  cases expr with
  | scalar kind =>
      have made := makes_known canonical (contains_scalar canonical.standard kind)
      rw [canonical.tree_scalar] at made
      rw [build, tree]
      exact made
  | object name arguments =>
      rw [build, tree]
      apply ensures_bind (buildAll_makes arguments canonical)
      rintro ids later ⟨continues, known, same⟩
      rw [← same]
      exact (object_makes continues.canonical name known).since continues
  | iterable key value =>
      rw [build, tree]
      exact makes_of_two (build_makes key canonical) (build_makes value) iterable_makes
  | array key value =>
      rw [build, tree]
      exact makes_of_two (build_makes key canonical) (build_makes value) array_makes
  | nullable inner =>
      rw [build, tree]
      apply ensures_bind (build_makes inner canonical)
      rintro id later ⟨continues, known, same⟩
      rw [← same]
      exact (addNull_makes continues.canonical known).since continues
  | anyOf members =>
      rw [build, tree]
      apply ensures_bind (buildAll_makes members canonical)
      rintro ids later ⟨continues, known, same⟩
      rw [← same]
      exact (union_makes continues.canonical known).since continues
  | allOf members =>
      rw [build, tree]
      apply ensures_bind (buildAll_makes members canonical)
      rintro ids later ⟨continues, known, same⟩
      rw [← same]
      exact (intersection_makes continues.canonical known).since continues

theorem buildAll_makes (exprs : List TypeExpr) {store : TypeStore} (canonical : store.Canonical) :
    Ensures (buildAll exprs) store (fun ids later => store.ContinuesTo later ∧
      (∀ id ∈ ids, later.Contains id) ∧ ids.map later.tree = trees exprs) := by
  cases exprs with
  | nil =>
      rw [buildAll, trees]
      exact ⟨canonical.continuesTo_refl, fun _ present => absurd present List.not_mem_nil, rfl⟩
  | cons expr others =>
      rw [buildAll, trees]
      apply ensures_bind (build_makes expr canonical)
      rintro id later ⟨continues, known, same⟩
      apply ensures_bind (buildAll_makes others continues.canonical)
      rintro ids last ⟨further, othersKnown, othersSame⟩
      refine ensures_pure ⟨continues.trans further, ?_, ?_⟩
      · intro member present
        rcases List.mem_cons.mp present with rfl | among
        · exact further.grows.contains known
        · exact othersKnown member among
      · rw [List.map_cons, othersSame, continues.canonical.tree_later further.grows known, same]

end

def treeOfText (input : String) : Except TypeParseError TypeTree :=
  match ofText input with
  | .ok expr => .ok expr.tree
  | .error (error, _) => .error error

end TypeExpr

/-- Parsing makes the tree that the text says. A text that says none leaves a canonical store with
an error that does not depend on it. -/
theorem parseType_makes (input : String) {store : TypeStore} (canonical : store.Canonical) :
    Ensures (parseType input) store (fun parsed later => store.ContinuesTo later ∧
      (∀ id, parsed = .ok id → later.Contains id) ∧
      parsed.map later.tree = TypeExpr.treeOfText input) := by
  unfold parseType TypeExpr.treeOfText
  cases TypeExpr.ofText input with
  | ok expr =>
      apply ensures_bind (expr.build_makes canonical)
      rintro id later ⟨continues, known, same⟩
      refine ensures_pure ⟨continues, ?_, congrArg Except.ok same⟩
      intro other isOk
      cases isOk
      exact known
  | error problem =>
      obtain ⟨error, parts⟩ := problem
      apply ensures_bind (TypeExpr.buildAll_makes parts canonical)
      rintro ids later ⟨continues, _⟩
      exact ensures_pure ⟨continues, fun _ impossible => (by cases impossible), rfl⟩

end AssociationCheck
