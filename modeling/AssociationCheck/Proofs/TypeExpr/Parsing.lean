/-
Parsing follows the grammar.

A text is a type expression exactly when it splits into the tokens of a phrase whose names accept
their arguments and which opens no more levels than the limit. The type that parsing makes is what
the tight phrase of the text means, in whatever store it is made. A text is refused for its depth
only if one of its beginnings opens more levels than the limit.
-/

import AssociationCheck.Proofs.TypeExpr.Completeness
import AssociationCheck.Proofs.TypeExpr.Soundness
import AssociationCheck.Proofs.TypeExpr.Tokens

namespace AssociationCheck

open Building TypeStore Token

/-! ### Tokens -/

namespace Reading

theorem result?_of_complete {place : Place} {operand : TypeExpr}
    (complete : place.operand? = some operand) (inner : OpenUnion) :
    result? ⟨[], inner, place⟩ = some (inner.complete operand) := by
  cases place with
  | beforeOperand | inBrackets => cases complete
  | afterName | afterOperand => cases complete; rfl

/-- The text of a phrase within the limit is read, as its expression if the phrase is tight. -/
theorem run_of_phrase {phrase : UnionPhrase} (applies : phrase.Applies)
    (within : phrase.depth ≤ depthLimit) {placed : List PlacedToken}
    (same : placed.map PlacedToken.token = phrase.tokens) :
    ∃ expr, run {} placed = .ok expr ∧ (phrase.Tight → expr = phrase.expr) := by
  obtain ⟨inner, place, operand, complete, read, reached | tooDeep⟩ := phrase.reaches applies [] []
  · refine ⟨inner.complete operand, (run_eq_ok_iff {} placed _).mpr
      ⟨⟨[], inner, place⟩, by rw [same]; exact reached, result?_of_complete complete inner⟩,
      fun tight => ?_⟩
    rw [OpenUnion.complete, read tight, List.append_nil, List.reverse_reverse]
    rfl
  · obtain ⟨front, inside, exceeds⟩ := exists_front_of_tooDeep tooDeep
    have below := (phrase.depth_le_iff depthLimit).mp within front inside
    exact absurd exceeds (Nat.not_lt.mpr below)

/-- Tokens that are read are the text of a tight phrase within the limit. -/
theorem phrase_of_run {placed : List PlacedToken} {expr : TypeExpr}
    (isOk : run {} placed = .ok expr) :
    ∃ phrase : UnionPhrase, phrase.tokens = placed.map PlacedToken.token ∧ phrase.Tight ∧
      phrase.Applies ∧ phrase.depth ≤ depthLimit := by
  obtain ⟨last, isRead, finished⟩ := (run_eq_ok_iff {} placed expr).mp isOk
  have start : Reads {} ([] ++ [] ++ []) := .intro .nil awaitsUnion_nil .beforeOperand
  obtain ⟨phrase, tight, applies, same⟩ := (start.steps isRead).exists_phrase finished
  refine ⟨phrase, same, tight, applies, (phrase.depth_le_iff depthLimit).mpr ?_⟩
  rw [same, List.nil_append]
  exact (Levels.peak_le_iff [0] _ _).mp (peak_of_steps isRead (by decide))

end Reading

/-! ### Texts -/

namespace TypeExpr

variable {input : String}

theorem exists_tokens_of_ofText {expr : TypeExpr} (isExpr : ofText input = .ok expr) :
    ∃ placed, PlacedToken.ofText input = .ok placed ∧ Reading.run {} placed = .ok expr := by
  unfold ofText at isExpr
  cases cut : PlacedToken.ofText input with
  | error stray =>
      rw [cut] at isExpr
      cases isExpr
  | ok placed =>
      rw [cut] at isExpr
      refine ⟨placed, rfl, ?_⟩
      cases isRead : Reading.run {} placed with
      | error failure => simp [isRead] at isExpr
      | ok other => simpa [isRead] using isExpr

theorem ofText_of_phrase {phrase : UnionPhrase} (splits : Splits input.toList phrase.tokens)
    (applies : phrase.Applies) (within : phrase.depth ≤ Reading.depthLimit) :
    ∃ expr, ofText input = .ok expr ∧ (phrase.Tight → expr = phrase.expr) := by
  obtain ⟨placed, cut, same⟩ := (PlacedToken.ofText_eq_ok_iff input phrase.tokens).mpr splits
  obtain ⟨expr, isRead, read⟩ := Reading.run_of_phrase applies within same
  exact ⟨expr, by simp only [ofText, cut, isRead], read⟩

theorem phrase_of_ofText {expr : TypeExpr} (isExpr : ofText input = .ok expr) :
    ∃ phrase : UnionPhrase, Splits input.toList phrase.tokens ∧ phrase.Tight ∧ phrase.Applies ∧
      phrase.depth ≤ Reading.depthLimit := by
  obtain ⟨placed, cut, isRead⟩ := exists_tokens_of_ofText isExpr
  obtain ⟨phrase, same, tight, applies, within⟩ := Reading.phrase_of_run isRead
  exact ⟨phrase, (PlacedToken.ofText_eq_ok_iff input _).mp ⟨placed, cut, same.symm⟩, tight,
    applies, within⟩

/-- A text that is refused for its depth has a beginning that opens more levels than the limit. -/
theorem exists_front_of_ofText {parts : List TypeExpr}
    (refused : ofText input = .error (.tooDeep, parts)) :
    ∃ tokens front, Splits input.toList tokens ∧ front <+: tokens ∧
      Reading.depthLimit < openLevels front := by
  unfold ofText at refused
  cases cut : PlacedToken.ofText input with
  | error stray => simp [cut] at refused
  | ok placed =>
      cases isRead : Reading.run {} placed with
      | ok expr => simp [cut, isRead] at refused
      | error failure =>
          have tooDeep : failure.fault = .tooDeep := by
            simp only [cut, isRead, Except.error.injEq, Prod.mk.injEq] at refused
            have refused := refused.1
            unfold TypeParseError.ofFailure at refused
            split at refused
            · cases refused
            · cases refused
            · cases refused
            · assumption
          obtain ⟨front, inside, exceeds⟩ :=
            Reading.exists_front_of_tooDeep (Reading.steps_of_run_tooDeep isRead tooDeep)
          exact ⟨_, front, (PlacedToken.ofText_eq_ok_iff input _).mp ⟨placed, cut, rfl⟩, inside,
            exceeds⟩

theorem treeOfText_eq_ok_iff (tree : TypeTree) :
    treeOfText input = .ok tree ↔ ∃ expr, ofText input = .ok expr ∧ expr.tree = tree := by
  unfold treeOfText
  cases ofText input with
  | ok expr => simp
  | error problem => simp

theorem exists_parts_of_treeOfText {error : TypeParseError}
    (refused : treeOfText input = .error error) :
    ∃ parts, ofText input = .error (error, parts) := by
  unfold treeOfText at refused
  cases found : ofText input with
  | ok expr =>
      rw [found] at refused
      cases refused
  | error problem =>
      rw [found] at refused
      cases refused
      exact ⟨problem.2, rfl⟩

theorem exists_tree_iff_phrase (input : String) :
    (∃ tree, treeOfText input = .ok tree) ↔
      ∃ phrase : UnionPhrase, Splits input.toList phrase.tokens ∧ phrase.Applies ∧
        phrase.depth ≤ Reading.depthLimit := by
  constructor
  · rintro ⟨tree, isTree⟩
    obtain ⟨expr, isExpr, _⟩ := (treeOfText_eq_ok_iff tree).mp isTree
    obtain ⟨phrase, splits, _, applies, within⟩ := phrase_of_ofText isExpr
    exact ⟨phrase, splits, applies, within⟩
  · rintro ⟨phrase, splits, applies, within⟩
    obtain ⟨expr, isExpr, _⟩ := ofText_of_phrase splits applies within
    exact ⟨expr.tree, (treeOfText_eq_ok_iff _).mpr ⟨expr, isExpr, rfl⟩⟩

theorem tree_of_phrase {tree : TypeTree} (isTree : treeOfText input = .ok tree)
    {phrase : UnionPhrase} (splits : Splits input.toList phrase.tokens)
    (applies : phrase.Applies) (tight : phrase.Tight) : tree = phrase.tree := by
  obtain ⟨expr, isExpr, rfl⟩ := (treeOfText_eq_ok_iff tree).mp isTree
  -- The phrase that was read has the same tokens, so this one is within the limit too.
  obtain ⟨read, readSplits, _, _, readWithin⟩ := phrase_of_ofText isExpr
  have within : phrase.depth ≤ Reading.depthLimit := by
    rw [UnionPhrase.depth_le_iff, PlacedToken.tokens_eq_of_splits splits readSplits]
    exact (read.depth_le_iff _).mp readWithin
  obtain ⟨other, isOther, same⟩ := ofText_of_phrase splits applies within
  rw [isExpr] at isOther
  rw [Except.ok.inj isOther, same tight, phrase.tree_expr applies]

end TypeExpr

/-! ### Types -/

/-- A text says a type exactly when it splits into the tokens of a phrase of the grammar in which
every name accepts its arguments and no more than 128 unions and question marks are open at once.
The type is then what the phrase means in which brackets behind a question mark belong to its
operand. A text is too deep only if it has a beginning, the open unions and question marks of which
exceed the limit, whatever phrase it is the beginning of. -/
theorem parseType_follows_grammar (input : String) {store : TypeStore}
    (canonical : store.Canonical) :
    let parsed := ((parseType input).run store).1
    let later := ((parseType input).run store).2
    ((∃ id, parsed = .ok id) ↔
      ∃ phrase : UnionPhrase, Splits input.toList phrase.tokens ∧ phrase.Applies ∧
        phrase.depth ≤ 128) ∧
    (∀ id, parsed = .ok id →
      (∃ phrase : UnionPhrase, Splits input.toList phrase.tokens ∧ phrase.Applies ∧
        phrase.Tight) ∧
      ∀ phrase : UnionPhrase, Splits input.toList phrase.tokens → phrase.Applies →
        phrase.Tight → later.tree id = phrase.tree) ∧
    (parsed = .error .tooDeep →
      ∃ tokens front, Splits input.toList tokens ∧ front <+: tokens ∧ 128 < openLevels front ∧
        ∀ phrase : UnionPhrase, front <+: phrase.tokens → 128 < phrase.depth) := by
  intro parsed later
  have agrees : parsed.map later.tree = TypeExpr.treeOfText input :=
    (parseType_makes input canonical).2.2
  have treeOf {id : TypeId} (isOk : parsed = .ok id) :
      TypeExpr.treeOfText input = .ok (later.tree id) := by
    rw [← agrees, isOk]
    rfl
  refine ⟨?_, fun id isOk => ⟨?_, fun phrase => TypeExpr.tree_of_phrase (treeOf isOk)⟩, ?_⟩
  · refine Iff.trans ?_ (TypeExpr.exists_tree_iff_phrase input)
    rw [← agrees]
    cases parsed with
    | ok id => exact ⟨fun _ => ⟨later.tree id, rfl⟩, fun _ => ⟨id, rfl⟩⟩
    | error error =>
        constructor <;>
          · rintro ⟨_, impossible⟩
            cases impossible
  · obtain ⟨expr, isExpr, _⟩ := (TypeExpr.treeOfText_eq_ok_iff _).mp (treeOf isOk)
    obtain ⟨phrase, splits, tight, applies, _⟩ := TypeExpr.phrase_of_ofText isExpr
    exact ⟨phrase, splits, applies, tight⟩
  · intro tooDeep
    rw [tooDeep] at agrees
    obtain ⟨parts, refused⟩ := TypeExpr.exists_parts_of_treeOfText agrees.symm
    obtain ⟨tokens, front, splits, inside, exceeds⟩ := TypeExpr.exists_front_of_ofText refused
    refine ⟨tokens, front, splits, inside, exceeds, fun phrase starts => ?_⟩
    by_contra within
    have below := (phrase.depth_le_iff _).mp (Nat.not_lt.mp within) front starts
    exact absurd exceeds (Nat.not_lt.mpr below)

/-- A built-in type has no arguments, however it is written. -/
example : ((parseType "INT<Book>").run initial).1 = .error (.invalidArguments "INT" 1) := by
  decide +kernel

/-- A list of books and integers, or null, is read in a store that has no class yet. One keyword is
in capitals, the other is the long one and starts with one, and the class has two separators. -/
theorem parseType_follows_grammar_books :
    let item : UnionPhrase :=
      .bar (.last (.primary (.name "Integer"))) (.last (.last (.primary (.name "\\\\Book"))))
    let books : PostfixPhrase := .primary (.applied "LIST" (.last item))
    let phrase : UnionPhrase := .last (.last (.primary (.question books)))
    let later := ((parseType "?LIST< Integer | \\\\Book >").run initial).2
    initial.Canonical ∧
      (∃ id, ((parseType "?LIST< Integer | \\\\Book >").run initial).1 = .ok id ∧
        later.tree id = .union [.array (.scalar .int)
          (.union [.scalar .int, .object "Book" []]), .scalar .null]) ∧
      phrase.depth = 3 := by
  intro item books phrase later
  have splits : Splits "?LIST< Integer | \\\\Book >".toList phrase.tokens :=
    (PlacedToken.ofText_eq_ok_iff _ _).mp ⟨_, rfl, rfl⟩
  have accepts : Accepts "LIST" 1 := by decide +kernel
  have applies : phrase.Applies := ⟨accepts, trivial, trivial⟩
  have depth : phrase.depth = 3 := rfl
  obtain ⟨accepted, meaning, _⟩ :=
    parseType_follows_grammar "?LIST< Integer | \\\\Book >" canonical_initial
  obtain ⟨id, isOk⟩ := accepted.mpr ⟨phrase, splits, applies, by rw [depth]; decide⟩
  have means : phrase.tree = .union [.array (.scalar .int)
      (.union [.scalar .int, .object "Book" []]), .scalar .null] := by
    decide +kernel
  refine ⟨canonical_initial, ⟨id, isOk, ?_⟩, depth⟩
  rw [← means]
  exact (meaning id isOk).2 phrase splits applies ⟨trivial, trivial⟩

end AssociationCheck
