/-
The grammar of type expressions.

The phrases of the grammar are trees with one constructor for each alternative of its rules. The
text of a phrase, the number of levels it opens and what it means are read off the tree, without
any parser. The grammar leaves open whether brackets behind a question mark are inside or outside of
its operand; in a tight phrase they are inside.
-/

import AssociationCheck.Proofs.Text.Case
import AssociationCheck.Proofs.Types.Denotation
import Mathlib.Data.List.Find

namespace AssociationCheck

/-! ### Phrases -/

mutual

/-- One or more alternatives with bars between them. -/
inductive UnionPhrase
  | last (alternative : IntersectionPhrase)
  | bar (alternative : IntersectionPhrase) (others : UnionPhrase)

/-- One or more members with ampersands between them. -/
inductive IntersectionPhrase
  | last (member : PostfixPhrase)
  | ampersand (member : PostfixPhrase) (others : IntersectionPhrase)

/-- A primary phrase with any number of brackets behind it. -/
inductive PostfixPhrase
  | primary (phrase : PrimaryPhrase)
  | brackets (operand : PostfixPhrase)

inductive PrimaryPhrase
  | question (operand : PostfixPhrase)
  | group (inner : UnionPhrase)
  | name (text : String)
  | applied (text : String) (arguments : ArgumentsPhrase)

/-- One or more arguments with commas between them. -/
inductive ArgumentsPhrase
  | last (argument : UnionPhrase)
  | comma (argument : UnionPhrase) (others : ArgumentsPhrase)

end

/-! ### Texts -/

mutual

def UnionPhrase.tokens : UnionPhrase → List Token
  | .last alternative => alternative.tokens
  | .bar alternative others => alternative.tokens ++ .mark .bar :: others.tokens

def IntersectionPhrase.tokens : IntersectionPhrase → List Token
  | .last member => member.tokens
  | .ampersand member others => member.tokens ++ .mark .ampersand :: others.tokens

def PostfixPhrase.tokens : PostfixPhrase → List Token
  | .primary phrase => phrase.tokens
  | .brackets operand => operand.tokens ++ [.mark .openBracket, .mark .closeBracket]

def PrimaryPhrase.tokens : PrimaryPhrase → List Token
  | .question operand => .mark .question :: operand.tokens
  | .group inner => .mark .openGroup :: inner.tokens ++ [.mark .closeGroup]
  | .name text => [.name text]
  | .applied text arguments =>
      .name text :: .mark .less :: arguments.tokens ++ [.mark .greater]

def ArgumentsPhrase.tokens : ArgumentsPhrase → List Token
  | .last argument => argument.tokens
  | .comma argument others => argument.tokens ++ .mark .comma :: others.tokens

end

/-! ### Keywords -/

inductive Keyword
  | scalar (kind : Scalar)
  | iterable
  | array
  | list
  deriving DecidableEq, Repr

namespace Keyword

def table : List (String × Keyword) :=
  [("mixed", scalar .mixed), ("never", scalar .never), ("null", scalar .null),
    ("int", scalar .int), ("integer", scalar .int), ("string", scalar .string),
    ("bool", scalar .bool), ("boolean", scalar .bool), ("float", scalar .float),
    ("double", scalar .float), ("iterable", iterable), ("array", array), ("list", list)]

/-- The keyword that a name is, in whatever case its letters are. -/
def named? (name : String) : Option Keyword :=
  (table.find? fun entry => Text.SameWord name entry.1).map Prod.snd

def capacity : Keyword → Nat
  | scalar _ => 0
  | iterable | array => 2
  | list => 1

end Keyword

/-! ### Numbers of arguments -/

def ArgumentsPhrase.count : ArgumentsPhrase → Nat
  | .last _ => 1
  | .comma _ others => others.count + 1

/-- A built-in type has no arguments, an iterable or an array at most two, and a list at most
one. -/
def Accepts (name : String) (count : Nat) : Prop :=
  ∀ keyword ∈ Keyword.named? name, count ≤ keyword.capacity

instance (name : String) (count : Nat) : Decidable (Accepts name count) :=
  inferInstanceAs (Decidable (∀ keyword ∈ Keyword.named? name, count ≤ keyword.capacity))

mutual

def UnionPhrase.Applies : UnionPhrase → Prop
  | .last alternative => alternative.Applies
  | .bar alternative others => alternative.Applies ∧ others.Applies

def IntersectionPhrase.Applies : IntersectionPhrase → Prop
  | .last member => member.Applies
  | .ampersand member others => member.Applies ∧ others.Applies

def PostfixPhrase.Applies : PostfixPhrase → Prop
  | .primary phrase => phrase.Applies
  | .brackets operand => operand.Applies

def PrimaryPhrase.Applies : PrimaryPhrase → Prop
  | .question operand => operand.Applies
  | .group inner => inner.Applies
  | .name _ => True
  | .applied text arguments => Accepts text arguments.count ∧ arguments.Applies

def ArgumentsPhrase.Applies : ArgumentsPhrase → Prop
  | .last argument => argument.Applies
  | .comma argument others => argument.Applies ∧ others.Applies

end

/-! ### Levels -/

mutual

/-- The greatest number of unions and question marks that are open at once. -/
def UnionPhrase.depth : UnionPhrase → Nat
  | .last alternative => alternative.depth + 1
  | .bar alternative others => max (alternative.depth + 1) others.depth

def IntersectionPhrase.depth : IntersectionPhrase → Nat
  | .last member => member.depth
  | .ampersand member others => max member.depth others.depth

def PostfixPhrase.depth : PostfixPhrase → Nat
  | .primary phrase => phrase.depth
  | .brackets operand => operand.depth

def PrimaryPhrase.depth : PrimaryPhrase → Nat
  | .question operand => operand.depth + 1
  | .group inner => inner.depth
  | .name _ => 0
  | .applied _ arguments => arguments.depth

def ArgumentsPhrase.depth : ArgumentsPhrase → Nat
  | .last argument => argument.depth
  | .comma argument others => max argument.depth others.depth

end

/-! ### Brackets behind question marks -/

def PostfixPhrase.isPlain : PostfixPhrase → Bool
  | .primary (.question _) => false
  | .primary _ => true
  | .brackets operand => operand.isPlain

mutual

/-- Brackets behind a question mark belong to its operand. -/
def UnionPhrase.Tight : UnionPhrase → Prop
  | .last alternative => alternative.Tight
  | .bar alternative others => alternative.Tight ∧ others.Tight

def IntersectionPhrase.Tight : IntersectionPhrase → Prop
  | .last member => member.Tight
  | .ampersand member others => member.Tight ∧ others.Tight

def PostfixPhrase.Tight : PostfixPhrase → Prop
  | .primary phrase => phrase.Tight
  | .brackets operand => operand.isPlain = true ∧ operand.Tight

def PrimaryPhrase.Tight : PrimaryPhrase → Prop
  | .question operand => operand.Tight
  | .group inner => inner.Tight
  | .name _ => True
  | .applied _ arguments => arguments.Tight

def ArgumentsPhrase.Tight : ArgumentsPhrase → Prop
  | .last argument => argument.Tight
  | .comma argument others => argument.Tight ∧ others.Tight

end

/-- The same text is a phrase with the brackets outside of the operand and one with them inside. -/
example (operand : PostfixPhrase) :
    (PostfixPhrase.brackets (.primary (.question operand))).tokens =
      (PostfixPhrase.primary (.question (.brackets operand))).tokens := rfl

/-! ### Meaning -/

/-- What a name means with its arguments: a built-in type, a container, the keys of which are
`mixed` unless they are given or those of a list, or a class. -/
def TypeTree.ofName (name : String) (arguments : List TypeTree) : TypeTree :=
  let key : TypeTree :=
    match arguments with
    | [key, _] => key
    | _ => .scalar .mixed
  let value := arguments.getLast?.getD (.scalar .mixed)
  match Keyword.named? name with
  | some (.scalar kind) => .scalar kind
  | some .iterable => .iterable key value
  | some .array => .array key value
  | some .list => .array (.scalar .int) value
  | none => .object (withoutLeadingSeparators name) arguments

mutual

def UnionPhrase.trees : UnionPhrase → List TypeTree
  | .last alternative => [.meet alternative.trees]
  | .bar alternative others => .meet alternative.trees :: others.trees

def IntersectionPhrase.trees : IntersectionPhrase → List TypeTree
  | .last member => [member.tree]
  | .ampersand member others => member.tree :: others.trees

def PostfixPhrase.tree : PostfixPhrase → TypeTree
  | .primary phrase => phrase.tree
  | .brackets operand => .array (.scalar .mixed) operand.tree

def PrimaryPhrase.tree : PrimaryPhrase → TypeTree
  | .question operand => operand.tree.withNull
  | .group inner => .unite inner.trees
  | .name text => .ofName text []
  | .applied text arguments => .ofName text arguments.trees

def ArgumentsPhrase.trees : ArgumentsPhrase → List TypeTree
  | .last argument => [.unite argument.trees]
  | .comma argument others => .unite argument.trees :: others.trees

end

def UnionPhrase.tree (phrase : UnionPhrase) : TypeTree := .unite phrase.trees

/-! ### Expressions -/

def TypeExpr.ofName (name : String) (arguments : List TypeExpr) : TypeExpr :=
  (ofName? name arguments).getD (.object name arguments)

mutual

def UnionPhrase.exprs : UnionPhrase → List TypeExpr
  | .last alternative => [.allOf alternative.exprs]
  | .bar alternative others => .allOf alternative.exprs :: others.exprs

def IntersectionPhrase.exprs : IntersectionPhrase → List TypeExpr
  | .last member => [member.expr]
  | .ampersand member others => member.expr :: others.exprs

def PostfixPhrase.expr : PostfixPhrase → TypeExpr
  | .primary phrase => phrase.expr
  | .brackets operand => .array (.scalar .mixed) operand.expr

def PrimaryPhrase.expr : PrimaryPhrase → TypeExpr
  | .question operand => .nullable operand.expr
  | .group inner => .anyOf inner.exprs
  | .name text => .ofBareName text
  | .applied text arguments => .ofName text arguments.exprs

def ArgumentsPhrase.exprs : ArgumentsPhrase → List TypeExpr
  | .last argument => [.anyOf argument.exprs]
  | .comma argument others => .anyOf argument.exprs :: others.exprs

end

def UnionPhrase.expr (phrase : UnionPhrase) : TypeExpr := .anyOf phrase.exprs

/-! ### Names -/

def Keyword.ofContainer : Container → Keyword
  | .iterable => iterable
  | .array => array
  | .list => list

/-- A name is the keyword of the grammar for the built-in type or the container that is read. -/
theorem Keyword.named?_eq (name : String) :
    named? name = ((Scalar.ofKeyword? name).map scalar).or
      ((Container.ofKeyword? name).map ofContainer) := by
  have small : ∀ entry ∈ table, Text.foldCase entry.1 = entry.1 := by decide +kernel
  have searched : named? name =
      (table.find? fun entry => Text.foldCase name == entry.1).map Prod.snd := by
    unfold named?
    rw [List.find?_congr]
    intro entry listed
    rw [Bool.eq_iff_iff, decide_eq_true_iff, beq_iff_eq, Text.sameWord_iff_foldCase,
      small entry listed]
  rw [searched]
  unfold Scalar.ofKeyword? Container.ofKeyword?
  generalize Text.foldCase name = word
  split
  case h_11 =>
    split
    case h_4 =>
      have unlisted : table.find? (fun entry => word == entry.1) = none := by
        rw [List.find?_eq_none]
        simp_all [table]
      rw [unlisted]
      rfl
    all_goals decide +kernel
  all_goals decide +kernel

theorem ArgumentsPhrase.length_exprs : (phrase : ArgumentsPhrase) →
    phrase.exprs.length = phrase.count
  | .last _ => rfl
  | .comma _ others => by rw [exprs, count, List.length_cons, others.length_exprs]

theorem accepts_iff (name : String) (arguments : List TypeExpr) :
    Accepts name arguments.length ↔ (TypeExpr.ofName? name arguments).isSome = true := by
  unfold Accepts TypeExpr.ofName?
  rw [Keyword.named?_eq]
  cases Scalar.ofKeyword? name with
  | some kind => cases arguments <;> simp [Keyword.capacity]
  | none =>
      cases Container.ofKeyword? name with
      | none => simp
      | some container =>
          match arguments with
          | [] | [_] | [_, _] =>
              cases container <;> simp [Container.apply, Keyword.ofContainer, Keyword.capacity]
          | _ :: _ :: _ :: _ =>
              cases container <;> simp [Container.apply, Keyword.ofContainer, Keyword.capacity]

theorem ofName?_of_accepts {name : String} {arguments : List TypeExpr}
    (accepts : Accepts name arguments.length) :
    TypeExpr.ofName? name arguments = some (.ofName name arguments) := by
  obtain ⟨expr, found⟩ := Option.isSome_iff_exists.mp ((accepts_iff name arguments).mp accepts)
  rw [TypeExpr.ofName, found]
  rfl

theorem tree_of_ofName? {name : String} {arguments : List TypeExpr} {expr : TypeExpr}
    (found : TypeExpr.ofName? name arguments = some expr) :
    expr.tree = .ofName name (arguments.map TypeExpr.tree) := by
  unfold TypeExpr.ofName? at found
  unfold TypeTree.ofName
  rw [Keyword.named?_eq]
  cases scalar : Scalar.ofKeyword? name with
  | some kind =>
      rw [scalar] at found
      cases arguments with
      | nil =>
          cases found
          rfl
      | cons => cases found
  | none =>
      rw [scalar] at found
      cases container : Container.ofKeyword? name with
      | none =>
          rw [container] at found
          cases found
          rw [TypeExpr.tree, TypeExpr.trees_eq_map]
          rfl
      | some kind =>
          rw [container] at found
          match arguments with
          | [] | [_] | [_, _] => cases kind <;> cases found <;> rfl
          | _ :: _ :: _ :: _ => cases kind <;> cases found

/-! ### What an expression means -/

theorem TypeExpr.tree_anyOf (members : List TypeExpr) :
    (anyOf members).tree = .unite (members.map tree) := by
  rw [tree, trees_eq_map]

theorem TypeExpr.tree_allOf (members : List TypeExpr) :
    (allOf members).tree = .meet (members.map tree) := by
  rw [tree, trees_eq_map]

mutual

theorem UnionPhrase.trees_exprs (phrase : UnionPhrase) (applies : phrase.Applies) :
    phrase.exprs.map TypeExpr.tree = phrase.trees := by
  cases phrase with
  | last alternative =>
      rw [UnionPhrase.exprs, UnionPhrase.trees, List.map_singleton, TypeExpr.tree_allOf,
        alternative.trees_exprs applies]
  | bar alternative others =>
      rw [UnionPhrase.exprs, UnionPhrase.trees, List.map_cons, TypeExpr.tree_allOf,
        alternative.trees_exprs applies.1, others.trees_exprs applies.2]

theorem IntersectionPhrase.trees_exprs (phrase : IntersectionPhrase) (applies : phrase.Applies) :
    phrase.exprs.map TypeExpr.tree = phrase.trees := by
  cases phrase with
  | last member =>
      rw [IntersectionPhrase.exprs, IntersectionPhrase.trees, List.map_singleton,
        member.tree_expr applies]
  | ampersand member others =>
      rw [IntersectionPhrase.exprs, IntersectionPhrase.trees, List.map_cons,
        member.tree_expr applies.1, others.trees_exprs applies.2]

theorem PostfixPhrase.tree_expr (phrase : PostfixPhrase) (applies : phrase.Applies) :
    phrase.expr.tree = phrase.tree := by
  cases phrase with
  | primary phrase => exact phrase.tree_expr applies
  | brackets operand =>
      rw [PostfixPhrase.expr, PostfixPhrase.tree, TypeExpr.tree, TypeExpr.tree,
        operand.tree_expr applies]

theorem PrimaryPhrase.tree_expr (phrase : PrimaryPhrase) (applies : phrase.Applies) :
    phrase.expr.tree = phrase.tree := by
  cases phrase with
  | question operand =>
      rw [PrimaryPhrase.expr, PrimaryPhrase.tree, TypeExpr.tree, operand.tree_expr applies]
  | group inner =>
      rw [PrimaryPhrase.expr, PrimaryPhrase.tree, TypeExpr.tree_anyOf, inner.trees_exprs applies]
  | name text => exact tree_of_ofName? (TypeExpr.ofName?_nil text)
  | applied text arguments =>
      have accepts : Accepts text arguments.exprs.length := by
        rw [arguments.length_exprs]
        exact applies.1
      rw [PrimaryPhrase.expr, PrimaryPhrase.tree, tree_of_ofName? (ofName?_of_accepts accepts),
        arguments.trees_exprs applies.2]

theorem ArgumentsPhrase.trees_exprs (phrase : ArgumentsPhrase) (applies : phrase.Applies) :
    phrase.exprs.map TypeExpr.tree = phrase.trees := by
  cases phrase with
  | last argument =>
      rw [ArgumentsPhrase.exprs, ArgumentsPhrase.trees, List.map_singleton, TypeExpr.tree_anyOf,
        argument.trees_exprs applies]
  | comma argument others =>
      rw [ArgumentsPhrase.exprs, ArgumentsPhrase.trees, List.map_cons, TypeExpr.tree_anyOf,
        argument.trees_exprs applies.1, others.trees_exprs applies.2]

end

theorem UnionPhrase.tree_expr (phrase : UnionPhrase) (applies : phrase.Applies) :
    phrase.expr.tree = phrase.tree := by
  rw [expr, TypeExpr.tree_anyOf, phrase.trees_exprs applies, tree]

end AssociationCheck
