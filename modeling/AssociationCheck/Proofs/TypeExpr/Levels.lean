/-
How many levels a text opens.

The unions and question marks that are open after some tokens are counted from the tokens alone. A
reading counts the same, so it is too deep only where that many levels are open. In a phrase of the
grammar, siblings use the same levels one after the other: the most that are open at once is the
depth of the phrase.
-/

import AssociationCheck.Proofs.TypeExpr.Grammar

namespace AssociationCheck

/-! ### Counting from the tokens -/

/-- For every open union, from inside to outside, the question marks that wait in it. -/
abbrev Levels := List Nat

namespace Levels

/-- What is open after one more token. A question mark waits until the next member, alternative or
argument starts or its union ends. -/
def next (levels : Levels) : Token → Levels
  | .mark .question => levels.modifyHead (· + 1)
  | .mark .openGroup | .mark .less => 0 :: levels
  | .mark .closeGroup | .mark .greater => levels.tail
  | .mark .bar | .mark .ampersand | .mark .comma => 0 :: levels.tail
  | _ => levels

def after (levels : Levels) (tokens : List Token) : Levels := tokens.foldl next levels

def total : Levels → Nat
  | [] => 0
  | questions :: outer => questions + 1 + total outer

@[simp] theorem total_cons (questions : Nat) (outer : Levels) :
    total (questions :: outer) = questions + 1 + outer.total := rfl

theorem after_append (levels : Levels) (first second : List Token) :
    levels.after (first ++ second) = (levels.after first).after second :=
  List.foldl_append

/-- The most that is open at once on the way through some tokens. -/
def peak (levels : Levels) : List Token → Nat
  | [] => levels.total
  | token :: rest => max levels.total ((levels.next token).peak rest)

theorem total_le_peak (levels : Levels) (tokens : List Token) :
    levels.total ≤ levels.peak tokens := by
  cases tokens with
  | nil => exact Nat.le_refl _
  | cons token rest => exact Nat.le_max_left _ _

theorem peak_append (levels : Levels) (first second : List Token) :
    levels.peak (first ++ second) = max (levels.peak first) ((levels.after first).peak second) := by
  induction first generalizing levels with
  | nil => exact (Nat.max_eq_right (levels.total_le_peak second)).symm
  | cons token rest ih => rw [List.cons_append, peak, ih, ← Nat.max_assoc]; rfl

theorem peak_le_iff (levels : Levels) (tokens : List Token) (limit : Nat) :
    levels.peak tokens ≤ limit ↔
      ∀ front, front <+: tokens → (levels.after front).total ≤ limit := by
  induction tokens generalizing levels with
  | nil => simp [peak, after]
  | cons token rest ih =>
      rw [peak, Nat.max_le, ih]
      constructor
      · rintro ⟨here, later⟩ front isPrefix
        cases front with
        | nil => exact here
        | cons first others =>
            obtain ⟨rfl, inside⟩ := List.cons_prefix_cons.mp isPrefix
            exact later others inside
      · intro all
        exact ⟨all [] List.nil_prefix, fun front inside =>
          all (token :: front) (List.cons_prefix_cons.mpr ⟨rfl, inside⟩)⟩

theorem total_after_le_peak (levels : Levels) (tokens : List Token) :
    (levels.after tokens).total ≤ levels.peak tokens :=
  (levels.peak_le_iff tokens _).mp (Nat.le_refl _) tokens List.prefix_rfl

end Levels

def openLevels (tokens : List Token) : Nat := (Levels.after [0] tokens).total

/-! ### Readings -/

namespace Reading

def levels (reading : Reading) : Levels :=
  reading.inner.questions :: reading.outer.map (fun frame => frame.1.questions)

theorem depth_eq (reading : Reading) : reading.depth = reading.levels.total := by
  have each (outer : List (OpenUnion × Enclosure)) : ∀ start : Nat,
      outer.foldl (fun total frame => total + frame.1.depth) start =
        start + (Levels.total (outer.map (fun frame => frame.1.questions))) := by
    induction outer with
    | nil => exact fun start => rfl
    | cons frame rest ih =>
        intro start
        rw [List.foldl_cons, ih, List.map_cons, Levels.total_cons, OpenUnion.depth]
        omega
  rw [depth, each, levels, Levels.total_cons, OpenUnion.depth]

end Reading

/-! ### Phrases -/

namespace Levels

variable {levels outer : Levels} {first second : List Token} {depth other : Nat}

/-- Tokens that stay inside one union, and the most that is open on the way through them. -/
structure Spans (levels : Levels) (tokens : List Token) (outer : Levels) (depth : Nat) : Prop where
  inside : ∃ questions, levels.after tokens = questions :: outer
  peak : levels.peak tokens = depth

/-- Siblings use the same levels one after the other. -/
theorem Spans.separate (start : Spans levels first outer depth) (separator : Token)
    (restarts : ∀ questions, next (questions :: outer) separator = 0 :: outer)
    (rest : Spans (0 :: outer) second outer other) :
    Spans levels (first ++ separator :: second) outer (max depth other) := by
  obtain ⟨questions, reached⟩ := start.inside
  obtain ⟨last, finished⟩ := rest.inside
  have below := levels.total_after_le_peak first
  rw [start.peak, reached] at below
  constructor
  · refine ⟨last, ?_⟩
    rw [after_append, reached, after, List.foldl_cons, restarts]
    exact finished
  · rw [peak_append, start.peak, reached, Levels.peak, restarts, rest.peak, ← Nat.max_assoc,
      Nat.max_eq_left below]

theorem Spans.enclose {questions : Nat} (opening closing : Token)
    (opens : next (questions :: outer) opening = 0 :: questions :: outer)
    (closes : ∀ waiting, next (waiting :: questions :: outer) closing = questions :: outer)
    (inner : Spans (0 :: questions :: outer) first (questions :: outer)
      (total (questions :: outer) + depth)) :
    Spans (questions :: outer) (opening :: first ++ [closing]) outer
      (total (questions :: outer) + depth) := by
  obtain ⟨waiting, reached⟩ := inner.inside
  have below := total_after_le_peak (0 :: questions :: outer) first
  rw [inner.peak, reached] at below
  constructor
  · refine ⟨questions, ?_⟩
    rw [List.cons_append, after, List.foldl_cons, opens, ← after, after_append, reached]
    exact closes waiting
  · rw [List.cons_append, Levels.peak, opens, peak_append, inner.peak, reached, Levels.peak, closes,
      Levels.peak]
    omega

theorem Spans.extend (start : Spans levels first outer depth)
    (neutral : ∀ levels : Levels,
      levels.after second = levels ∧ levels.peak second = levels.total) :
    Spans levels (first ++ second) outer depth := by
  obtain ⟨questions, reached⟩ := start.inside
  have below := levels.total_after_le_peak first
  rw [start.peak] at below
  constructor
  · exact ⟨questions, by rw [after_append, (neutral _).1, reached]⟩
  · rw [peak_append, start.peak, (neutral _).2, Nat.max_eq_left below]

end Levels

open Levels in
mutual

theorem UnionPhrase.spans (phrase : UnionPhrase) (outer : Levels) :
    Spans (0 :: outer) phrase.tokens outer (outer.total + phrase.depth) := by
  cases phrase with
  | last alternative =>
      have spans := alternative.spans outer
      rw [total_cons] at spans
      rw [UnionPhrase.tokens, UnionPhrase.depth]
      convert spans using 1
      omega
  | bar alternative others =>
      have spans :=
        (alternative.spans outer).separate (.mark .bar) (fun _ => rfl) (others.spans outer)
      rw [total_cons] at spans
      rw [UnionPhrase.tokens, UnionPhrase.depth]
      convert spans using 1
      omega

theorem IntersectionPhrase.spans (phrase : IntersectionPhrase) (outer : Levels) :
    Spans (0 :: outer) phrase.tokens outer (total (0 :: outer) + phrase.depth) := by
  cases phrase with
  | last member => exact member.spans 0 outer
  | ampersand member others =>
      have spans :=
        (member.spans 0 outer).separate (.mark .ampersand) (fun _ => rfl) (others.spans outer)
      rw [IntersectionPhrase.tokens, IntersectionPhrase.depth]
      convert spans using 1
      omega

theorem PostfixPhrase.spans (phrase : PostfixPhrase) (questions : Nat) (outer : Levels) :
    Spans (questions :: outer) phrase.tokens outer
      (total (questions :: outer) + phrase.depth) := by
  cases phrase with
  | primary phrase => exact phrase.spans questions outer
  | brackets operand =>
      rw [PostfixPhrase.tokens, PostfixPhrase.depth]
      refine (operand.spans questions outer).extend (fun levels => ⟨rfl, ?_⟩)
      simp [Levels.peak, next]

theorem PrimaryPhrase.spans (phrase : PrimaryPhrase) (questions : Nat) (outer : Levels) :
    Spans (questions :: outer) phrase.tokens outer
      (total (questions :: outer) + phrase.depth) := by
  cases phrase with
  | question operand =>
      obtain ⟨⟨last, reached⟩, peak⟩ := operand.spans (questions + 1) outer
      rw [PrimaryPhrase.tokens, PrimaryPhrase.depth]
      refine ⟨⟨last, reached⟩, ?_⟩
      rw [Levels.peak]
      change max _ (Levels.peak ((questions + 1) :: outer) operand.tokens) = _
      rw [peak, total_cons, total_cons]
      omega
  | group inner => exact (inner.spans (questions :: outer)).enclose _ _ rfl (fun _ => rfl)
  | name text =>
      refine ⟨⟨questions, rfl⟩, ?_⟩
      simp [PrimaryPhrase.tokens, PrimaryPhrase.depth, Levels.peak, next]
  | applied text arguments =>
      obtain ⟨⟨last, reached⟩, peak⟩ :=
        (arguments.spans (questions :: outer)).enclose (.mark .less) (.mark .greater) rfl
          (fun _ => rfl)
      rw [PrimaryPhrase.tokens, PrimaryPhrase.depth]
      refine ⟨⟨last, reached⟩, ?_⟩
      rw [List.cons_append, Levels.peak]
      change max _ (Levels.peak (questions :: outer) _) = _
      rw [peak]
      omega

theorem ArgumentsPhrase.spans (phrase : ArgumentsPhrase) (outer : Levels) :
    Spans (0 :: outer) phrase.tokens outer (outer.total + phrase.depth) := by
  cases phrase with
  | last argument => exact argument.spans outer
  | comma argument others =>
      have spans :=
        (argument.spans outer).separate (.mark .comma) (fun _ => rfl) (others.spans outer)
      rw [ArgumentsPhrase.tokens, ArgumentsPhrase.depth]
      convert spans using 1
      omega

end

/-- The depth of a phrase is the most that is open at once on the way through its text. -/
theorem UnionPhrase.depth_le_iff (phrase : UnionPhrase) (limit : Nat) :
    phrase.depth ≤ limit ↔ ∀ front, front <+: phrase.tokens → openLevels front ≤ limit := by
  have peak := (phrase.spans []).peak
  rw [show Levels.total [] = 0 from rfl, Nat.zero_add] at peak
  rw [← peak]
  exact Levels.peak_le_iff [0] phrase.tokens limit

end AssociationCheck
