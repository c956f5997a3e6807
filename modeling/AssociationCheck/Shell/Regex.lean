/-
Regular expressions.

An expression is read in the basic or the extended form into a tree. Matching goes along a text
with all ways that the tree allows, the greedy ones first; of all matches from the leftmost place
on, the longest is taken.
-/

import AssociationCheck.Shell.Pattern

namespace AssociationCheck.Shell

inductive Regex
  | empty
  | char (c : Char)
  | any
  | set (negated : Bool) (parts : List SetPart)
  | lineStart
  | lineEnd
  /-- Between a letter of a word and something else: at its start, at its end, or either. -/
  | wordEdge (starts ends : Bool)
  | notWordEdge
  | group (number : Nat) (body : Regex)
  | back (number : Nat)
  | seq (first second : Regex)
  | either (first second : Regex)
  | repeated (least : Nat) (greatest : Option Nat) (body : Regex)
  deriving Repr

namespace Regex

/-! ### Reading -/

inductive RegexFault
  | openBracket
  | openGroup
  | strayGroup
  | badRepetition
  | badBack
  | trailingBackslash
  deriving DecidableEq, Repr

def RegexFault.text (extended : Bool) : RegexFault → String
  | openBracket => "unterminated address regex"
  | openGroup => if extended then "Unmatched ( or \\(" else "Unmatched ( or \\("
  | strayGroup => "Unmatched ) or \\)"
  | badRepetition => "Invalid preceding regular expression"
  | badBack => "Invalid back reference"
  | trailingBackslash => "Trailing backslash"

def setIn (chars : List Char) : Option (Bool × List SetPart × List Char) :=
  let (negated, chars) :=
    match chars with
    | '^' :: rest => (true, rest)
    | _ => (false, chars)
  let marked := chars.map (fun c => (⟨c, false⟩ : Marked))
  (Pattern.setParts (chars.length + 1) true marked).map (fun (parts, rest) =>
    (negated, parts, rest.map Marked.char))

def wordParts : List SetPart := [.named "alnum", .range '_' '_']

def boundsIn? (extended : Bool) (chars : List Char) : Option (Nat × Option Nat × List Char) :=
  let number (digits : List Char) : Nat := (String.ofList digits).toNat?.getD 0
  let close? (chars : List Char) : Option (List Char) :=
    match extended, chars with
    | true, '\x7d' :: rest => some rest
    | false, '\\' :: '\x7d' :: rest => some rest
    | _, _ => none
  let least := chars.takeWhile Char.isDigit
  match chars.drop least.length with
  | ',' :: rest =>
      let greatest := rest.takeWhile Char.isDigit
      (close? (rest.drop greatest.length)).map (fun after =>
        (number least, if greatest.isEmpty then none else some (number greatest), after))
  | rest =>
      if least.isEmpty then none
      else (close? rest).map (fun after => (number least, some (number least), after))

inductive Item
  | atom (body : Regex)
  | opening
  | closing
  | bar
  | star (least : Nat) (greatest : Option Nat)
  | ending
  | fault (fault : RegexFault)

/-- The next item, and what follows it. `first` says that nothing stands before it. -/
def itemIn (extended first : Bool) (chars : List Char) : Item × List Char :=
  match chars with
  | [] => (.ending, [])
  | '[' :: rest =>
      match setIn rest with
      | some (negated, parts, after) => (.atom (.set negated parts), after)
      | none => (.fault .openBracket, [])
  | '.' :: rest => (.atom .any, rest)
  | '*' :: rest => if first then (.atom (.char '*'), rest) else (.star 0 none, rest)
  | '\\' :: c :: rest =>
      if c.isDigit && c ≠ '0' then (.atom (.back (c.toNat - 48)), rest)
      else
        match c with
        | 'n' => (.atom (.char '\n'), rest)
        | 't' => (.atom (.char '\t'), rest)
        | 'w' => (.atom (.set false wordParts), rest)
        | 'W' => (.atom (.set true wordParts), rest)
        | 's' => (.atom (.set false [.named "space"]), rest)
        | 'S' => (.atom (.set true [.named "space"]), rest)
        | '<' => (.atom (.wordEdge true false), rest)
        | '>' => (.atom (.wordEdge false true), rest)
        | 'b' => (.atom (.wordEdge true true), rest)
        | 'B' => (.atom .notWordEdge, rest)
        | _ =>
            if extended then (.atom (.char c), rest)
            else
              match c with
              | '(' => (.opening, rest)
              | ')' => (.closing, rest)
              | '|' => (.bar, rest)
              | '+' => if first then (.atom (.char c), rest) else (.star 1 none, rest)
              | '?' => if first then (.atom (.char c), rest) else (.star 0 (some 1), rest)
              | '\x7b' =>
                  match boundsIn? extended rest with
                  | some (least, greatest, after) => (.star least greatest, after)
                  | none => (.fault .badRepetition, [])
              | _ => (.atom (.char c), rest)
  | ['\\'] => (.fault .trailingBackslash, [])
  | c :: rest =>
      if c = '^' && (extended || first) then (.atom .lineStart, rest)
      else if c = '$' && (extended || rest.isEmpty || rest.take 2 == ['\\', ')'] ||
          rest.take 2 == ['\\', '|']) then (.atom .lineEnd, rest)
      else if extended then
        match c with
        | '(' => (.opening, rest)
        | ')' => (.closing, rest)
        | '|' => (.bar, rest)
        | '+' => if first then (.atom (.char c), rest) else (.star 1 none, rest)
        | '?' => if first then (.atom (.char c), rest) else (.star 0 (some 1), rest)
        | '\x7b' =>
            match boundsIn? extended rest with
            | some (least, greatest, after) =>
                if first then (.atom (.char c), rest) else (.star least greatest, after)
            | none => (.atom (.char c), rest)
        | _ => (.atom (.char c), rest)
      else (.atom (.char c), rest)

/-- An expression while it is read: what was read before the last bar, what was read since, the
last item, and the number of groups. -/
structure OpenRegex where
  before : Option Regex := none
  sequence : Regex := .empty
  last : Option Regex := none

def OpenRegex.closeSequence (state : OpenRegex) : Regex :=
  match state.last with
  | some last =>
      match state.sequence with
      | .empty => last
      | sequence => .seq sequence last
  | none => state.sequence

def OpenRegex.close (state : OpenRegex) : Regex :=
  match state.before with
  | some before => .either before state.closeSequence
  | none => state.closeSequence

/-- Reads up to the bracket that closes a group, or to the end; gives what follows and the number
of groups. -/
def readFrom (extended : Bool) :
    Nat → Bool → List Char → Nat → OpenRegex → Except RegexFault (Regex × List Char × Nat)
  | 0, _, _, _, _ => .error .openGroup
  | fuel + 1, inside, chars, groups, state =>
      let first :=
        match state.last with
        | none => true
        | some .lineStart => !extended
        | _ => false
      match itemIn extended first chars with
      | (.fault fault, _) => .error fault
      | (.ending, _) =>
          if inside then .error .openGroup else .ok (state.close, [], groups)
      | (.closing, rest) =>
          if inside then .ok (state.close, rest, groups)
          else if extended then
            readFrom extended fuel inside rest groups
              { state with sequence := state.closeSequence, last := some (.char ')') }
          else .error .strayGroup
      | (.bar, rest) =>
          readFrom extended fuel inside rest groups { before := some state.close }
      | (.opening, rest) => do
          let (body, rest, inner) ← readFrom extended fuel true rest (groups + 1) {}
          readFrom extended fuel inside rest inner
            { state with
              sequence := state.closeSequence, last := some (.group (groups + 1) body) }
      | (.star least greatest, rest) =>
          match state.last with
          | some last =>
              readFrom extended fuel inside rest groups
                { state with last := some (.repeated least greatest last) }
          | none => .error .badRepetition
      | (.atom body, rest) =>
          match body with
          | .back number =>
              if number > groups then .error .badBack
              else
                readFrom extended fuel inside rest groups
                  { state with sequence := state.closeSequence, last := some body }
          | _ =>
              readFrom extended fuel inside rest groups
                { state with sequence := state.closeSequence, last := some body }

def ofText (extended : Bool) (text : String) : Except RegexFault Regex :=
  (readFrom extended (2 * text.length + 2) false text.toList 0 {}).map Prod.fst

def literal (text : String) : Regex :=
  text.toList.foldr (fun c rest => .seq (.char c) rest) .empty

/-! ### Matching -/

/-- A place in a text, and what groups have matched. -/
structure Place where
  before : Option Char
  rest : List Char
  taken : List Char := []
  groups : List (Nat × List Char) := []

namespace Place

def advance (place : Place) : Option (Char × Place) :=
  match place.rest with
  | [] => none
  | c :: rest => some (c, { place with before := some c, rest := rest, taken := c :: place.taken })

def isWordChar (c : Option Char) : Bool :=
  match c with
  | some c => c.isAlphanum || c = '_'
  | none => false

def atWordStart (place : Place) : Bool :=
  !isWordChar place.before && isWordChar place.rest.head?

def atWordEnd (place : Place) : Bool :=
  isWordChar place.before && !isWordChar place.rest.head?

end Place

/-- Goes on with a step as often as it makes progress, the longest ways first. -/
def iterate (step : Place → List Place) (least : Nat) (greatest : Option Nat) :
    Nat → Nat → Place → List Place
  | 0, _, place => [place]
  | fuel + 1, count, place =>
      let further :=
        if greatest.any (· ≤ count) then []
        else
          (step place).flatMap (fun next =>
            if next.rest.length < place.rest.length || count < least then
              iterate step least greatest fuel (count + 1) next
            else [])
      if count < least then further else further ++ [place]

def passOver : List Char → Place → Option Place
  | [], place => some place
  | c :: rest, place =>
      match place.advance with
      | some (d, next) => if c = d then passOver rest next else none
      | none => none

/-- All places to which an expression leads. -/
def ways (folded : Bool) : Regex → Place → List Place
  | .empty, place => [place]
  | .char c, place =>
      match place.advance with
      | some (d, next) =>
          if c = d || (folded && c.toLower = d.toLower) then [next] else []
      | none => []
  | .any, place => (place.advance.map Prod.snd).toList
  | .set negated parts, place =>
      match place.advance with
      | some (c, next) =>
          let holds := parts.any (SetPart.holds c) ||
            (folded && (parts.any (SetPart.holds c.toLower) || parts.any (SetPart.holds c.toUpper)))
          if holds != negated then [next] else []
      | none => []
  | .lineStart, place => if place.before.isNone then [place] else []
  | .lineEnd, place => if place.rest.isEmpty then [place] else []
  | .wordEdge starts ends, place =>
      if (starts && place.atWordStart) || (ends && place.atWordEnd) then [place] else []
  | .notWordEdge, place => if place.atWordStart || place.atWordEnd then [] else [place]
  | .group number body, place =>
      (ways folded body { place with taken := [] }).map (fun next =>
        { next with
          taken := next.taken ++ place.taken
          groups := (number, next.taken.reverse) :: next.groups })
  | .back number, place =>
      match place.groups.lookup number with
      | some chars => (passOver chars place).toList
      | none => []
  | .seq first second, place => (ways folded first place).flatMap (ways folded second)
  | .either first second, place => ways folded first place ++ ways folded second place
  | .repeated least greatest body, place =>
      iterate (ways folded body) least greatest (place.rest.length + least + 1) 0 place

/-- What has been found: the text before, the matching text, the text behind, and what groups have
matched. -/
structure Found where
  before : List Char
  text : List Char
  after : List Char
  groups : List (Nat × List Char)

def longestFrom (regex : Regex) (folded : Bool) (place : Place) : Option Place :=
  (regex.ways folded place).foldl
    (fun best next =>
      match best with
      | some kept => if next.rest.length < kept.rest.length then some next else best
      | none => some next)
    none

def findFrom (regex : Regex) (folded : Bool) (previous : Option Char) :
    List Char → List Char → Option Found
  | skipped, rest =>
      match regex.longestFrom folded { before := previous, rest := rest } with
      | some place => some ⟨skipped.reverse, place.taken.reverse, place.rest, place.groups⟩
      | none =>
          match rest with
          | [] => none
          | c :: more => findFrom regex folded (some c) (c :: skipped) more
  termination_by _ rest => rest.length

def find? (regex : Regex) (folded : Bool) (text : String) : Option Found :=
  regex.findFrom folded none [] text.toList

end Regex

end AssociationCheck.Shell
