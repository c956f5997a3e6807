/-
How a text splits into tokens.

A text splits into names that are as long as possible, single marks, and blanks around them. Cutting
a text finds its tokens exactly when there is such a split, which is then the only one.
-/

import AssociationCheck.TypeExpr.Token
import Mathlib.Data.List.Basic
import Mathlib.Data.String.Basic

namespace AssociationCheck

theorem Mark.char_of_ofChar? {c : Char} {mark : Mark} (isMark : ofChar? c = some mark) :
    mark.char = c := by
  unfold ofChar? at isMark
  split at isMark <;> cases isMark <;> rfl

namespace Token

/-- The characters are these tokens, with blanks anywhere between them. -/
inductive Splits : List Char → List Token → Prop
  | nil : Splits [] []
  | blank {c : Char} {rest : List Char} {tokens : List Token} (isBlank : Text.isBlank c = true)
      (following : Splits rest tokens) : Splits (c :: rest) tokens
  | mark (mark : Mark) {rest : List Char} {tokens : List Token}
      (following : Splits rest tokens) : Splits (mark.char :: rest) (.mark mark :: tokens)
  /-- A name ends where a character follows that belongs to no name. -/
  | name {run rest : List Char} {tokens : List Token} (nonempty : run ≠ [])
      (all : ∀ c ∈ run, isNameChar c = true)
      (longest : ∀ c, rest.head? = some c → isNameChar c = false)
      (following : Splits rest tokens) :
      Splits (run ++ rest) (.name (String.ofList run) :: tokens)

/-! ### Kinds of characters -/

theorem not_isNameChar_of_isBlank {c : Char} (isBlank : Text.isBlank c = true) :
    isNameChar c = false := by
  let codes := List.range' 9 5 ++ List.range' 0x2000 11 ++
    [0x20, 0x85, 0xA0, 0x1680, 0x2028, 0x2029, 0x202F, 0x205F, 0x3000]
  have apart : ∀ code ∈ codes, isNameChar (Char.ofNat code) = false := by decide +kernel
  have listed : c.toNat ∈ codes := by
    simp only [Text.isBlank, Bool.or_eq_true, Bool.and_eq_true, decide_eq_true_eq] at isBlank
    simp only [codes, List.mem_append, List.mem_range'_1, List.mem_cons, List.not_mem_nil]
    omega
  simpa using apart c.toNat listed

theorem not_isNameChar_char (mark : Mark) : isNameChar mark.char = false := by
  cases mark <;> decide

theorem not_isBlank_char (mark : Mark) : Text.isBlank mark.char = false := by
  cases mark <;> decide

theorem Splits.cases_of_mem {chars : List Char} {tokens : List Token}
    (splits : Splits chars tokens) {c : Char} (present : c ∈ chars) :
    Text.isBlank c = true ∨ isNameChar c = true ∨ ∃ mark : Mark, mark.char = c := by
  induction splits with
  | nil => cases present
  | blank isBlank _ ih =>
      rcases List.mem_cons.mp present with rfl | later
      · exact .inl isBlank
      · exact ih later
  | mark mark _ ih =>
      rcases List.mem_cons.mp present with rfl | later
      · exact .inr (.inr ⟨mark, rfl⟩)
      · exact ih later
  | name _ all _ _ ih =>
      rcases List.mem_append.mp present with inName | later
      · exact .inr (.inl (all c inName))
      · exact ih later

def IsStray (c : Char) : Prop :=
  Text.isBlank c = false ∧ isNameChar c = false ∧ ∀ mark : Mark, mark.char ≠ c

theorem Splits.not_isStray {chars : List Char} {tokens : List Token}
    (splits : Splits chars tokens) {c : Char} (present : c ∈ chars) : ¬ IsStray c := by
  rintro ⟨notBlank, notName, notMark⟩
  rcases splits.cases_of_mem present with isBlank | isName | ⟨mark, isMark⟩
  · rw [notBlank] at isBlank
    cases isBlank
  · rw [notName] at isName
    cases isName
  · exact notMark mark isMark

end Token

namespace PlacedToken

open Token

variable {offset : Nat} {current : OpenName} {chars rest : List Char} {placed : List PlacedToken}

/-! ### Names that are being read -/

def OpenName.run : OpenName → List Char
  | none => []
  | some (_, reversed) => reversed.reverse

/-- A name that is being read has at least one character, and name characters only. -/
def OpenName.Proper : OpenName → Prop
  | none => True
  | some (_, reversed) => reversed ≠ [] ∧ ∀ c ∈ reversed, isNameChar c = true

theorem OpenName.run_extend (current : OpenName) (offset : Nat) (c : Char) :
    (current.extend offset c).run = current.run ++ [c] := by
  cases current with
  | none => rfl
  | some opened => exact List.reverse_cons

theorem OpenName.Proper.extend (proper : current.Proper) {c : Char} (isName : isNameChar c = true) :
    (current.extend offset c).Proper := by
  cases current with
  | none => exact ⟨List.cons_ne_nil _ _, by simpa using isName⟩
  | some opened => exact ⟨List.cons_ne_nil _ _, by simpa [isName] using proper.2⟩

theorem OpenName.Proper.splits_close (proper : current.Proper)
    (longest : ∀ c, rest.head? = some c → isNameChar c = false)
    (following : Splits rest (placed.map token)) :
    Splits (current.run ++ rest) ((current.close placed).map token) := by
  cases current with
  | none => exact following
  | some opened =>
      refine .name ?_ (fun c present => proper.2 c (List.mem_reverse.mp present)) longest following
      exact fun empty => proper.1 (List.reverse_eq_nil_iff.mp empty)

/-! ### One character -/

theorem ofChars_name {c : Char} (isName : isNameChar c = true) (rest : List Char) :
    ofChars offset current (c :: rest) =
      ofChars (offset + c.utf8Size) (current.extend offset c) rest := by
  rw [ofChars, if_pos isName]

theorem ofChars_blank {c : Char} (isBlank : Text.isBlank c = true) (rest : List Char) :
    ofChars offset current (c :: rest) =
      (ofChars (offset + c.utf8Size) none rest).map current.close := by
  rw [ofChars, if_neg (by rw [not_isNameChar_of_isBlank isBlank]; exact Bool.false_ne_true),
    if_pos isBlank]

theorem ofChars_mark (mark : Mark) (rest : List Char) :
    ofChars offset current (mark.char :: rest) =
      (ofChars (offset + mark.char.utf8Size) none rest).map
        (fun following => current.close (⟨offset, .mark mark⟩ :: following)) := by
  rw [ofChars, if_neg (by rw [not_isNameChar_char]; exact Bool.false_ne_true),
    if_neg (by rw [not_isBlank_char]; exact Bool.false_ne_true), Mark.ofChar?_char]

theorem ofChars_stray {c : Char} (notName : isNameChar c = false)
    (notBlank : Text.isBlank c = false) (notMark : ∀ mark : Mark, mark.char ≠ c)
    (rest : List Char) : ofChars offset current (c :: rest) = .error ⟨offset, c⟩ := by
  have unmarked : Mark.ofChar? c = none := by
    cases isMark : Mark.ofChar? c with
    | none => rfl
    | some mark => exact absurd (Mark.char_of_ofChar? isMark) (notMark mark)
  rw [ofChars, if_neg (by rw [notName]; exact Bool.false_ne_true),
    if_neg (by rw [notBlank]; exact Bool.false_ne_true), unmarked]

/-! ### Cutting finds a split -/

theorem exists_of_map_ok {α β ε : Type} {found : Except ε α} {change : α → β} {value : β}
    (isOk : found.map change = .ok value) :
    ∃ before, found = .ok before ∧ change before = value := by
  cases found with
  | ok before => exact ⟨before, rfl, Except.ok.inj isOk⟩
  | error problem => cases isOk

theorem error_of_map_error {α β ε : Type} {found : Except ε α} {change : α → β} {problem : ε}
    (isError : found.map change = .error problem) : found = .error problem := by
  cases found with
  | ok before => cases isError
  | error other => exact congrArg Except.error (Except.error.inj isError)

theorem splits_of_ofChars (proper : current.Proper)
    (found : ofChars offset current chars = .ok placed) :
    Splits (current.run ++ chars) (placed.map token) := by
  induction chars generalizing offset current placed with
  | nil =>
      cases found
      exact proper.splits_close (fun _ impossible => by cases impossible) .nil
  | cons c rest ih =>
      by_cases isName : isNameChar c = true
      · rw [ofChars_name isName] at found
        have grown := ih (proper.extend isName) found
        rwa [OpenName.run_extend, List.append_assoc, List.singleton_append] at grown
      · have unopened : OpenName.Proper none := trivial
        have longest : ∀ other, (c :: rest).head? = some other → isNameChar other = false := by
          intro other isHead
          exact Option.some.inj isHead ▸ Bool.of_not_eq_true isName
        by_cases isBlank : Text.isBlank c = true
        · rw [ofChars_blank isBlank] at found
          obtain ⟨following, cut, rfl⟩ := exists_of_map_ok found
          exact proper.splits_close longest (.blank isBlank (ih unopened cut))
        · by_cases isMark : ∃ mark : Mark, mark.char = c
          · obtain ⟨mark, rfl⟩ := isMark
            rw [ofChars_mark] at found
            obtain ⟨following, cut, rfl⟩ := exists_of_map_ok found
            exact proper.splits_close longest (.mark mark (ih unopened cut))
          · rw [ofChars_stray (Bool.of_not_eq_true isName)
              (Bool.of_not_eq_true isBlank) (not_exists.mp isMark)] at found
            cases found

/-! ### A split is found -/

theorem ofChars_close (current : OpenName)
    (longest : ∀ c, rest.head? = some c → isNameChar c = false) :
    ofChars offset current rest = (ofChars offset none rest).map current.close := by
  cases rest with
  | nil => rfl
  | cons c rest =>
      have notName : isNameChar c = false := longest c rfl
      by_cases isBlank : Text.isBlank c = true
      · rw [ofChars_blank isBlank, ofChars_blank isBlank]
        cases ofChars (offset + c.utf8Size) none rest <;> rfl
      · by_cases isMark : ∃ mark : Mark, mark.char = c
        · obtain ⟨mark, rfl⟩ := isMark
          rw [ofChars_mark, ofChars_mark]
          cases ofChars (offset + mark.char.utf8Size) none rest <;> rfl
        · rw [ofChars_stray notName (Bool.of_not_eq_true isBlank) (not_exists.mp isMark),
            ofChars_stray notName (Bool.of_not_eq_true isBlank) (not_exists.mp isMark)]
          rfl

theorem ofChars_run {run : List Char} (all : ∀ c ∈ run, isNameChar c = true)
    (rest : List Char) (offset start : Nat) (reversed : List Char) :
    ofChars offset (some (start, reversed)) (run ++ rest) =
      ofChars (offset + String.utf8Len run) (some (start, run.reverse ++ reversed)) rest := by
  induction run generalizing offset reversed with
  | nil => rfl
  | cons c others ih =>
      have grown := ih (fun other present => all other (List.mem_cons_of_mem c present))
        (offset + c.utf8Size) (c :: reversed)
      have later : offset + String.utf8Len (c :: others) =
          offset + c.utf8Size + String.utf8Len others := by
        rw [String.utf8Len_cons]
        omega
      rw [List.cons_append, ofChars_name (all c List.mem_cons_self), List.reverse_cons,
        List.append_assoc, later]
      exact grown

theorem ofChars_first {run : List Char} (nonempty : run ≠ [])
    (all : ∀ c ∈ run, isNameChar c = true)
    (longest : ∀ c, rest.head? = some c → isNameChar c = false) (offset : Nat) :
    ofChars offset none (run ++ rest) =
      (ofChars (offset + String.utf8Len run) none rest).map
        (⟨offset, .name (String.ofList run)⟩ :: ·) := by
  obtain ⟨c, others, rfl⟩ := List.exists_cons_of_ne_nil nonempty
  have opened : ofChars offset none (c :: others ++ rest) =
      ofChars offset (some (offset, [])) (c :: others ++ rest) := by
    rw [List.cons_append, ofChars_name (all c List.mem_cons_self),
      ofChars_name (all c List.mem_cons_self)]
    rfl
  rw [opened, ofChars_run all, ofChars_close _ longest]
  simp [OpenName.close]

theorem ofChars_of_splits {tokens : List Token} (splits : Splits chars tokens) (offset : Nat) :
    ∃ placed, ofChars offset none chars = .ok placed ∧ placed.map token = tokens := by
  induction splits generalizing offset with
  | nil => exact ⟨[], rfl, rfl⟩
  | @blank c rest tokens isBlank _ ih =>
      obtain ⟨placed, cut, same⟩ := ih (offset + c.utf8Size)
      exact ⟨placed, by rw [ofChars_blank isBlank, cut]; rfl, same⟩
  | @mark mark rest tokens _ ih =>
      obtain ⟨placed, cut, same⟩ := ih (offset + mark.char.utf8Size)
      exact ⟨⟨offset, .mark mark⟩ :: placed, by rw [ofChars_mark, cut]; rfl,
        congrArg (Token.mark mark :: ·) same⟩
  | @name run rest tokens nonempty all longest _ ih =>
      obtain ⟨placed, cut, same⟩ := ih (offset + String.utf8Len run)
      exact ⟨⟨offset, .name (String.ofList run)⟩ :: placed,
        by rw [ofChars_first nonempty all longest, cut]; rfl, congrArg (Token.name _ :: ·) same⟩

/-- A text splits into tokens in one way only. -/
theorem tokens_eq_of_splits {first second : List Token} (splits : Splits chars first)
    (other : Splits chars second) : first = second := by
  obtain ⟨placed, cut, rfl⟩ := ofChars_of_splits splits 0
  obtain ⟨placedOther, cutOther, rfl⟩ := ofChars_of_splits other 0
  rw [cut] at cutOther
  rw [Except.ok.inj cutOther]

/-! ### Places -/

/-- The characters in front of a token split into the tokens before it, and the others start with
it. -/
def SplitsAt (offset : Nat) (chars : List Char) (before : List PlacedToken) (placed : PlacedToken)
    (after : List PlacedToken) : Prop :=
  ∃ front rest, chars = front ++ (placed.token.text.toList ++ rest) ∧
    placed.offset = offset + String.utf8Len front ∧ Splits front (before.map token) ∧
    Splits (placed.token.text.toList ++ rest) (placed.token :: after.map token)

/-- Every token that is found stands where it says. -/
theorem splitsAt_of_splits {tokens : List Token} (splits : Splits chars tokens)
    {before after : List PlacedToken} {placed : PlacedToken}
    (cut : ofChars offset none chars = .ok (before ++ placed :: after)) :
    SplitsAt offset chars before placed after := by
  induction splits generalizing offset before with
  | nil => cases before <;> cases cut
  | @blank c rest tokens isBlank _ ih =>
      rw [ofChars_blank isBlank] at cut
      obtain ⟨_, following, rfl⟩ := exists_of_map_ok cut
      obtain ⟨front, behind, rfl, stands, splitsFront, starts⟩ := ih following
      refine ⟨c :: front, behind, rfl, ?_, .blank isBlank splitsFront, starts⟩
      rw [stands, String.utf8Len_cons]
      omega
  | @mark mark rest tokens _ ih =>
      rw [ofChars_mark] at cut
      obtain ⟨found, following, same⟩ := exists_of_map_ok cut
      cases before with
      | nil =>
          cases same
          have splits : Splits rest (after.map token) :=
            splits_of_ofChars (show OpenName.Proper none from trivial) following
          have spelled : (Token.mark mark).text.toList = [mark.char] := String.toList_singleton _
          refine ⟨[], rest, ?_, rfl, .nil, ?_⟩ <;> rw [spelled]
          · rfl
          · exact .mark mark splits
      | cons first others =>
          obtain ⟨rfl, rfl⟩ := List.cons_eq_cons.mp same
          obtain ⟨front, behind, rfl, stands, splitsFront, starts⟩ := ih following
          refine ⟨mark.char :: front, behind, rfl, ?_, .mark mark splitsFront, starts⟩
          rw [stands, String.utf8Len_cons]
          omega
  | @name run rest tokens nonempty all longest _ ih =>
      rw [ofChars_first nonempty all longest] at cut
      obtain ⟨found, following, same⟩ := exists_of_map_ok cut
      cases before with
      | nil =>
          obtain ⟨rfl, rfl⟩ := List.cons_eq_cons.mp same
          have splits : Splits rest (found.map token) :=
            splits_of_ofChars (show OpenName.Proper none from trivial) following
          have spelled : (Token.name (String.ofList run)).text.toList = run :=
            String.toList_ofList
          refine ⟨[], rest, ?_, rfl, .nil, ?_⟩ <;> rw [spelled]
          · rfl
          · exact .name nonempty all longest splits
      | cons first others =>
          obtain ⟨rfl, rfl⟩ := List.cons_eq_cons.mp same
          obtain ⟨front, behind, rfl, stands, splitsFront, starts⟩ := ih following
          have longestFront : ∀ c, front.head? = some c → isNameChar c = false := by
            intro c isFirst
            exact longest c (by rw [List.head?_append, isFirst]; rfl)
          refine ⟨run ++ front, behind, (List.append_assoc ..).symm, ?_,
            .name nonempty all longestFront splitsFront, starts⟩
          rw [stands, String.utf8Len_append]
          omega

/-- A text that cannot be cut stops at its first stray character. -/
theorem exists_stray {stray : StrayChar} (refused : ofChars offset current chars = .error stray) :
    ∃ front rest, chars = front ++ stray.char :: rest ∧
      stray.offset = offset + String.utf8Len front ∧ IsStray stray.char ∧
      ∀ c ∈ front, ¬ IsStray c := by
  induction chars generalizing offset current with
  | nil => cases refused
  | cons c rest ih =>
      -- A character that is not stray is passed over, whatever it does to the tokens.
      have pass {next : OpenName} (keeps : ¬ IsStray c)
          (refused : ofChars (offset + c.utf8Size) next rest = .error stray) :
          ∃ front rest', c :: rest = front ++ stray.char :: rest' ∧
            stray.offset = offset + String.utf8Len front ∧ IsStray stray.char ∧
            ∀ c ∈ front, ¬ IsStray c := by
        obtain ⟨front, behind, rfl, stands, isStray, others⟩ := ih refused
        refine ⟨c :: front, behind, rfl, ?_, isStray, List.forall_mem_cons.mpr ⟨keeps, others⟩⟩
        rw [stands, String.utf8Len_cons]
        omega
      by_cases isStray : IsStray c
      · obtain ⟨notBlank, notName, notMark⟩ := isStray
        rw [ofChars_stray notName notBlank notMark] at refused
        cases refused
        exact ⟨[], rest, rfl, rfl, ⟨notBlank, notName, notMark⟩, List.forall_mem_nil _⟩
      · by_cases isName : isNameChar c = true
        · rw [ofChars_name isName] at refused
          exact pass isStray refused
        · by_cases isBlank : Text.isBlank c = true
          · rw [ofChars_blank isBlank] at refused
            exact pass isStray (error_of_map_error refused)
          · have isMark : ∃ mark : Mark, mark.char = c := by
              by_contra notMark
              exact isStray ⟨Bool.of_not_eq_true isBlank, Bool.of_not_eq_true isName,
                not_exists.mp notMark⟩
            obtain ⟨mark, rfl⟩ := isMark
            rw [ofChars_mark] at refused
            exact pass isStray (error_of_map_error refused)

/-- The tokens that are found are those into which the text splits. -/
theorem ofText_eq_ok_iff (text : String) (tokens : List Token) :
    (∃ placed, ofText text = .ok placed ∧ placed.map token = tokens) ↔
      Splits text.toList tokens := by
  constructor
  · rintro ⟨placed, cut, rfl⟩
    exact splits_of_ofChars (show OpenName.Proper none from trivial) cut
  · exact fun splits => ofChars_of_splits splits 0

end PlacedToken

end AssociationCheck
