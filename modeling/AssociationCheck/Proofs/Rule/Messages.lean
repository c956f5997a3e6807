/-
The wording of diagnostics.

The places of a template are filled one after the other over the whole text, so an argument that
holds the place of a later one has it filled as well. Between the arguments stand texts without any
character of a place; no place can reach over them, and the filling goes its own way in each
argument. So an argument stands in a diagnostic as it is if it holds no place of a later one.
-/

import AssociationCheck.Proofs.Rule.Findings

namespace AssociationCheck

/-! ### Places -/

def IsPlaceChar (c : Char) : Prop := c = '\x7b' ∨ c = '\x7d' ∨ c.isDigit = true

instance (c : Char) : Decidable (IsPlaceChar c) := inferInstanceAs (Decidable (_ ∨ _ ∨ _))

theorem place_eq (number : Nat) :
    place number = '\x7b' :: ((toString number).toList ++ ['\x7d']) := rfl

theorem isDigit_of_mem_toString {number : Nat} {c : Char} (inside : c ∈ (toString number).toList) :
    c.isDigit = true := by
  rw [Nat.toString_eq_repr, Nat.toList_repr] at inside
  exact Nat.isDigit_of_mem_toDigits (by decide) (by decide) inside

theorem isPlaceChar_of_mem {number : Nat} {c : Char} (inside : c ∈ place number) :
    IsPlaceChar c := by
  rw [place_eq, List.mem_cons, List.mem_append, List.mem_singleton] at inside
  rcases inside with opening | digit | closing
  · exact .inl opening
  · exact .inr (.inr (isDigit_of_mem_toString digit))
  · exact .inr (.inl closing)

theorem place_ne_nil (number : Nat) : place number ≠ [] := List.cons_ne_nil _ _

theorem takeWhile_isDigit_place (number : Nat) (rest : List Char) :
    ((toString number).toList ++ ['\x7d'] ++ rest).takeWhile Char.isDigit =
      (toString number).toList := by
  rw [List.append_assoc, List.takeWhile_append_of_pos (fun _ => isDigit_of_mem_toString)]
  exact List.append_nil _

theorem eq_of_place_isPrefix {number other : Nat} (start : place number <+: place other) :
    number = other := by
  rw [place_eq, place_eq, List.cons_prefix_cons] at start
  obtain ⟨rest, same⟩ := start.2
  have digits := congrArg (List.takeWhile Char.isDigit) same
  rw [takeWhile_isDigit_place, ← List.append_nil (_ ++ _), takeWhile_isDigit_place,
    Nat.toString_eq_repr, Nat.toString_eq_repr, Nat.toList_repr, Nat.toList_repr] at digits
  rw [← @Nat.ofDigitChars_ten_toDigits number, digits, Nat.ofDigitChars_ten_toDigits]

/-- A place opens only at its start, so it holds no other place. -/
theorem eq_of_place_isInfix {number other : Nat} (inside : place number <:+: place other) :
    number = other := by
  rcases List.infix_cons_iff.mp inside with start | later
  · exact eq_of_place_isPrefix start
  · have opening : '\x7b' ∈ (toString other).toList ++ ['\x7d'] :=
      later.subset List.mem_cons_self
    rcases List.mem_append.mp opening with digit | closing
    · exact absurd (isDigit_of_mem_toString digit) (by decide)
    · exact absurd closing (by decide)

/-! ### One place filled -/

section Replacing

variable {pattern replacement : List Char}

theorem replaceFrom_skip (skipped rest : List Char) :
    replaceFrom pattern replacement skipped.length (skipped ++ rest) =
      replaceFrom pattern replacement 0 rest := by
  induction skipped with
  | nil => rfl
  | cons c others ih => exact ih

theorem replaceFrom_occurrence (nonempty : pattern ≠ []) (rest : List Char) :
    replaceFrom pattern replacement 0 (pattern ++ rest) =
      replacement ++ replaceFrom pattern replacement 0 rest := by
  obtain ⟨c, others, rfl⟩ := List.exists_cons_of_ne_nil nonempty
  have occurs : (c :: others).isPrefixOf (c :: (others ++ rest)) = true :=
    List.isPrefixOf_iff_prefix.mpr ⟨rest, rfl⟩
  rw [List.cons_append, replaceFrom, if_pos occurs, List.length_cons, Nat.add_sub_cancel,
    replaceFrom_skip]

theorem isPrefix_append_cons_iff {c : Char} (outside : c ∉ pattern) (before rest : List Char) :
    pattern <+: before ++ c :: rest ↔ pattern <+: before := by
  constructor
  · intro start
    rcases List.prefix_or_prefix_of_prefix start (List.prefix_append before (c :: rest)) with
      within | ⟨_ | ⟨first, others⟩, rfl⟩
    · exact within
    · exact ⟨[], by simp only [List.append_nil]⟩
    · -- An occurrence that reaches further has the character after what comes before it.
      rw [List.prefix_append_right_inj, List.cons_prefix_cons] at start
      exact absurd (by simp [start.1]) outside
  · exact fun start => start.trans (List.prefix_append before _)

/-- No occurrence reaches over a character that the pattern does not have. -/
theorem replaceFrom_append_cons {c : Char} (nonempty : pattern ≠ []) (outside : c ∉ pattern)
    {skipped : Nat} {before : List Char} (within : skipped ≤ before.length) (rest : List Char) :
    replaceFrom pattern replacement skipped (before ++ c :: rest) =
      replaceFrom pattern replacement skipped before ++
        c :: replaceFrom pattern replacement 0 rest := by
  induction before generalizing skipped with
  | nil =>
      obtain rfl : skipped = 0 := Nat.le_zero.mp within
      have absent : ¬ pattern.isPrefixOf (c :: rest) = true := by
        rw [List.isPrefixOf_iff_prefix]
        exact fun start => nonempty (List.prefix_nil.mp
          ((isPrefix_append_cons_iff outside [] rest).mp start))
      rw [List.nil_append, replaceFrom, replaceFrom, if_neg absent, List.nil_append]
  | cons first others ih =>
      cases skipped with
      | succ skipped => exact ih (Nat.le_of_succ_le_succ within)
      | zero =>
          have same : pattern.isPrefixOf (first :: (others ++ c :: rest)) =
              pattern.isPrefixOf (first :: others) := by
            rw [Bool.eq_iff_iff, List.isPrefixOf_iff_prefix, List.isPrefixOf_iff_prefix]
            exact isPrefix_append_cons_iff outside (first :: others) rest
          rw [List.cons_append, replaceFrom, replaceFrom, same]
          split
          · rename_i occurs
            have fits := (List.isPrefixOf_iff_prefix.mp occurs).length_le
            rw [List.length_cons] at fits
            rw [ih (by omega), List.append_assoc]
          · rw [ih (Nat.zero_le _), List.cons_append]

theorem replaceFrom_of_not_infix {text : List Char} (absent : ¬ pattern <:+: text) :
    replaceFrom pattern replacement 0 text = text := by
  induction text with
  | nil => rfl
  | cons c rest ih =>
      have notHere : ¬ pattern.isPrefixOf (c :: rest) = true := by
        rw [List.isPrefixOf_iff_prefix]
        exact fun start => absent start.isInfix
      rw [replaceFrom, if_neg notHere, ih (fun later => absent (List.infix_cons later))]

end Replacing

theorem replaceFrom_place_append_cons {c : Char} (plain : ¬ IsPlaceChar c) (number : Nat)
    (replacement before rest : List Char) :
    replaceFrom (place number) replacement 0 (before ++ c :: rest) =
      replaceFrom (place number) replacement 0 before ++
        c :: replaceFrom (place number) replacement 0 rest :=
  replaceFrom_append_cons (place_ne_nil number) (fun inside => plain (isPlaceChar_of_mem inside))
    (Nat.zero_le _) rest

theorem replaceFrom_place_append {plain : List Char} (isPlain : ∀ c ∈ plain, ¬ IsPlaceChar c)
    (number : Nat) (replacement rest : List Char) :
    replaceFrom (place number) replacement 0 (plain ++ rest) =
      plain ++ replaceFrom (place number) replacement 0 rest := by
  induction plain with
  | nil => rfl
  | cons c others ih =>
      have step := replaceFrom_place_append_cons (isPlain c List.mem_cons_self) number replacement
        [] (others ++ rest)
      rw [List.cons_append, List.cons_append,
        ← ih (fun other inside => isPlain other (List.mem_cons_of_mem c inside))]
      exact step

/-! ### Places filled one after the other -/

section Filling

variable {c : Char} {plain : List Char}

theorem fillFrom_append_cons (isPlain : ¬ IsPlaceChar c) (number : Nat) (before rest : List Char)
    (arguments : List String) :
    fillFrom number (before ++ c :: rest) arguments =
      fillFrom number before arguments ++ c :: fillFrom number rest arguments := by
  induction arguments generalizing number before rest with
  | nil => rfl
  | cons argument others ih =>
      rw [fillFrom, fillFrom, fillFrom, replaceFrom_place_append_cons isPlain, ih]

theorem fillFrom_append (isPlain : ∀ c ∈ plain, ¬ IsPlaceChar c) (number : Nat)
    (rest : List Char) (arguments : List String) :
    fillFrom number (plain ++ rest) arguments = plain ++ fillFrom number rest arguments := by
  induction arguments generalizing number rest with
  | nil => rfl
  | cons argument others ih => rw [fillFrom, fillFrom, replaceFrom_place_append isPlain, ih]

theorem fillFrom_of_not_infix {number : Nat} {text : List Char} {arguments : List String}
    (absent : ∀ later, number ≤ later → later < number + arguments.length →
      ¬ place later <:+: text) :
    fillFrom number text arguments = text := by
  induction arguments generalizing number with
  | nil => rfl
  | cons argument others ih =>
      rw [List.length_cons] at absent
      rw [fillFrom, replaceFrom_of_not_infix (absent number (Nat.le_refl _) (by omega))]
      exact ih (fun later above below => absent later (by omega) (by omega))

end Filling

/-! ### Templates -/

/-- A text with the places from a number on filled wherever it holds them. -/
def refilled (number : Nat) (text : String) (arguments : List String) : String :=
  String.ofList (fillFrom number text.toList arguments)

/-- Places from a number on, each before one of some texts. -/
def templateFrom : Nat → List String → String
  | _, [] => ""
  | number, literal :: others =>
      String.ofList (place number) ++ literal ++ templateFrom (number + 1) others

/-- Arguments before texts; in each argument the places of those after it are filled. -/
def filledFrom : Nat → List (String × String) → String
  | _, [] => ""
  | number, (argument, literal) :: others =>
      refilled (number + 1) argument (others.map Prod.fst) ++ literal ++
        filledFrom (number + 1) others

def Separates (literal : String) : Prop :=
  literal ≠ "" ∧ ∀ c ∈ literal.toList, ¬ IsPlaceChar c

-- The characters of the text are gone through, not all the characters there are.
instance (literal : String) : Decidable (Separates literal) :=
  @instDecidableAnd _ _ inferInstance (List.decidableBAll _ _)

theorem Separates.exists_cons {literal : String} (separates : Separates literal) :
    ∃ c others, literal.toList = c :: others ∧ ¬ IsPlaceChar c ∧
      ∀ other ∈ others, ¬ IsPlaceChar other := by
  have nonempty : literal.toList ≠ [] := fun isEmpty =>
    separates.1 (String.toList_inj.mp isEmpty)
  obtain ⟨c, others, split⟩ := List.exists_cons_of_ne_nil nonempty
  have plain := separates.2
  rw [split] at plain
  exact ⟨c, others, split, List.forall_mem_cons.mp plain⟩

theorem replaceFrom_templateFrom {number : Nat} (replacement : List Char) {literals : List String}
    (separate : ∀ literal ∈ literals, Separates literal) {start : Nat} (later : number < start) :
    replaceFrom (place number) replacement 0 (templateFrom start literals).toList =
      (templateFrom start literals).toList := by
  induction literals generalizing start with
  | nil => rfl
  | cons literal others ih =>
      have separates := separate literal List.mem_cons_self
      obtain ⟨c, rest, split, cPlain, restPlain⟩ := separates.exists_cons
      have otherPlace : replaceFrom (place number) replacement 0 (place start) = place start :=
        replaceFrom_of_not_infix (fun inside => Nat.ne_of_lt later (eq_of_place_isInfix inside))
      have laterPlaces := ih
        (fun other inside => separate other (List.mem_cons_of_mem literal inside))
        (Nat.lt_succ_of_lt later)
      simp only [templateFrom, String.toList_append, String.toList_ofList, split,
        List.append_assoc, List.cons_append]
      rw [replaceFrom_place_append_cons cPlain, otherPlace, replaceFrom_place_append restPlain,
        laterPlaces]

theorem refilled_append {plain : String} (isPlain : ∀ c ∈ plain.toList, ¬ IsPlaceChar c)
    (number : Nat) (text : String) (arguments : List String) :
    refilled number (plain ++ text) arguments = plain ++ refilled number text arguments := by
  apply String.toList_inj.mp
  simp only [refilled, String.toList_append, String.toList_ofList, fillFrom_append isPlain]

/-- The arguments of a template are filled each on its own. -/
theorem refilled_templateFrom {pieces : List (String × String)}
    (separate : ∀ piece ∈ pieces, Separates piece.2) (number : Nat) :
    refilled number (templateFrom number (pieces.map Prod.snd)) (pieces.map Prod.fst) =
      filledFrom number pieces := by
  induction pieces generalizing number with
  | nil => rfl
  | cons piece others ih =>
      obtain ⟨argument, literal⟩ := piece
      have separates : Separates literal := separate _ List.mem_cons_self
      have separateOthers : ∀ piece ∈ others, Separates piece.2 :=
        fun piece inside => separate piece (List.mem_cons_of_mem _ inside)
      have untouched := replaceFrom_templateFrom argument.toList
        (List.forall_mem_map.mpr separateOthers) (Nat.lt_succ_self number)
      have filled := congrArg String.toList (ih separateOthers (number + 1))
      rw [refilled, String.toList_ofList] at filled
      obtain ⟨c, rest, split, cPlain, restPlain⟩ := separates.exists_cons
      apply String.toList_inj.mp
      simp only [List.map_cons, templateFrom, filledFrom, refilled, String.toList_append,
        String.toList_ofList, List.append_assoc, fillFrom]
      rw [replaceFrom_occurrence (place_ne_nil number), replaceFrom_place_append separates.2,
        untouched, split, List.cons_append, fillFrom_append_cons cPlain,
        fillFrom_append restPlain, filled, List.cons_append]

def FreeOf (numbers : List Nat) (text : String) : Prop :=
  ∀ number ∈ numbers, ¬ place number <:+: text.toList

theorem refilled_eq_self {number : Nat} {text : String} {arguments : List String}
    (free : FreeOf (List.range' number arguments.length) text) :
    refilled number text arguments = text := by
  rw [refilled, fillFrom_of_not_infix, String.ofList_toList]
  intro later above below
  exact free later (List.mem_range'_1.mpr ⟨above, below⟩)

/-! ### Mismatches -/

def mismatch (container expecter entity property contained expects : String) : String :=
  "Property " ++ entity ++ "::$" ++ property ++ " type mapping mismatch: " ++ container ++
    " can contain " ++ contained ++ " but " ++ expecter ++ " expects " ++ expects ++ "."

def filledMismatch (container expecter entity property contained expects : String) : String :=
  mismatch container expecter (refilled 1 entity [property, contained, expects])
    (refilled 2 property [contained, expects]) (refilled 3 contained [expects]) expects

theorem isPrefix_mismatch (container expecter entity property contained expects : String) :
    ("Property " ++ entity).toList <+:
      (mismatch container expecter entity property contained expects).toList := by
  unfold mismatch
  simp only [String.toList_append, List.append_assoc, List.prefix_append_right_inj,
    List.prefix_append]

def mismatchLiterals (container expecter : String) : List String :=
  ["::$", " type mapping mismatch: " ++ container ++ " can contain ",
    " but " ++ expecter ++ " expects ", "."]

theorem fillTemplate_mismatch {container expecter : String}
    (separate : ∀ literal ∈ mismatchLiterals container expecter, Separates literal)
    (entity property contained expects : String) :
    fillTemplate ("Property " ++ templateFrom 0 (mismatchLiterals container expecter))
        [entity, property, contained, expects] =
      filledMismatch container expecter entity property contained expects := by
  have separatePieces : ∀ piece ∈
      [entity, property, contained, expects].zip (mismatchLiterals container expecter),
      Separates piece.2 :=
    fun piece inside => separate piece.2 (List.of_mem_zip inside).2
  have filled := refilled_templateFrom separatePieces 0
  simp only [mismatchLiterals, List.zip_cons_cons, List.zip_nil_left, List.map_cons,
    List.map_nil] at filled
  have opening : Separates "Property " := by decide
  have lastArgument : refilled 4 expects [] = expects := String.ofList_toList
  refine (refilled_append opening.2 0 _ _).trans ?_
  rw [mismatchLiterals, filled]
  unfold filledMismatch mismatch
  simp only [filledFrom, List.map_cons, List.map_nil, Nat.zero_add, Nat.reduceAdd, lastArgument,
    String.append_assoc, String.append_empty]

section Kinds

variable (entity : EntityClass) (property : DeclaredProperty) (contained expects : String)

theorem text_databaseCanContain :
    (DiagnosticKind.databaseCanContain.about entity property contained expects).text =
      filledMismatch "database" "property" entity.name property.name contained expects := by
  have template : DiagnosticKind.databaseCanContain.template =
      "Property " ++ templateFrom 0 (mismatchLiterals "database" "property") := by decide
  rw [← fillTemplate_mismatch (by decide), ← template]
  rfl

theorem text_propertyCanContain :
    (DiagnosticKind.propertyCanContain.about entity property contained expects).text =
      filledMismatch "property" "database" entity.name property.name contained expects := by
  have template : DiagnosticKind.propertyCanContain.template =
      "Property " ++ templateFrom 0 (mismatchLiterals "property" "database") := by decide
  rw [← fillTemplate_mismatch (by decide), ← template]
  rfl

end Kinds

/-! ### Diagnostics of a class -/

section Classes

variable (hierarchy : Hierarchy) (options : CheckOptions) (entity : EntityClass)

theorem mem_checkProperties (metadata : ClassMetadata) {properties : List DeclaredProperty}
    {store : TypeStore} {diagnostic : Diagnostic}
    (present : diagnostic ∈
      ((checkProperties hierarchy options metadata entity properties).run store).1) :
    ∃ before property after, properties = before ++ property :: after ∧
      diagnostic ∈ ((checkMapped hierarchy options metadata entity property).run
        ((checkProperties hierarchy options metadata entity before).run store).2).1 := by
  induction properties generalizing store with
  | nil => cases present
  | cons first others ih =>
      rw [checkProperties_cons] at present
      rcases List.mem_append.mp present with here | later
      · exact ⟨[], first, others, rfl, here⟩
      · obtain ⟨before, property, after, rfl, found⟩ := ih later
        refine ⟨first :: before, property, after, rfl, ?_⟩
        rw [checkProperties_cons]
        exact found

theorem mem_findings {property : DeclaredProperty} {fromDatabase fromProperty : Bool}
    {expected declared : String} {diagnostic : Diagnostic}
    (present : diagnostic ∈ findings entity property fromDatabase fromProperty expected declared) :
    diagnostic = DiagnosticKind.databaseCanContain.about entity property expected declared ∨
      diagnostic = DiagnosticKind.propertyCanContain.about entity property declared expected := by
  rcases List.mem_append.mp present with database | inverse
  · split at database
    · cases database
    · exact .inl (List.mem_singleton.mp database)
  · split at inverse
    · cases inverse
    · exact .inr (List.mem_singleton.mp inverse)

theorem mem_checkProperty {property : DeclaredProperty} {written : TypeId}
    {association : Association} {store : TypeStore} {diagnostic : Diagnostic}
    (present : diagnostic ∈
      ((checkProperty hierarchy options entity property written association).run store).1) :
    let last :=
      ((checkProperty hierarchy options entity property written association).run store).2
    let expected := last.text ((expectedType options association).run store).1
    let declared := last.text written
    diagnostic = DiagnosticKind.databaseCanContain.about entity property expected declared ∨
      diagnostic = DiagnosticKind.propertyCanContain.about entity property declared expected := by
  dsimp only
  rw [checkProperty_run] at present ⊢
  exact mem_findings entity present

/-- Every diagnostic of a class is about a property with a declared type and an association. It says
which of the expected type and the type as declared can contain what the other does not expect, each
as it is printed after the check of that property. Into the name of the class, the name of the
property and the first type the later arguments are filled where they hold their places; a text that
holds none stands unchanged. -/
theorem text_of_mem_checkClass (metadata : Option ClassMetadata) (store : TypeStore) :
    (∀ diagnostic ∈ ((checkClass hierarchy options metadata entity).run store).1,
      ∃ known before property after written association,
        metadata = some known ∧ entity.properties = before ++ property :: after ∧
        property.declaredType = some written ∧
        known.association? property.name = some association ∧
        let start := ((checkProperties hierarchy options known entity before).run store).2
        let last :=
          ((checkProperty hierarchy options entity property written association).run start).2
        let expected := last.text ((expectedType options association).run start).1
        let declared := last.text written
        (diagnostic.code = DiagnosticKind.databaseCanContain.code ∧
          diagnostic.text =
            filledMismatch "database" "property" entity.name property.name expected declared) ∨
        (diagnostic.code = DiagnosticKind.propertyCanContain.code ∧
          diagnostic.text =
            filledMismatch "property" "database" entity.name property.name declared expected)) ∧
    ∀ container expecter name field contained expects,
      FreeOf [1, 2, 3] name → FreeOf [2, 3] field → FreeOf [3] contained →
        filledMismatch container expecter name field contained expects =
          mismatch container expecter name field contained expects := by
  constructor
  · intro diagnostic present
    cases metadata with
    | none => cases present
    | some known =>
        obtain ⟨before, property, after, listed, found⟩ :=
          mem_checkProperties hierarchy options entity known present
        unfold checkMapped at found
        split at found
        next written association typed mapped =>
          refine ⟨known, before, property, after, written, association, rfl, listed, typed, mapped,
            ?_⟩
          rcases mem_checkProperty hierarchy options entity found with rfl | rfl
          · exact .inl ⟨rfl, text_databaseCanContain entity property _ _⟩
          · exact .inr ⟨rfl, text_propertyCanContain entity property _ _⟩
        next => cases found
  · intro container expecter name field contained expects nameFree fieldFree containedFree
    have nameKept : refilled 1 name [field, contained, expects] = name :=
      refilled_eq_self nameFree
    have fieldKept : refilled 2 field [contained, expects] = field := refilled_eq_self fieldFree
    have containedKept : refilled 3 contained [expects] = contained :=
      refilled_eq_self containedFree
    unfold filledMismatch
    rw [nameKept, fieldKept, containedKept]

end Classes

def orderMetadata (name : String) : ClassMetadata where
  name
  identifier := ["id"]
  associations := [("customer",
    { fieldName := "customer", kind := .manyToOne, targetEntity := "App\\Customer" })]

def orderClass (name : String) : EntityClass :=
  ⟨name, "Order.php", [⟨"customer", some ⟨7⟩, 7⟩]⟩

/-- The shape `App\Customer`, numbered 7. -/
def customerStore : TypeStore := ⟨TypeStore.initial.shapes.push (.object "App\\Customer" [])⟩

/-- A name that holds its own place and none of a later argument. -/
def orderName : String := "App\\Order\x7b0\x7d"

/-- The name of the class holds no place of a later argument, so it stands as it is. -/
theorem text_of_mem_checkClass_order :
    let found := ((checkClass .empty {} (some (orderMetadata orderName))
      (orderClass orderName)).run customerStore).1
    FreeOf [1, 2, 3] orderName ∧ FreeOf [2, 3] "customer" ∧ FreeOf [3] "App\\Customer|null" ∧
      found.length = 1 ∧ ∀ diagnostic ∈ found, diagnostic.text =
        mismatch "database" "property" orderName "customer" "App\\Customer|null"
          "App\\Customer" := by
  intro found
  have free : FreeOf [1, 2, 3] orderName ∧ FreeOf [2, 3] "customer" ∧
      FreeOf [3] "App\\Customer|null" := by
    unfold FreeOf
    decide +kernel
  have codes : found.map Diagnostic.code = [DiagnosticKind.databaseCanContain.code] := by
    decide +kernel
  obtain ⟨texts, verbatim⟩ := text_of_mem_checkClass .empty {} (orderClass orderName)
    (some (orderMetadata orderName)) customerStore
  refine ⟨free.1, free.2.1, free.2.2, ?_, fun diagnostic present => ?_⟩
  · rw [← List.length_map, codes, List.length_singleton]
  have code : diagnostic.code = DiagnosticKind.databaseCanContain.code :=
    List.mem_singleton.mp (codes ▸ List.mem_map_of_mem present)
  obtain ⟨known, before, property, after, written, association, isKnown, listed, typed, mapped,
    said⟩ := texts diagnostic present
  cases isKnown
  obtain ⟨rfl, same⟩ | ⟨_, nothing⟩ := List.singleton_eq_append_iff.mp listed
  · obtain ⟨rfl, rfl⟩ := List.cons.inj same
    cases typed
    cases mapped
    rcases said with ⟨_, text⟩ | ⟨otherCode, _⟩
    · rw [text, ← verbatim _ _ _ _ _ _ free.1 free.2.1 free.2.2]
      congr 1
      · decide +kernel
      · decide +kernel
    · exact absurd (code.symm.trans otherCode) (by decide)
  · cases nothing

/-- The name of the property is filled into that of a class that holds the place of the second
argument. -/
theorem not_text_of_mem_checkClass :
    ¬ ∀ (hierarchy : Hierarchy) (options : CheckOptions) (metadata : Option ClassMetadata)
      (entity : EntityClass) (store : TypeStore),
      ∀ diagnostic ∈ ((checkClass hierarchy options metadata entity).run store).1,
        ∃ property ∈ entity.properties, ∃ expected declared,
          diagnostic.text =
            mismatch "database" "property" entity.name property.name expected declared ∨
          diagnostic.text =
            mismatch "property" "database" entity.name property.name declared expected := by
  intro always
  let name := "App\\Order\x7b1\x7d"
  let found :=
    ((checkClass .empty {} (some (orderMetadata name)) (orderClass name)).run customerStore).1
  have texts : found.map Diagnostic.text =
      ["Property App\\Ordercustomer::$customer type mapping mismatch: " ++
        "database can contain App\\Customer|null but property expects App\\Customer."] := by
    decide +kernel
  obtain ⟨diagnostic, single, text⟩ := List.map_eq_singleton_iff.mp texts
  have present : diagnostic ∈ found := single ▸ List.mem_singleton_self diagnostic
  obtain ⟨property, _, expected, declared, said⟩ := always .empty {} (some (orderMetadata name))
    (orderClass name) customerStore diagnostic present
  have named : ("Property " ++ name).toList <+: diagnostic.text.toList := by
    rcases said with said | said <;> rw [said] <;> exact isPrefix_mismatch _ _ _ _ _ _
  rw [text] at named
  revert named
  decide +kernel

end AssociationCheck
