/-
Reading words.

A word goes on until a character that ends words. Quotes, backslashes and dollar signs in it are
read by rules that depend on what surrounds them: nothing, double quotes, the braces of a
parameter, lines of the script, or arithmetic. What can contain commands is read by an inner
grammar, one level deeper.
-/

import AssociationCheck.Shell.Formatted
import AssociationCheck.Shell.Token

namespace AssociationCheck.Shell

/-- What surrounds pieces of a word, and with that where they end. -/
inductive Surrounding
  | quotes
  | brace
  | quotedBrace
  /-- A pattern in braces that a slash ends too. -/
  | replaced
  /-- A number in braces that a colon ends too. -/
  | sliced
  | lines
  | arithmetic
  /-- Between square brackets. -/
  | index
  deriving DecidableEq, Repr

inductive ListKind
  /-- Those up to the end of a line. -/
  | line
  /-- At least one, up to a token that closes the list. -/
  | some
  | any
  deriving DecidableEq, Repr

structure Grammar where
  list : ListKind → Reading Command
  command : Reading Command
  pieces : Surrounding → Reading Word

open Reader

/-! ### Quotes -/

def readUpTo (quote : Char) : Reading (List Char) := do
  let reader ← get
  let inside := reader.rest.takeWhile (· ≠ quote)
  let lines := (inside.filter (· = '\n')).length
  set { reader with
    rest := reader.rest.drop (inside.length + 1)
    line := reader.line + lines }
  if inside.length < reader.rest.length then pure inside else fail (.openQuote quote)

/-- The characters up to the old form of quote for commands; a backslash hides it, another
backslash, or a dollar sign. -/
def backquoted (quoted : Bool) : List Char → Option (List Char × List Char)
  | [] => none
  | '\\' :: c :: rest =>
      if c = '\\' || c = backquote || c = '$' || (quoted && c = '"') then
        (backquoted quoted rest).map (fun (inside, after) => (c :: inside, after))
      else if c = '\n' then backquoted quoted rest
      else (backquoted quoted rest).map (fun (inside, after) => ('\\' :: c :: inside, after))
  | c :: rest =>
      if c = backquote then some ([], rest)
      else (backquoted quoted rest).map (fun (inside, after) => (c :: inside, after))

def readBackquoted (inner : Grammar) (quoted : Bool) : Reading Piece := do
  let reader ← get
  match backquoted quoted reader.rest with
  | none =>
      set { reader with
        line := reader.line + (reader.rest.filter (· = '\n')).length, rest := [] }
      fail .openBackquote
  | some (inside, after) =>
      set { reader with rest := inside, pushed := none, awaited := [] }
      let body ← inner.list .any
      let lines := ((reader.rest.take (reader.rest.length - after.length)).filter
        (· = '\n')).length
      modify (fun ended =>
        { ended with
          rest := after
          pushed := reader.pushed
          awaited := reader.awaited
          line := reader.line + lines })
      pure (.output quoted body)

def quotedEscapes : Escapes :=
  { octal := true, hexadecimal := true, letterE := true, marks := ['\'', '"', '?'], wide := true }

def upToFreeQuote : List Char → List Char
  | [] => []
  | '\\' :: c :: rest => '\\' :: c :: upToFreeQuote rest
  | c :: rest => if c = '\'' then [] else c :: upToFreeQuote rest

/-! ### Parameters -/

/-- The name of a parameter: letters and digits, a number, or a special character. -/
def nameIn (long : Bool) : List Char → Option (String × List Char)
  | [] => none
  | c :: rest =>
      if isNameStart c then
        let name := c :: rest.takeWhile isNamePart
        some (String.ofList name, (c :: rest).drop name.length)
      else if c.isDigit && long then
        let name := c :: rest.takeWhile Char.isDigit
        some (String.ofList name, (c :: rest).drop name.length)
      else if isSpecial c then some (c.toString, rest)
      else none

/-- The parameter whose size is asked for: a name that a brace follows. -/
def sizedName? : List Char → Option (String × List Char)
  | '#' :: '\x7d' :: _ => none
  | '#' :: rest =>
      match nameIn true rest with
      | some (name, '\x7d' :: after) => some (name, '\x7d' :: after)
      | some (name, '[' :: after) => some (name, '[' :: after)
      | _ => none
  | _ => none

def readUnknown (inner : Grammar) (quoted : Bool) : Reading Piece := do
  let _ ← inner.pieces (if quoted then .quotedBrace else .brace)
  pure (.parameter quoted "" [] (.unknown ""))

def readIndex (inner : Grammar) : Reading Word := do
  if (← isExtended) && (← peek) == some '[' then
    skip 1
    inner.pieces .index
  else pure []

def readChange (inner : Grammar) (quoted : Bool) : Reading Change := do
  let extended ← isExtended
  let surrounding : Surrounding := if quoted then .quotedBrace else .brace
  let fallback (kind : Fallback) (orEmpty : Bool) : Reading Change := do
    skip (if orEmpty then 2 else 1)
    pure (.fallback kind orEmpty (← inner.pieces surrounding))
  let trim (atEnd longest : Bool) : Reading Change := do
    skip (if longest then 2 else 1)
    pure (.trim atEnd longest (← inner.pieces .brace))
  let unknown : Reading Change := do
    let _ ← inner.pieces surrounding
    pure (.unknown "")
  skipHiddenEnds
  match (← get).rest with
  | [] => fail (if quoted then .openQuote '"' else .openBrace)
  | '\x7d' :: _ => do skip 1; pure .none
  | ':' :: '-' :: _ => fallback .value true
  | ':' :: '=' :: _ => fallback .assigned true
  | ':' :: '+' :: _ => fallback .alternative true
  | ':' :: '?' :: _ => fallback .fault true
  | '-' :: _ => fallback .value false
  | '=' :: _ => fallback .assigned false
  | '+' :: _ => fallback .alternative false
  | '?' :: _ => fallback .fault false
  | '%' :: '%' :: _ => trim true true
  | '%' :: _ => trim true false
  | '#' :: '#' :: _ => trim false true
  | '#' :: _ => trim false false
  | c :: rest =>
      if !extended then unknown
      else
        match c, rest with
        | ':', _ => do
            skip 1
            let (start, goesOn) ← part .sliced ':'
            let count ← if goesOn then some <$> inner.pieces .brace else pure none
            pure (.slice start count)
        | '/', '/' :: _ => do skip 2; replacement true none
        | '/', '#' :: _ => do skip 2; replacement false (some false)
        | '/', '%' :: _ => do skip 2; replacement false (some true)
        | '/', _ => do skip 1; replacement false none
        | '^', '^' :: _ => do skip 2; let _ ← inner.pieces .brace; pure (.upper true)
        | '^', _ => do skip 1; let _ ← inner.pieces .brace; pure (.upper false)
        | ',', ',' :: _ => do skip 2; let _ ← inner.pieces .brace; pure (.lower true)
        | ',', _ => do skip 1; let _ ← inner.pieces .brace; pure (.lower false)
        | _, _ => unknown
where
  /-- A part that a mark ends or the brace, and whether it is the mark. -/
  part (surrounding : Surrounding) (mark : Char) : Reading (Word × Bool) := do
    let before ← get
    let word ← inner.pieces surrounding
    let used := before.rest.length - (← get).rest.length
    pure (word, (before.rest.drop (used - 1)).head? == some mark)
  /-- What a pattern is replaced by. -/
  replacement (all : Bool) (place : Option Bool) : Reading Change := do
    let (pattern, goesOn) ← part .replaced '/'
    pure (.replace all place pattern (← if goesOn then inner.pieces .brace else pure []))

def readBracedParts (inner : Grammar) (quoted : Bool) : Reading Piece := do
  skipHiddenEnds
  let reader ← get
  let extended ← isExtended
  let rest := reader.rest
  match sizedName? rest with
  | some (name, after) =>
      set { reader with rest := after }
      let index ← readIndex inner
      match (← get).rest with
      | '\x7d' :: _ => do skip 1; pure (.parameter quoted name index .size)
      | _ => readUnknown inner quoted
  | none =>
      let indirect := extended && rest.head? == some '!' &&
        ((rest.drop 1).head?.map (fun c => isNameStart c || c.isDigit || c = '#')).getD false
      match nameIn true (if indirect then rest.drop 1 else rest) with
      | none =>
          if rest.isEmpty then fail .openBrace else readUnknown inner quoted
      | some (name, after) =>
          set { reader with rest := after }
          let index ← readIndex inner
          if indirect && !index.isEmpty then
            match (← get).rest with
            | '\x7d' :: _ => do skip 1; pure (.parameter quoted name index .places)
            | _ => readUnknown inner quoted
          else
            let change ← readChange inner quoted
            match indirect, change with
            | true, .none => pure (.parameter quoted name index .indirect)
            | _, _ => pure (.parameter quoted name index change)

/-- A parameter in braces, behind the opening one. A change that there is not is shown as it is
written. -/
def readBraced (inner : Grammar) (quoted : Bool) : Reading Piece := do
  let before := (← get).rest
  match ← readBracedParts inner quoted with
  | .parameter quoted name index (.unknown _) => do
      let used := before.length - (← get).rest.length
      pure (.parameter quoted name index (.unknown (String.ofList (before.take (used - 1)))))
  | piece => pure piece

/-- Commands up to a closing bracket, as a reader comes to them. -/
def readBracketed (inner : Grammar) (reader : Reader) : Reading Command := do
  let body ← inner.list .any
  let ended ← get
  let closing := Token.closing.shown reader.dialect
  match ended.pushed with
  | some .closing =>
      set { ended with pushed := none, awaited := reader.awaited }
      pure body
  | some .ending =>
      if reader.dialect == .extended then fail .openBracket
      else fail (.unexpected (Token.ending.shown reader.dialect) (some closing))
  | some token => fail (.unexpected (token.shown reader.dialect) (some closing))
  | none => fail (.unexpected (Token.ending.shown reader.dialect) (some closing))

def readDollar (inner : Grammar) (quoted : Bool) : Reading (Option Piece) := do
  skipHiddenEnds
  let reader ← get
  let extended ← isExtended
  match reader.rest with
  | '(' :: '(' :: rest =>
      set { reader with rest := rest }
      pure (some (.arithmetic quoted (← inner.pieces .arithmetic)))
  | '(' :: rest =>
      set { reader with rest := rest, pushed := none, awaited := [] }
      pure (some (.output quoted (← readBracketed inner reader)))
  | '\x7b' :: rest =>
      set { reader with rest := rest }
      pure (some (← readBraced inner quoted))
  | '\'' :: rest =>
      if extended && !quoted then
        let inside := upToFreeQuote rest
        set { reader with rest := rest.drop (inside.length + 1) }
        pure (some (.text true (quotedEscapes.expand (String.ofList inside)).1))
      else pure none
  | '"' :: _ =>
      if extended && !quoted then pure (some (.text true "")) else pure none
  | rest =>
      match nameIn false rest with
      | some (name, after) =>
          set { reader with rest := after }
          pure (some (.parameter quoted name [] .none))
      | none => pure none

/-! ### Pieces -/

def hiddenBy (surrounding : Surrounding) (c : Char) : Bool :=
  c = '\\' || c = '$' || c = backquote ||
    match surrounding with
    | .quotes => c = '"'
    | .quotedBrace => c = '"' || c = '\x7d'
    | .arithmetic => c = '"'
    | _ => false

/-- Whether pieces in a surrounding are taken as they are. -/
def Surrounding.quotes? : Surrounding → Bool
  | .brace => false
  | .replaced => false
  | .sliced => false
  | .index => true
  | _ => true

/-- Reads pieces up to the end of what surrounds them; counts the brackets that are open in
arithmetic. -/
def readPiecesFrom (inner : Grammar) (surrounding : Surrounding) :
    Nat → Nat → OpenWord → Reading Word
  | 0, _, word => pure word.close
  | fuel + 1, depth, word => do
      let again (word : OpenWord) : Reading Word :=
        readPiecesFrom inner surrounding fuel depth word
      let quoted := surrounding.quotes?
      let reader ← get
      match reader.rest with
      | [] =>
          match surrounding with
          | .lines => pure word.close
          | .quotes => fail (.openQuote '"')
          | .quotedBrace => fail (.openQuote '"')
          | .arithmetic => fail .openArithmetic
          | _ => fail .openBrace
      | '\\' :: '\n' :: rest =>
          set { reader with rest := rest, line := reader.line + 1 }
          again word
      | '\\' :: c :: rest =>
          set { reader with
            rest := rest, line := if c = '\n' then reader.line + 1 else reader.line }
          if quoted then
            if hiddenBy surrounding c then again (word.push true c)
            else again ((word.push true '\\').push true c)
          else again (word.push true c)
      | '$' :: rest =>
          set { reader with rest := rest }
          match ← readDollar inner quoted with
          | some piece => again (word.add piece)
          | none => again (word.push quoted '$')
      | c :: rest =>
          let forward : Reader :=
            { reader with rest := rest, line := if c = '\n' then reader.line + 1 else reader.line }
          set forward
          if c = backquote then again (word.add (← readBackquoted inner quoted))
          else
            match surrounding with
            | .quotes => if c = '"' then pure word.close else again (word.push true c)
            | .quotedBrace =>
                if c = '\x7d' then pure word.close
                else if c = '"' then again word
                else again (word.push true c)
            | .lines => again (word.push true c)
            | .index => if c = ']' then pure word.close else again (word.push true c)
            | .arithmetic =>
                if c = '(' then
                  readPiecesFrom inner surrounding fuel (depth + 1) (word.push true c)
                else if c = ')' then
                  match depth, rest with
                  | 0, ')' :: after => do
                      set { reader with rest := after }
                      pure word.close
                  | _, _ =>
                      readPiecesFrom inner surrounding fuel (depth - 1) (word.push true c)
                else if c = '"' && reader.dialect == .extended then again word
                else again (word.push true c)
            | _ =>
                if c = '\x7d' || (surrounding == .replaced && c = '/') ||
                    (surrounding == .sliced && c = ':') then pure word.close
                else if c = '\'' then
                  let inside ← readUpTo '\''
                  again (word.mark.pushAll true inside)
                else if c = '"' then
                  let inside ← inner.pieces .quotes
                  again (inside.foldl OpenWord.add word.mark)
                else again (word.push false c)

def readPieces (inner : Grammar) (surrounding : Surrounding) : Reading Word := do
  readPiecesFrom inner surrounding ((← get).rest.length + 1) 0 {}

/-- Reads a word up to a character that ends it, as `ends` says. -/
def readWordFrom (inner : Grammar) (ends : Char → Bool) : Nat → OpenWord → Reading Word
  | 0, word => pure word.close
  | fuel + 1, word => do
      let reader ← get
      match reader.rest with
      | [] => pure word.close
      | ['\\'] => do
          set { reader with rest := [] }
          pure (word.push false '\\').close
      | '\\' :: '\n' :: rest =>
          set { reader with rest := rest, line := reader.line + 1 }
          readWordFrom inner ends fuel word
      | '\\' :: c :: rest =>
          set { reader with rest := rest }
          readWordFrom inner ends fuel (word.push true c)
      | '$' :: rest =>
          set { reader with rest := rest }
          match ← readDollar inner false with
          | some piece => readWordFrom inner ends fuel (word.add piece)
          | none => readWordFrom inner ends fuel (word.push false '$')
      | c :: rest =>
          if c = '<' && rest.head? == some '(' && reader.dialect == .extended then do
            set { reader with rest := rest.drop 1, pushed := none, awaited := [] }
            readWordFrom inner ends fuel (word.add (.outputFile (← readBracketed inner reader)))
          else if ends c then pure word.close
          else do
            set { reader with rest := rest }
            if c = '\'' then
              let inside ← readUpTo '\''
              readWordFrom inner ends fuel (word.mark.pushAll true inside)
            else if c = '"' then
              let inside ← inner.pieces .quotes
              readWordFrom inner ends fuel (inside.foldl OpenWord.add word.mark)
            else if c = backquote then
              readWordFrom inner ends fuel (word.add (← readBackquoted inner false))
            else readWordFrom inner ends fuel (word.push false c)

def readWord (inner : Grammar) : Reading Word := do
  readWordFrom inner endsWord ((← get).rest.length + 1) {}

end AssociationCheck.Shell
