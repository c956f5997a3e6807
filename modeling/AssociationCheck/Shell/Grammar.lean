/-
Reading commands.

A script is read one line of commands at a time, so that what stands before a fault has run when
the fault is found. Commands are read as the tokens come: a list is commands between separators, a
pipeline is commands between bars, and the first word of a command says what it is made of.
-/

import AssociationCheck.Shell.WordReading

namespace AssociationCheck.Shell

open Reader

/-! ### Tokens -/

/-- Passes over blanks, remarks and hidden line ends. -/
def skipBlanks : Reading Unit := do
  let reader ← get
  set (go reader reader.rest)
where
  go (reader : Reader) : List Char → Reader
    | [] => { reader with rest := [] }
    | '\\' :: '\n' :: rest => go { reader with line := reader.line + 1 } rest
    | c :: rest =>
        if c = ' ' || c = '\t' then go reader rest
        else if c = '#' then { reader with rest := rest.dropWhile (· ≠ '\n') }
        else { reader with rest := c :: rest }

def redirectorIn (extended : Bool) : List Char → Option (Redirector × Nat)
  | '<' :: '<' :: '<' :: _ => if extended then some (.word, 3) else some (.lines false, 2)
  | '<' :: '<' :: '-' :: _ => some (.lines true, 3)
  | '<' :: '<' :: _ => some (.lines false, 2)
  | '<' :: '&' :: _ => some (.copyInput, 2)
  | '<' :: '>' :: _ => some (.readWrite, 2)
  | '<' :: _ => some (.read, 1)
  | '>' :: '>' :: _ => some (.append, 2)
  | '>' :: '&' :: _ => some (.copyOutput, 2)
  | '>' :: '|' :: _ => some (.rewrite, 2)
  | '>' :: _ => some (.write, 1)
  | _ => none

def descriptorOf? (extended : Bool) (word : Word) : Option Nat :=
  match word with
  | [.text false chars] =>
      if chars.length = 1 || extended then chars.toNat? else none
  | _ => none

/-- Whether a fault in a word is reported for the line on which the word starts. -/
def reportedAtStart (extended : Bool) : ReadingFault → Bool
  | .openBrace => true
  | .openQuote _ => extended
  | .openBackquote => extended
  | .openArithmetic => extended
  | _ => false

def readToken (inner : Grammar) : Reading Token := do
  skipBlanks
  let reader ← get
  let extended ← isExtended
  let take (count : Nat) (token : Token) : Reading Token := do
    skip count
    pure token
  match reader.rest with
  | [] => pure .ending
  | '\n' :: _ => do let _ ← next; pure .newline
  | ';' :: ';' :: '&' :: _ =>
      if extended then take 3 (.armEnd .tryNext) else take 2 (.armEnd .leave)
  | ';' :: ';' :: _ => take 2 (.armEnd .leave)
  | ';' :: '&' :: _ => if extended then take 2 (.armEnd .goOn) else take 1 .semicolon
  | ';' :: _ => take 1 .semicolon
  | '&' :: '&' :: _ => take 2 .both
  | '&' :: '>' :: '>' :: _ =>
      if extended then take 3 (.redirection none (.both true)) else take 1 .ampersand
  | '&' :: '>' :: _ =>
      if extended then take 2 (.redirection none (.both false)) else take 1 .ampersand
  | '&' :: _ => take 1 .ampersand
  | '|' :: '|' :: _ => take 2 .either
  | '|' :: '&' :: _ => if extended then take 2 .pipeBoth else take 1 .pipe
  | '|' :: _ => take 1 .pipe
  | '(' :: _ => take 1 .opening
  | ')' :: _ => take 1 .closing
  | _ =>
      let word ← tryCatch (readWord inner) (fun (line, fault) =>
        throw (if reportedAtStart extended fault then reader.line else line, fault))
      let reader ← get
      match redirectorIn extended reader.rest with
      | none => pure (.word word)
      | some (redirector, count) =>
          match word with
          | [] => take count (.redirection none redirector)
          | _ =>
              match descriptorOf? extended word with
              | some descriptor => take count (.redirection (some descriptor) redirector)
              | none => pure (.word word)

def nextToken (inner : Grammar) : Reading Token := do
  match (← get).pushed with
  | some token =>
      modify (fun reader => { reader with pushed := none })
      pure token
  | none => readToken inner

def push (token : Token) : Reading Unit :=
  modify (fun reader => { reader with pushed := some token })

def peekToken (inner : Grammar) : Reading Token := do
  let token ← nextToken inner
  push token
  pure token

/-- Fails at a token. The larger language counts a line end to the line that it ends. -/
def unexpected {α : Type} (token : Token) (expected : Option String) : Reading α := do
  let dialect := (← get).dialect
  if dialect == .extended && token matches .newline then
    modify (fun reader => { reader with line := reader.line - 1 })
  let quoted := expected.map (fun text =>
    match dialect with
    | .standard => if text = "word" then text else "\"" ++ text ++ "\""
    | .extended => text)
  fail (.unexpected (token.shown dialect) quoted)

/-! ### Lines that commands take -/

/-- Lines that a command takes, what follows them, how many there are, and whether they have an
ending. -/
structure Taken where
  lines : List Char := []
  after : List Char := []
  count : Nat := 0
  ended : Bool := false

def linesUpTo (awaited : Awaited) : Nat → List Char → Taken
  | 0, rest => { after := rest }
  | fuel + 1, rest =>
      if rest.isEmpty then {}
      else
        let whole := rest.takeWhile (· ≠ '\n')
        let after := rest.drop (whole.length + 1)
        let line := if awaited.withoutTabs then whole.dropWhile (· = '\t') else whole
        if String.ofList line == awaited.ending then { after := after, count := 1, ended := true }
        else
          let taken := linesUpTo awaited fuel after
          let ended := if whole.length < rest.length then ['\n'] else []
          { taken with lines := line ++ ended ++ taken.lines, count := taken.count + 1 }

def readAwaited (inner : Grammar) : Reading Unit := do
  let reader ← get
  set { reader with awaited := [] }
  reader.awaited.forM (fun awaited => do
    let reader ← get
    let taken := linesUpTo awaited (reader.rest.length + 1) reader.rest
    let line := reader.line + taken.count
    let unended := if taken.ended then reader.unended else reader.unended ++ [(line - 1, awaited)]
    if awaited.quoted then
      set { reader with
        rest := taken.after
        line := line
        unended := unended
        documents := (awaited.number, [.text true (String.ofList taken.lines)]) ::
          reader.documents }
    else
      set { reader with rest := taken.lines, unended := unended }
      let word ← inner.pieces .lines
      modify (fun ended =>
        { ended with
          rest := taken.after
          line := line
          documents := (awaited.number, word) :: ended.documents }))

def skipNewlinesFrom (inner : Grammar) : Nat → Reading Unit
  | 0 => pure ()
  | fuel + 1 => do
      match ← nextToken inner with
      | .newline =>
          readAwaited inner
          skipNewlinesFrom inner fuel
      | token => push token

def skipNewlines (inner : Grammar) : Reading Unit := do
  skipNewlinesFrom inner ((← get).rest.length + 2)

def expectKeyword (inner : Grammar) (keyword : String) : Reading Unit := do
  skipNewlines inner
  let token ← nextToken inner
  if token.keyword? (← get).dialect == some keyword then pure ()
  else unexpected token (some keyword)

def peekKeyword (inner : Grammar) : Reading (Option String) := do
  skipNewlines inner
  let token ← peekToken inner
  pure (token.keyword? (← get).dialect)

/-! ### Redirections -/

/-- The text of a word without its quotes, and whether it has any. -/
def unquotedText : Word → String × Bool
  | [] => ("", false)
  | .text quoted chars :: rest =>
      let (text, hasQuotes) := unquotedText rest
      (chars ++ text, quoted || hasQuotes)
  | .parameter _ name _ _ :: rest =>
      let (text, hasQuotes) := unquotedText rest
      ("$" ++ name ++ text, hasQuotes)
  | _ :: rest => unquotedText rest

def readRedirection (inner : Grammar) (descriptor : Option Nat) (redirector : Redirector) :
    Reading Redirection := do
  let token ← nextToken inner
  match token with
  | .word target =>
      match redirector with
      | .read => pure (.file (descriptor.getD 0) .read target)
      | .write => pure (.file (descriptor.getD 1) .write target)
      | .rewrite => pure (.file (descriptor.getD 1) .rewrite target)
      | .append => pure (.file (descriptor.getD 1) .append target)
      | .readWrite => pure (.file (descriptor.getD 0) .readWrite target)
      | .copyInput => pure (.copy (descriptor.getD 0) target)
      | .copyOutput =>
          let isCopy :=
            match plainText? target with
            | some text => text = "-" || text.toNat?.isSome
            | none => true
          if (← isExtended) && !isCopy && descriptor.isNone then pure (.both false target)
          else pure (.copy (descriptor.getD 1) target)
      | .both append => pure (.both append target)
      | .word => pure (.word (descriptor.getD 0) target)
      | .lines withoutTabs =>
          let reader ← get
          let number := reader.nextDocument
          let (ending, quoted) := unquotedText target
          set { reader with
            nextDocument := number + 1
            awaited := reader.awaited ++
              [Awaited.mk number ending reader.line quoted withoutTabs] }
          pure (.lines (descriptor.getD 0) number)
  | token => unexpected token none

def readRedirectionsFrom (inner : Grammar) : Nat → Reading (List Redirection)
  | 0 => pure []
  | fuel + 1 => do
      match ← nextToken inner with
      | .redirection descriptor redirector =>
          let first ← readRedirection inner descriptor redirector
          pure (first :: (← readRedirectionsFrom inner fuel))
      | token =>
          push token
          pure []

def readRedirections (inner : Grammar) : Reading (List Redirection) := do
  readRedirectionsFrom inner ((← get).rest.length + 2)

/-! ### Simple commands -/

/-- What stands before a bracket with an equals sign, whether that adds, and what follows it. -/
def splitAtPlace? : List Char → Option (List Char × Bool × List Char)
  | ']' :: '=' :: value => some ([], false, value)
  | ']' :: '+' :: '=' :: value => some ([], true, value)
  | c :: rest =>
      (splitAtPlace? rest).map (fun (before, adds, value) => (c :: before, adds, value))
  | [] => none

/-- The place in brackets at the start of a word, whether something is added there, and the
value. -/
def placedValue? : Word → Option (Word × Bool × Word)
  | [] => none
  | .text false chars :: rest =>
      match splitAtPlace? chars.toList with
      | some (before, adds, value) =>
          some ([.text true (String.ofList before)], adds,
            if value.isEmpty then rest else .text false (String.ofList value) :: rest)
      | none =>
          (placedValue? rest).map (fun (place, more) => (.text true chars :: place, more))
  | piece :: rest => (placedValue? rest).map (fun (place, more) => (piece :: place, more))

def placedItem? : Word → Option (Word × Word)
  | .text false chars :: rest =>
      match chars.toList with
      | '[' :: inside =>
          (placedValue? (.text false (String.ofList inside) :: rest)).map
            (fun (place, _, value) => (place, value))
      | _ => none
  | _ => none

def readItemsFrom (inner : Grammar) (line : Nat) : Nat → Reading (List (Option Word × Word))
  | 0 => pure []
  | fuel + 1 => do
      match ← nextToken inner with
      | .newline => readItemsFrom inner line fuel
      | .word word =>
          let item :=
            match placedItem? word with
            | some (place, value) => (some place, value)
            | none => (none, word)
          pure (item :: (← readItemsFrom inner line fuel))
      | .closing => pure []
      | .ending => throw (line, .openBracket)
      | token => unexpected token (some ")")

/-- A word that gives a name a value: the name, whether the value is added, the place in a list,
and the value. -/
def assignmentOf? (extended : Bool) (word : Word) : Option (String × Bool × Word × Word) :=
  match word with
  | .text false chars :: rest =>
      let name := chars.toList.takeWhile isNamePart
      let after := chars.toList.drop name.length
      if !isName (String.ofList name) then none
      else
        let withRest (chars : List Char) : Word :=
          if chars.isEmpty then rest else .text false (String.ofList chars) :: rest
        match after with
        | '=' :: value => some (String.ofList name, false, [], withRest value)
        | '+' :: '=' :: value =>
            if extended then some (String.ofList name, true, [], withRest value) else none
        | '[' :: inside =>
            if extended then
              (placedValue? (withRest inside)).map (fun (place, adds, value) =>
                (String.ofList name, adds, place, value))
            else none
        | _ => none
  | _ => none

structure OpenCommand where
  line : Nat
  assignments : List Assignment := []
  words : List Word := []
  lists : List Assignment := []
  redirections : List Redirection := []

def OpenCommand.close (command : OpenCommand) : Command :=
  .simple command.line command.assignments.reverse command.words.reverse
    command.lists.reverse command.redirections.reverse

/-- Commands whose arguments may be assignments. -/
def declares (name : String) : Bool :=
  ["export", "readonly", "local", "declare", "typeset"].contains name

def OpenCommand.declares (command : OpenCommand) : Bool :=
  ((command.words.getLast?.bind plainText?).map Shell.declares).getD false

/-- Commands that end the script when they go wrong, so that no function takes their name. -/
def specialNames : List String :=
  [".", ":", "break", "continue", "eval", "exec", "exit", "export", "readonly", "return", "set",
    "shift", "times", "trap", "unset"]

/-- The body of a function of the larger language, which is no simple command. -/
def readBody (inner : Grammar) (name : String) : Reading Command := do
  skipNewlines inner
  let token ← peekToken inner
  let opens :=
    match token.keyword? .extended with
    | some word =>
        ["if", "while", "until", "for", "case", "select", "\x7b", "[["].contains word
    | none => token matches .opening
  if opens then pure (.define name (← inner.command)) else unexpected token none

def readFunction (inner : Grammar) (word : Word) : Reading Command := do
  let token ← nextToken inner
  match token with
  | .closing =>
      let extended ← isExtended
      match plainText? word with
      | some name =>
          if extended then
            readBody inner name
          else if isName name && !specialNames.contains name then
            skipNewlines inner
            pure (.define name (← inner.command))
          else fail .badName
      | none => fail .badName
  | token => unexpected token (some ")")

def readSimpleFrom (inner : Grammar) : Nat → OpenCommand → Reading Command
  | 0, command => pure command.close
  | fuel + 1, command => do
      let token ← nextToken inner
      match token with
      | .word word =>
          let extended ← isExtended
          let isList (value : Word) : Reading Bool := do
            pure (extended && value.isEmpty && (← peek) == some '(')
          let readItems : Reading (List (Option Word × Word)) := do
            skip 1
            let reader ← get
            readItemsFrom inner reader.line (reader.rest.length + 1)
          match command.words, assignmentOf? extended word with
          | [], some (name, adds, index, value) =>
              let assignment ←
                if ← isList value then do pure (.list name adds (← readItems))
                else pure (.value name index adds value)
              readSimpleFrom inner fuel
                { command with assignments := assignment :: command.assignments }
          | _, some (name, adds, _, value) =>
              if command.declares && (← isList value) then
                let list := Assignment.list name adds (← readItems)
                readSimpleFrom inner fuel
                  { command with
                    words := [.text false name] :: command.words
                    lists := list :: command.lists }
              else readSimpleFrom inner fuel { command with words := word :: command.words }
          | _, none => readSimpleFrom inner fuel { command with words := word :: command.words }
      | .redirection descriptor redirector =>
          let redirection ← readRedirection inner descriptor redirector
          readSimpleFrom inner fuel
            { command with redirections := redirection :: command.redirections }
      | .opening =>
          match command.words, command.assignments, command.redirections with
          | [word], [], [] => readFunction inner word
          | _, _, _ =>
              push token
              pure command.close
      | _ =>
          push token
          pure command.close

/-! ### Commands made of commands -/

def withRedirections (inner : Grammar) (line : Nat) (command : Command) : Reading Command := do
  match ← readRedirections inner with
  | [] => pure command
  | redirections => pure (.redirected line command redirections)

def readBranchFrom (inner : Grammar) : Nat → Reading Command
  | 0 => fail .tooDeep
  | fuel + 1 => do
      let test ← inner.list .some
      expectKeyword inner "then"
      let body ← inner.list .some
      match ← peekKeyword inner with
      | some "elif" =>
          let _ ← nextToken inner
          pure (.branch test body (← readBranchFrom inner fuel))
      | some "else" =>
          let _ ← nextToken inner
          let otherwise ← inner.list .some
          expectKeyword inner "fi"
          pure (.branch test body otherwise)
      | _ =>
          expectKeyword inner "fi"
          pure (.branch test body .nothing)

def readLoop (inner : Grammar) (whileTrue : Bool) : Reading Command := do
  let test ← inner.list .some
  expectKeyword inner "do"
  let body ← inner.list .some
  expectKeyword inner "done"
  pure (.loop whileTrue test body)

def readListedFrom (inner : Grammar) : Nat → Reading (List Word)
  | 0 => pure []
  | fuel + 1 => do
      let token ← nextToken inner
      match token with
      | .word word => pure (word :: (← readListedFrom inner fuel))
      | .newline => do readAwaited inner; pure []
      | .semicolon => pure []
      | _ => unexpected token none

/-- The three parts of a loop that counts. -/
def countParts (word : Word) : Word × Word × Word :=
  let (first, rest) := upTo word
  let (second, third) := upTo rest
  (first, second, third)
where
  upTo : Word → Word × Word
    | [] => ([], [])
    | .text quoted chars :: rest =>
        let before := chars.toList.takeWhile (· ≠ ';')
        if before.length < chars.length then
          ([.text quoted (String.ofList before)],
            .text quoted (String.ofList (chars.toList.drop (before.length + 1))) :: rest)
        else
          let (first, after) := upTo rest
          (.text quoted chars :: first, after)
    | piece :: rest =>
        let (first, after) := upTo rest
        (piece :: first, after)

def readEach (inner : Grammar) (line : Nat) : Reading Command := do
  let token ← nextToken inner
  let extended ← isExtended
  match token with
  | .opening =>
      if extended && (← peek) == some '(' then
        skip 1
        let (start, test, step) := countParts (← inner.pieces .arithmetic)
        match ← nextToken inner with
        | .semicolon => pure ()
        | token => push token
        expectKeyword inner "do"
        let body ← inner.list .some
        expectKeyword inner "done"
        pure (.count line start test step body)
      else fail .badLoopVariable
  | _ =>
      match (match token with | .word word => plainText? word | _ => none) with
      | none => if extended then unexpected token none else fail .badLoopVariable
      | some name =>
          if !isName name && !extended then fail .badLoopVariable
          else
            match ← peekKeyword inner with
            | some "in" =>
                let _ ← nextToken inner
                let words ← readListedFrom inner ((← get).rest.length + 2)
                expectKeyword inner "do"
                let body ← inner.list .some
                expectKeyword inner "done"
                pure (.each line name (some words) body)
            | _ =>
                match ← nextToken inner with
                | .semicolon => pure ()
                | token => push token
                expectKeyword inner "do"
                let body ← inner.list .some
                expectKeyword inner "done"
                pure (.each line name none body)

/-- The patterns of an arm, up to the closing bracket. Any token stands for a pattern. -/
def readPatternsFrom (inner : Grammar) : Nat → Token → Reading (List Word)
  | 0, _ => pure []
  | fuel + 1, token => do
      let extended ← isExtended
      let word ←
        match token with
        | .word word => pure word
        | _ => if extended then unexpected token none else pure []
      if token matches .ending then push token
      match ← nextToken inner with
      | .pipe => pure (word :: (← readPatternsFrom inner fuel (← nextToken inner)))
      | .closing => pure [word]
      | .word shown => unexpected (.word (if extended then shown else [])) (some ")")
      | token => unexpected token (some ")")

def readArmsFrom (inner : Grammar) : Nat → Reading (List (List Word × Command × ArmEnd))
  | 0 => pure []
  | fuel + 1 => do
      skipNewlines inner
      let token ← nextToken inner
      if token.keyword? (← get).dialect == some "esac" then pure []
      else
        let first ←
          match token with
          | .opening => nextToken inner
          | token => pure token
        let patterns ← readPatternsFrom inner ((← get).rest.length + 2) first
        let body ← inner.list .any
        skipNewlines inner
        let token ← nextToken inner
        if token.keyword? (← get).dialect == some "esac" then pure [(patterns, body, .leave)]
        else
          match token with
          | .armEnd ending => pure ((patterns, body, ending) :: (← readArmsFrom inner fuel))
          | token => unexpected token (some ";;")

def readChoice (inner : Grammar) (line : Nat) : Reading Command := do
  let token ← nextToken inner
  match token with
  | .word subject =>
      expectKeyword inner "in"
      pure (.choice line subject (← readArmsFrom inner ((← get).rest.length + 2)))
  | token => unexpected token (some "word")

/-! ### Questions -/

def questionUnary : List String :=
  ["-a", "-b", "-c", "-d", "-e", "-f", "-g", "-h", "-k", "-n", "-o", "-p", "-r", "-s", "-t", "-u",
    "-v", "-w", "-x", "-z", "-G", "-L", "-N", "-O", "-R", "-S"]

def questionBinary : List String :=
  ["=", "==", "!=", "=~", "-eq", "-ne", "-lt", "-le", "-gt", "-ge", "-nt", "-ot", "-ef"]

/-- What is to be read of a question. -/
inductive QuestionGoal
  | either
  | both
  | single
  deriving DecidableEq, Repr

/-- Fails at a token of a question: why, and the last token before. -/
def badQuestion {α : Type} (token : Token) (before : String)
    (reason : Option (String → String)) : Reading α := do
  let isEnd := token matches .newline
  if isEnd then modify (fun reader => { reader with line := reader.line - 1 })
  if token matches .ending then fail (.unexpected (token.shown .extended) none)
  else
    let shown := token.shown .extended
    fail (.badQuestion (reason.map (fun reason => reason shown)) (if isEnd then before else shown))

def questionWord? (token : Token) : Option Word :=
  match token with
  | .word word => if plainText? word == some "]]" then none else some word
  | _ => none

def comparison? (token : Token) : Option String :=
  match token with
  | .word word => (plainText? word).filter questionBinary.contains
  | .redirection none .read => some "<"
  | .redirection none .write => some ">"
  | _ => none

def readQuestionFrom (inner : Grammar) : Nat → QuestionGoal → Reading (Question Word)
  | 0, _ => fail .tooDeep
  | fuel + 1, .either => do
      let first ← readQuestionFrom inner fuel .both
      let token ← nextToken inner
      match token with
      | .either => pure (.either first (← readQuestionFrom inner fuel .either))
      | _ => do push token; pure first
  | fuel + 1, .both => do
      let first ← readQuestionFrom inner fuel .single
      let token ← nextToken inner
      match token with
      | .both => pure (.both first (← readQuestionFrom inner fuel .both))
      | _ => do push token; pure first
  | fuel + 1, .single => do
      skipNewlines inner
      let token ← nextToken inner
      match token, questionWord? token with
      | .opening, _ => do
          let body ← readQuestionFrom inner fuel .either
          let token ← nextToken inner
          match token with
          | .closing => do skipNewlines inner; pure body
          | _ => badQuestion token "" (some (fun shown =>
              "unexpected token " ++ between shown ++ ", expected " ++ between ")"))
      | _, none => badQuestion token "[[" none
      | _, some word =>
          let text := (plainText? word).getD ""
          if text = "!" then pure (.not (← readQuestionFrom inner fuel .single))
          else
            let next ← nextToken inner
            match comparison? next, questionUnary.contains text, questionWord? next with
            | some operator, _, _ => compared word operator
            | none, true, some operand => do skipNewlines inner; pure (.unary text operand)
            | none, true, none => badQuestion next text (some (fun shown =>
                "unexpected argument " ++ between shown ++ " to conditional unary operator"))
            | none, false, some _ => badQuestion next text (some (fun _ =>
                "conditional binary operator expected"))
            | none, false, none =>
                let goesOn := next matches .both | .either | .closing | .word _
                if goesOn then do push next; pure (.filled word)
                else badQuestion next text (some (fun shown =>
                  "unexpected token " ++ between shown ++ ", conditional binary operator expected"))
where
  between (text : String) : String := backquote.toString ++ text ++ "'"
  compared (left : Word) (operator : String) : Reading (Question Word) := do
    if operator = "=~" then
      skipBlanks
      let length := (← get).rest.length + 1
      let right ← readWordFrom inner (fun c => c = ' ' || c = '\t' || c = '\n') length {}
      skipNewlines inner
      pure (.binary operator left right)
    else
      let token ← nextToken inner
      match questionWord? token with
      | some right => do skipNewlines inner; pure (.binary operator left right)
      | none => badQuestion token operator (some (fun shown =>
          "unexpected argument " ++ between shown ++ " to conditional binary operator"))

def readQuestion (inner : Grammar) : Reading (Question Word) := do
  let question ← readQuestionFrom inner (2 * (← get).rest.length + 4) .either
  let token ← nextToken inner
  match token with
  | .word word =>
      if plainText? word == some "]]" then pure question else badQuestion token "" none
  | _ => badQuestion token "" none

def readNamedFunction (inner : Grammar) : Reading Command := do
  let token ← nextToken inner
  match token with
  | .word word =>
      let name := (plainText? word).getD ""
      match ← peekToken inner with
      | .opening =>
          let _ ← nextToken inner
          let _ ← nextToken inner
          pure ()
      | _ => pure ()
      readBody inner name
  | token => unexpected token none

def readCommand (inner : Grammar) : Reading Command := do
  let token ← nextToken inner
  let reader ← get
  let line := reader.line
  let extended ← isExtended
  let simple : Reading Command := do
    push token
    readSimpleFrom inner (reader.rest.length + 3) { line := line }
  match token with
  | .opening =>
      if extended && reader.rest.head? == some '(' then
        skip 1
        let expression ← inner.pieces .arithmetic
        withRedirections inner line (.compute line expression)
      else
        let body ← inner.list .some
        match ← nextToken inner with
        | .closing => withRedirections inner line (.separate line body)
        | token => unexpected token (some ")")
  | .redirection _ _ => simple
  | .word _ =>
      match token.keyword? reader.dialect with
      | some "if" => do
          withRedirections inner line (← readBranchFrom inner (reader.rest.length + 2))
      | some "while" => do withRedirections inner line (← readLoop inner true)
      | some "until" => do withRedirections inner line (← readLoop inner false)
      | some "for" => do withRedirections inner line (← readEach inner line)
      | some "case" => do withRedirections inner line (← readChoice inner line)
      | some "\x7b" => do
          let body ← inner.list .some
          expectKeyword inner "\x7d"
          withRedirections inner line body
      | some "[[" => do
          withRedirections inner line (.question line (← readQuestion inner))
      | some "function" => readNamedFunction inner
      | some "time" => inner.command
      | some _ => unexpected token none
      | none => simple
  | _ => unexpected token none

/-! ### Pipelines and lists -/

def readStagesFrom (inner : Grammar) : Nat → Reading (List Command)
  | 0 => pure []
  | fuel + 1 => do
      let command ← readCommand inner
      match ← nextToken inner with
      | .pipe =>
          skipNewlines inner
          pure (command :: (← readStagesFrom inner fuel))
      | .pipeBoth =>
          skipNewlines inner
          let both := Command.redirected 0 command [.copy 2 [.text true "1"]]
          pure (both :: (← readStagesFrom inner fuel))
      | token =>
          push token
          pure [command]

def readPipeline (inner : Grammar) : Reading Command := do
  let dialect := (← get).dialect
  let token ← nextToken inner
  if token.keyword? dialect == some "!" then
    if dialect == .extended then readNegated ((← get).rest.length + 2)
    else pure (.negated (joined (← readStagesFrom inner ((← get).rest.length + 2))))
  else
    push token
    pure (joined (← readStagesFrom inner ((← get).rest.length + 3)))
where
  joined : List Command → Command
    | [command] => command
    | commands => .pipeline commands
  /-- In the larger language a sign of negation may be repeated, and nothing may follow it. -/
  readNegated : Nat → Reading Command
    | 0 => pure .nothing
    | fuel + 1 => do
        let token ← peekToken inner
        if token.keyword? .extended == some "!" then
          let _ ← nextToken inner
          pure (.negated (← readNegated fuel))
        else if token matches .newline | .semicolon | .ending then pure (.negated .nothing)
        else pure (.negated (joined (← readStagesFrom inner ((← get).rest.length + 3))))

def readDependentFrom (inner : Grammar) : Nat → Command → Reading Command
  | 0, command => pure command
  | fuel + 1, command => do
      match ← nextToken inner with
      | .both =>
          skipNewlines inner
          readDependentFrom inner fuel (.both command (← readPipeline inner))
      | .either =>
          skipNewlines inner
          readDependentFrom inner fuel (.either command (← readPipeline inner))
      | token =>
          push token
          pure command

def readListFrom (inner : Grammar) (kind : ListKind) :
    Nat → List Command → Reading (List Command)
  | 0, commands => pure commands.reverse
  | fuel + 1, commands => do
      let dialect := (← get).dialect
      if kind ≠ .line then skipNewlines inner
      let token ← nextToken inner
      match token with
      | .newline =>
          readAwaited inner
          pure commands.reverse
      | .ending =>
          readAwaited inner
          push token
          pure commands.reverse
      | _ =>
          push token
          if kind ≠ .line && token.closes dialect && (kind == .any || !commands.isEmpty) then
            pure commands.reverse
          else
            let first ← readPipeline inner
            let command ← readDependentFrom inner ((← get).rest.length + 2) first
            let token ← nextToken inner
            match token with
            | .semicolon => readListFrom inner kind fuel (command :: commands)
            | .ampersand => readListFrom inner kind fuel (.aside command :: commands)
            | .newline =>
                push token
                readListFrom inner kind fuel (command :: commands)
            | .ending =>
                readAwaited inner
                push token
                pure (command :: commands).reverse
            | _ =>
                if kind == .line then unexpected token none
                else
                  push token
                  pure (command :: commands).reverse

def readList (inner : Grammar) (kind : ListKind) : Reading Command := do
  let commands ← readListFrom inner kind ((← get).rest.length + 2) []
  match commands with
  | [command] => pure command
  | _ => pure (.sequence commands)

/-! ### Scripts -/

/-- The grammar in which commands contain each other to some depth. -/
def grammar : Nat → Grammar
  | 0 => ⟨fun _ => fail .tooDeep, fail .tooDeep, fun _ => fail .tooDeep⟩
  | depth + 1 =>
      let inner := grammar depth
      ⟨readList inner, readCommand inner, readPieces inner⟩

def depthLimit : Nat := 200

/-- The next line of commands, and nothing at the end of the script. -/
def readLine : Reading (Option Command) := do
  let inner := grammar depthLimit
  let token ← nextToken inner
  match token with
  | .ending => pure none
  | .newline => do
      readAwaited inner
      pure (some .nothing)
  | _ => do
      push token
      pure (some (← readList inner .line))

/-- The words of a text whose values are taken as in double quotes. -/
def readText (text : String) (reader : Reader) : Except (Nat × ReadingFault) Word :=
  ((readPieces (grammar depthLimit) .lines).run { reader with rest := text.toList }).map Prod.fst

end AssociationCheck.Shell
