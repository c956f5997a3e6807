/-
The arguments of the command.

Arguments are taken from left to right and the first problem counts. An option may be followed by
its value or joined to it by an equals sign; a value that follows its option, and the paths, are
looked at when the next option comes or the arguments end. After two dashes everything is a path.
-/

namespace AssociationCheck

inductive OutputFormat
  | text
  | json
  deriving DecidableEq, Repr

structure Arguments where
  config : Option String := none
  allowNullable : Option Bool := none
  objectManagerLoader : Option String := none
  bootstrapInterpreter : Option String := none
  collectionInterface : Option String := none
  format : Option OutputFormat := none
  noColour : Bool := false
  paths : List String := []
  deriving DecidableEq, Repr

/-- The format that is meant when none is given is text. -/
def Arguments.outputFormat (arguments : Arguments) : OutputFormat :=
  arguments.format.getD .text

/-- Why the arguments are not carried out. Asking for help or for the version is not an error. -/
inductive ArgumentError
  | missingRequired
  | invalidValue
  | unknown
  /-- An option is given twice. -/
  | conflict
  /-- A switch is given a value. -/
  | tooManyValues
  | help
  | version
  deriving DecidableEq, Repr

namespace Arguments

/-! ### Options -/

inductive ValueOption
  | config
  | objectManagerLoader
  | bootstrapInterpreter
  | collectionInterface
  | format
  deriving DecidableEq, Repr

inductive NamedOption
  | value (option : ValueOption)
  | allowNullable
  | noColour
  | help
  | version
  deriving DecidableEq, Repr

namespace NamedOption

def ofLongName? : String → Option NamedOption
  | "config" => some (value .config)
  | "allow-nullable-property-for-required-field" => some allowNullable
  | "object-manager-loader" => some (value .objectManagerLoader)
  | "bootstrap-interpreter" => some (value .bootstrapInterpreter)
  | "collection-interface" => some (value .collectionInterface)
  | "format" => some (value .format)
  | "no-color" => some noColour
  | "help" => some help
  | "version" => some version
  | _ => none

def ofShortName? : Char → Option NamedOption
  | 'c' => some (value .config)
  | 'h' => some help
  | 'V' => some version
  | _ => none

end NamedOption

def path? (text : String) : Option String := if text.isEmpty then none else some text

def setValue (arguments : Arguments) (option : ValueOption) (text : String) :
    Except ArgumentError Arguments :=
  let isSet :=
    match option with
    | .config => arguments.config.isSome
    | .objectManagerLoader => arguments.objectManagerLoader.isSome
    | .bootstrapInterpreter => arguments.bootstrapInterpreter.isSome
    | .collectionInterface => arguments.collectionInterface.isSome
    | .format => arguments.format.isSome
  if isSet then .error .conflict
  else
    match option with
    | .config =>
        match path? text with
        | some path => .ok { arguments with config := some path }
        | none => .error .invalidValue
    | .objectManagerLoader =>
        match path? text with
        | some path => .ok { arguments with objectManagerLoader := some path }
        | none => .error .invalidValue
    | .bootstrapInterpreter => .ok { arguments with bootstrapInterpreter := some text }
    | .collectionInterface => .ok { arguments with collectionInterface := some text }
    | .format =>
        match text with
        | "text" => .ok { arguments with format := some .text }
        | "json" => .ok { arguments with format := some .json }
        | _ => .error .invalidValue

/-- Takes over the switch for nullable properties; without a value it is on. -/
def setAllowNullable (arguments : Arguments) (text : Option String) :
    Except ArgumentError Arguments :=
  if arguments.allowNullable.isSome then .error .conflict
  else
    match text with
    | none => .ok { arguments with allowNullable := some true }
    | some "true" => .ok { arguments with allowNullable := some true }
    | some "false" => .ok { arguments with allowNullable := some false }
    | some _ => .error .invalidValue

def setNoColour (arguments : Arguments) : Except ArgumentError Arguments :=
  if arguments.noColour then .error .conflict else .ok { arguments with noColour := true }

/-! ### Reading -/

inductive Pending
  | nothing
  /-- An option, with its value if it has come. -/
  | option (option : ValueOption) (text : Option String)
  | paths (texts : List String)
  deriving DecidableEq, Repr

structure State where
  arguments : Arguments := {}
  pending : Pending := .nothing
  /-- Two dashes have come. -/
  onlyPaths : Bool := false
  deriving DecidableEq, Repr

namespace State

def settle (state : State) : Except ArgumentError State := do
  let arguments ←
    match state.pending with
    | .nothing => pure state.arguments
    | .option _ none => .error .invalidValue
    | .option option (some text) => state.arguments.setValue option text
    | .paths texts =>
        if texts.any String.isEmpty then .error .invalidValue
        else pure { state.arguments with paths := state.arguments.paths ++ texts }
  pure { state with arguments := arguments, pending := .nothing }

def withArguments (state : State) (arguments : Except ArgumentError Arguments) :
    Except ArgumentError State :=
  arguments.map (fun arguments => { state with arguments := arguments })

def named (state : State) (option : NamedOption) (joined : Option String) :
    Except ArgumentError State :=
  match option, joined with
  | .value option, some text => do
      let state ← state.settle
      state.withArguments (state.arguments.setValue option text)
  | .value option, none => do
      let state ← state.settle
      pure { state with pending := .option option none }
  | .allowNullable, joined => do
      let state ← state.settle
      state.withArguments (state.arguments.setAllowNullable joined)
  | .noColour, none => do
      let state ← state.settle
      state.withArguments state.arguments.setNoColour
  | .help, none => do
      let _ ← state.settle
      .error .help
  | .version, none => do
      let _ ← state.settle
      .error .version
  | _, some _ => .error .tooManyValues

def plain (state : State) (text : String) : Except ArgumentError State :=
  match state.pending, state.onlyPaths with
  | .option option none, false =>
      .ok { state with pending := .option option (some text) }
  | .paths texts, _ => .ok { state with pending := .paths (texts ++ [text]) }
  | _, _ => do
      let state ← state.settle
      pure { state with pending := .paths [text] }

def splitJoined : List Char → List Char × Option (List Char)
  | [] => ([], none)
  | '=' :: rest => ([], some rest)
  | c :: rest =>
      let (name, joined) := splitJoined rest
      (c :: name, joined)

def short (state : State) (letter : Char) (rest : List Char) : Except ArgumentError State :=
  match NamedOption.ofShortName? letter with
  | none => .error .unknown
  | some (.value option) =>
      match rest with
      | [] => state.named (.value option) none
      | '=' :: value => state.named (.value option) (some (String.ofList value))
      | value => state.named (.value option) (some (String.ofList value))
  | some switch => state.named switch none

def read (state : State) (argument : String) : Except ArgumentError State :=
  if state.onlyPaths then state.plain argument
  else
    match argument.toList with
    | ['-', '-'] => .ok { state with onlyPaths := true }
    | '-' :: '-' :: rest =>
        let (name, joined) := splitJoined rest
        match NamedOption.ofLongName? (String.ofList name) with
        | some option => state.named option (joined.map String.ofList)
        | none => .error .unknown
    | '-' :: letter :: rest => state.short letter rest
    | _ => state.plain argument

end State

def parse (arguments : List String) : Except ArgumentError Arguments := do
  let state ← arguments.foldlM State.read {}
  let state ← state.settle
  if state.arguments.paths.isEmpty then .error .missingRequired else pure state.arguments

end Arguments

end AssociationCheck
