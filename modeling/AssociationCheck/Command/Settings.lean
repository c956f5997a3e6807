/-
The settings of a run.

Settings come from a configuration file and from the arguments, which count more. A path in the
file is as seen from the directory of the file, a path in the arguments as seen from the current
directory.
-/

import AssociationCheck.Bootstrap.Loader
import AssociationCheck.Command.Arguments
import AssociationCheck.Rule.Expected

namespace AssociationCheck

open Json.Decode (field)

/-! ### The configuration file -/

structure ConfigFile where
  allowNullable : Option Bool := none
  objectManagerLoader : Option String := none
  bootstrapInterpreter : Option String := none
  collectionInterface : Option String := none
  deriving DecidableEq, Repr

namespace ConfigFile

def switchOfText? (text : String) : Option Bool :=
  match Text.foldCase (Text.trimmed text) with
  | "true" => some true
  | "1" => some true
  | "yes" => some true
  | "on" => some true
  | "false" => some false
  | "0" => some false
  | "no" => some false
  | "off" => some false
  | _ => none

/-- How deep the value of a switch may nest before it cannot be read at all. -/
def switchNestingLimit : Nat := 127

/-- A switch, given as a truth value or as a word, or null. The value is read whole before it is
looked at. -/
def decodeSwitch : Json.Decoder (Option Bool)
  | .null => .ok none
  | draft =>
      if switchNestingLimit ≤ draft.nesting then .error .malformed
      else
        match draft.toJson? with
        | none => .error .malformed
        | some (.bool value) => .ok (some value)
        | some (.string text) =>
            match switchOfText? text with
            | some value => .ok (some value)
            | none => .error (.data (.invalidSwitch text))
        | some _ => .error (.data (.noAlternative "BoolOrString"))

structure Part where
  allowNullable : Option (Option Bool) := none
  objectManagerLoader : Option (Option String) := none
  bootstrapInterpreter : Option (Option String) := none
  collectionInterface : Option (Option String) := none

def form : Json.Decode.RecordForm Part where
  label := "struct ConfigFile"
  fields :=
    [ field "allowNullablePropertyForRequiredField" false decodeSwitch Part.allowNullable
        (fun value part => { part with allowNullable := some value }),
      field "objectManagerLoader" false (Json.Decode.optional Json.Decode.path)
        Part.objectManagerLoader
        (fun value part => { part with objectManagerLoader := some value }),
      field "bootstrapInterpreter" false (Json.Decode.optional Json.Decode.string)
        Part.bootstrapInterpreter
        (fun value part => { part with bootstrapInterpreter := some value }),
      field "collectionInterface" false (Json.Decode.optional Json.Decode.string)
        Part.collectionInterface
        (fun value part => { part with collectionInterface := some value }) ]
  closed := true

def decode : Json.Decoder ConfigFile := fun draft => do
  let part ← form.decode {} draft
  pure
    { allowNullable := part.allowNullable.getD none
      objectManagerLoader := part.objectManagerLoader.getD none
      bootstrapInterpreter := part.bootstrapInterpreter.getD none
      collectionInterface := part.collectionInterface.getD none }

/-- The file with its paths as seen from a directory. -/
def relativeTo (config : ConfigFile) (directory : String) : ConfigFile :=
  { config with objectManagerLoader := config.objectManagerLoader.map (Path.join directory) }

end ConfigFile

/-! ### Errors of a run -/

inductive RunError
  | unreadable (path : String) (fault : SystemFault)
  | unparsable (path : String) (error : Json.DecodeError)
  | missingInput (path : String)
  deriving DecidableEq, Repr

namespace RunError

def headline : RunError → String
  | unreadable path _ => "failed to read " ++ path
  | unparsable path _ => "failed to parse " ++ path
  | missingInput path => "input path " ++ path ++ " does not exist"

def reason? : RunError → Option String
  | unreadable _ fault => some fault.message
  | unparsable _ error => some error.message
  | missingInput _ => none

def message (error : RunError) : String :=
  match error.reason? with
  | some reason => error.headline ++ ": " ++ reason
  | none => error.headline

end RunError

def FileTree.decode {α : Type} (files : FileTree) (path : String) (decode : Json.Decoder α) :
    Except RunError α :=
  match files.readText path with
  | .error fault => .error (.unreadable path fault)
  | .ok text =>
      match Json.Decode.text decode text with
      | .ok value => .ok value
      | .error error => .error (.unparsable path error)

/-! ### Settings -/

structure Settings where
  options : CheckOptions := {}
  /-- The bootstrap script; without one, metadata are those attached to the classes. -/
  objectManagerLoader : Option String := none
  bootstrapInterpreter : Option String := none
  deriving DecidableEq, Repr

namespace Settings

def usualFile : String := "ormcheck.json"

def merge (config : ConfigFile) (arguments : Arguments) (directory : String) : Settings :=
  let options : CheckOptions :=
    { allowNullable := (arguments.allowNullable.or config.allowNullable).getD false }
  { options :=
      match arguments.collectionInterface.or config.collectionInterface with
      | some name => options.withCollectionInterface name
      | none => options
    objectManagerLoader :=
      (arguments.objectManagerLoader.map (Path.join directory)).or config.objectManagerLoader
    bootstrapInterpreter := arguments.bootstrapInterpreter.or config.bootstrapInterpreter }

def configPath? (arguments : Arguments) (files : FileTree) (directory : String) : Option String :=
  match arguments.config with
  | some path => some (Path.join directory path)
  | none =>
      let path := Path.join directory usualFile
      if files.isFile path then some path else none

def resolve (arguments : Arguments) (files : FileTree) (directory : String) :
    Except RunError Settings := do
  match configPath? arguments files directory with
  | none => pure (merge {} arguments directory)
  | some path =>
      let config ← files.decode path ConfigFile.decode
      let config :=
        match Path.parent? path with
        | some base => config.relativeTo base
        | none => config
      pure (merge config arguments directory)

def bootstrap? (settings : Settings) : Option Bootstrap :=
  settings.objectManagerLoader.map (fun script => ⟨script, settings.bootstrapInterpreter⟩)

end Settings

end AssociationCheck
