/-
Programs that make, move and take away files.

What they say of a path that they can do nothing with is the path between quotes and the reason.
-/

import AssociationCheck.Shell.Tool.Reading
import AssociationCheck.Shell.Tool.Words

namespace AssociationCheck.Shell.Tool

open Program

/-! ### Directories -/

def makeDirectory (path : String) : Program (Except SystemFault Unit) := do
  match ← locate path with
  | .error fault => pure (.error fault)
  | .ok location => do
      if ((← getThe Machine).files.at? location).isSome then pure (.error .alreadyExists)
      else do
        changeFiles (fun files => files.set location .directory)
        pure (.ok ())

/-- The paths that lead to a path, the shortest first. -/
def stepsTo (path : String) : List String :=
  let parts := path.splitOn "/"
  ((List.range parts.length).map (fun count =>
    String.intercalate "/" (parts.take (count + 1)))).filter (fun part => !part.isEmpty)

/-- Makes a directory and all that lead to it; gives the path that cannot be made. -/
def makeAll : List String → Program (Except (String × SystemFault) Unit)
  | [] => pure (.ok ())
  | path :: rest => do
      match ← entry path with
      | .ok (_, .directory) => makeAll rest
      | .ok _ => pure (.error (path, if rest.isEmpty then .alreadyExists else .notDirectory))
      | .error _ => do
          match ← makeDirectory path with
          | .ok () => makeAll rest
          | .error fault => pure (.error (path, fault))

def mkdir : Program Nat :=
  withOptions { flags := "pvZ", valued := "m", words := [("parents", 'p', false),
    ("verbose", 'v', false), ("mode", 'm', true)] } 1 (fun given => do
    if given.operands.isEmpty then misused "missing operand" 1
    else
      given.operands.foldlM
        (fun status path => do
          let made ←
            if given.has 'p' then makeAll (stepsTo path)
            else do
              match ← makeDirectory path with
              | .ok () => pure (.ok ())
              | .error fault => pure (.error (path, fault))
          match made with
          | .ok () => do
              if given.has 'v' then
                let _ ← writeTo 1 ((← read).name ++ ": created directory " ++ quoted path ++ "\n")
              pure status
          | .error (path, fault) => do
              report ("cannot create directory " ++ quoted path ++ ": " ++ fault.text)
              pure 1)
        0)

def emptyDirectory (path : String) : Program (Except SystemFault Location) := do
  match ← ownEntry path with
  | .error fault => pure (.error fault)
  | .ok (location, .directory) =>
      if ((← getThe Machine).files.namesIn location).isEmpty then pure (.ok location)
      else pure (.error .notEmpty)
  | .ok _ => pure (.error .notDirectory)

def rmdir : Program Nat :=
  withOptions { flags := "pv", words := [("parents", 'p', false)] } 1 (fun given => do
    if given.operands.isEmpty then misused "missing operand" 1
    else
      let paths := given.operands.flatMap (fun path =>
        if given.has 'p' then (stepsTo path).reverse else [path])
      paths.foldlM
        (fun status path => do
          match ← emptyDirectory path with
          | .ok location => do
              changeFiles (fun files => files.remove location)
              pure status
          | .error fault => do
              report ("failed to remove " ++ quoted path ++ ": " ++ fault.text)
              pure 1)
        0)

/-! ### Taking away -/

def isPoint (path : String) : Bool :=
  let name := lastComponent path
  name = "." || name = ".."

def rm : Program Nat :=
  withOptions { flags := "rRfivId", words := [("recursive", 'r', false), ("force", 'f', false),
    ("verbose", 'v', false), ("dir", 'd', false)] } 1 (fun given => do
    let deep := given.has 'r' || given.has 'R'
    let cannot (path : String) (fault : SystemFault) : Program Nat := do
      report ("cannot remove " ++ quoted path ++ ": " ++ fault.text)
      pure 1
    if given.operands.isEmpty then
      if given.has 'f' then pure 0 else misused "missing operand" 1
    else
      given.operands.foldlM
        (fun status path => do
          if deep && isPoint path then
            report ("refusing to remove '.' or '..' directory: skipping " ++ quoted path)
            pure 1
          else
            match ← ownEntry path with
            | .error fault =>
                if given.has 'f' && (fault == .notFound || fault == .notDirectory) then pure status
                else cannot path fault
            | .ok (location, found) =>
                let isDirectory := found == .directory
                let isEmpty := ((← getThe Machine).files.namesIn location).isEmpty
                if isDirectory && !deep && !given.has 'd' then cannot path .isDirectory
                else if isDirectory && !deep && !isEmpty then cannot path .notEmpty
                else do
                  changeFiles (fun files => files.remove location)
                  if given.has 'v' then
                    let kind := if isDirectory then "removed directory " else "removed "
                    let _ ← writeTo 1 (kind ++ quoted path ++ "\n")
                  pure status)
        0)

def unlink : Program Nat :=
  withOptions {} 1 (fun given => do
    match given.operands with
    | [] => misused "missing operand" 1
    | [path] => do
        match ← ownEntry path with
        | .ok (_, .directory) => do
            report ("cannot unlink " ++ quoted path ++ ": Is a directory")
            pure 1
        | .ok (location, _) => do
            changeFiles (fun files => files.remove location)
            pure 0
        | .error fault => do
            report ("cannot unlink " ++ quoted path ++ ": " ++ fault.text)
            pure 1
    | _ :: extra :: _ => misused ("extra operand " ++ quoted extra) 1)

def touch : Program Nat :=
  withOptions { flags := "acmhf", valued := "dtr", words := [("no-create", 'c', false),
    ("date", 'd', true), ("reference", 'r', true)] } 1 (fun given => do
    if given.operands.isEmpty then misused "missing file operand" 1
    else
      given.operands.foldlM
        (fun status path => do
          match ← entry path with
          | .ok _ => pure status
          | .error .notFound =>
              if given.has 'c' then pure status
              else if path.endsWith "/" then do
                report ("setting times of " ++ quoted path ++ ": " ++ SystemFault.notFound.text)
                pure 1
              else
                match ← writePath .append path "" with
                | .ok () => pure status
                | .error fault => do
                    report ("cannot touch " ++ quoted path ++ ": " ++ fault.text)
                    pure 1
          | .error fault => do
              report ("cannot touch " ++ quoted path ++ ": " ++ fault.text)
              pure 1)
        0)

/-! ### Copying, moving and linking -/

/-- The sources and the target of a program that takes several; a directory is told apart. -/
structure Targets where
  sources : List String
  target : String
  isDirectory : Bool

def withTargets (given : Given) (body : Targets → Program Nat) : Program Nat := do
  match given.value? 't' with
  | some target =>
      if given.operands.isEmpty then misused "missing file operand" 1
      else body ⟨given.operands, target, true⟩
  | none =>
      match given.operands with
      | [] => misused "missing file operand" 1
      | [only] => misused ("missing destination file operand after " ++ quoted only) 1
      | operands => do
          let target := operands.getLastD ""
          let sources := operands.dropLast
          match ← entry target with
          | .ok (_, .directory) =>
              if given.has 'T' then body ⟨sources, target, false⟩
              else body ⟨sources, target, true⟩
          | found =>
              if sources.length = 1 then body ⟨sources, target, false⟩
              else
                let fault := match found with | .error fault => fault | .ok _ => .notDirectory
                report ("target " ++ quoted target ++ ": " ++ fault.text)
                pure 1

def destination (targets : Targets) (source : String) : String :=
  if targets.isDirectory then
    (if targets.target.endsWith "/" then targets.target else targets.target ++ "/") ++
      lastComponent source
  else targets.target

def newLocation (path : String) : Program (Except SystemFault Location) := do
  match ← locate path with
  | .error fault => pure (.error fault)
  | .ok location =>
      let found := (← getThe Machine).files.at? location
      if path.endsWith "/" && found ≠ some .directory then pure (.error .notDirectory)
      else pure (.ok location)

def announce (given : Given) (text : String) : Program Unit := do
  if given.has 'v' then
    let _ ← writeTo 1 (text ++ "\n")

def copyFile (given : Given) (source target : String) (location : Location) (found : FileEntry) :
    Program Nat := do
  let files := (← getThe Machine).files
  let real? := (files.entry (Machine.absolute (← read).directory target)).toOption
  match real? with
  | some (there, .directory) =>
      if there == location then
        report (quoted source ++ " and " ++ quoted target ++ " are the same file")
      else report ("cannot overwrite directory " ++ quoted target ++ " with non-directory")
      pure 1
  | some (there, .file _) =>
      if there == location then
        report (quoted source ++ " and " ++ quoted target ++ " are the same file")
        pure 1
      else if given.has 'n' then pure 0
      else
        changeFiles (fun files =>
          match files.at? there with
          | some (.file old) => files.set there (.file { old with bytes := found.bytes })
          | _ => files)
        announce given (quoted source ++ " -> " ++ quoted target)
        pure 0
  | some _ => pure 0
  | none => do
      match ← newLocation target with
      | .error fault => do
          report ("cannot create regular file " ++ quoted target ++ ": " ++ fault.text)
          pure 1
      | .ok there => do
          changeFiles (fun files =>
            files.set there (.file ⟨found.bytes, found.isExecutable⟩))
          announce given (quoted source ++ " -> " ++ quoted target)
          pure 0

def copyDirectory (source target : String) (location : Location) : Program Nat := do
  match ← newLocation target with
  | .error fault =>
      if fault == .notDirectory && target.endsWith "/" then do
        changeFiles (fun files => files.add location .directory)
        pure 0
      else do
        report ("cannot create directory " ++ quoted target ++ ": " ++ fault.text)
        pure 1
  | .ok there => do
      let files := (← getThe Machine).files
      if (FileTree.below? location there).isSome then
        report ("cannot copy a directory, " ++ quoted source ++ ", into itself, " ++ quoted target)
        pure 1
      else
        match files.at? there with
        | some (.file _) => do
            report ("cannot overwrite non-directory " ++ quoted target ++ " with directory " ++
              quoted source)
            pure 1
        | _ => do
            changeFiles (fun files =>
              (files.branch location).foldl
                (fun files (way, found) => files.add (there ++ way) found)
                (if (files.at? there).isSome then files else files.set there .directory))
            pure 0

def cp : Program Nat :=
  withOptions { flags := "rRafpivnuTdLPHlsx", valued := "t", words := [("recursive", 'r', false),
    ("archive", 'a', false), ("force", 'f', false), ("verbose", 'v', false),
    ("no-clobber", 'n', false), ("target-directory", 't', true)] } 1 (fun given =>
    withTargets given (fun targets =>
      targets.sources.foldlM
        (fun status source => do
          let deep := given.has 'r' || given.has 'R' || given.has 'a'
          match ← entry source with
          | .error fault => do
              report ("cannot stat " ++ quoted source ++ ": " ++ fault.text)
              pure 1
          | .ok (location, .directory) =>
              if deep then
                pure (max status
                  (← copyDirectory source (destination targets source) location))
              else do
                report ("-r not specified; omitting directory " ++ quoted source)
                pure 1
          | .ok (location, found) =>
              pure (max status
                (← copyFile given source (destination targets source) location found)))
        0))

def mv : Program Nat :=
  withOptions { flags := "fivnuT", valued := "t", words := [("force", 'f', false),
    ("verbose", 'v', false), ("no-clobber", 'n', false), ("target-directory", 't', true)] } 1
    (fun given =>
    withTargets given (fun targets =>
      targets.sources.foldlM
        (fun status source => do
          let target := destination targets source
          match ← ownEntry source with
          | .error fault => do
              report ("cannot stat " ++ quoted source ++ ": " ++ fault.text)
              pure 1
          | .ok (location, found) =>
              match ← newLocation target with
              | .error fault =>
                  if found == .directory && fault == .notDirectory && target.endsWith "/" then
                    let there ← locate target
                    changeFiles (fun files =>
                      match there with
                      | .ok there =>
                          (files.branch location).foldl
                            (fun files (way, found) => files.add (there ++ way) found)
                            (files.remove location)
                      | .error _ => files)
                    pure status
                  else do
                    report ("cannot move " ++ quoted source ++ " to " ++ quoted target ++ ": " ++
                      fault.text)
                    pure 1
              | .ok there => do
                  let files := (← getThe Machine).files
                  let old := files.at? there
                  if there == location then
                    report (quoted source ++ " and " ++ quoted target ++ " are the same file")
                    pure 1
                  else if found == .directory && (FileTree.below? location there).isSome then
                    report ("cannot move " ++ quoted source ++ " to a subdirectory of itself, " ++
                      quoted target)
                    pure 1
                  else if found == .directory && old.isSome && old ≠ some .directory then
                    report ("cannot overwrite non-directory " ++ quoted target ++
                      " with directory " ++ quoted source)
                    pure 1
                  else if found ≠ .directory && old == some .directory then
                    report ("cannot overwrite directory " ++ quoted target ++
                      " with non-directory")
                    pure 1
                  else if given.has 'n' && old.isSome then pure status
                  else do
                    changeFiles (fun files =>
                      let moved := files.branch location
                      let without := (files.remove location).remove there
                      moved.foldl (fun files (way, found) => files.set (there ++ way) found)
                        without)
                    announce given ("renamed " ++ quoted source ++ " -> " ++ quoted target)
                    pure status)
        0))

def ln : Program Nat :=
  withOptions { flags := "sfnvTirLP", valued := "t", words := [("symbolic", 's', false),
    ("force", 'f', false), ("no-dereference", 'n', false)] } 1 (fun given => do
    let symbolic := given.has 's'
    let kind := if symbolic then "symbolic link " else "hard link "
    let targets : Targets ←
      match given.operands with
      | [only] => pure (⟨[only], ".", true⟩ : Targets)
      | operands => do
          let target := operands.getLastD ""
          let own ← ownEntry target
          let isLink := match own with | .ok (_, .link _) => given.has 'n' | _ => false
          let found ← entry target
          let isDirectory := match found with | .ok (_, .directory) => !isLink && !given.has 'T'
                                              | _ => false
          pure ⟨operands.dropLast, target, isDirectory⟩
    if given.operands.isEmpty then misused "missing file operand" 1
    else if targets.sources.length > 1 && !targets.isDirectory then do
      report ("target " ++ quoted targets.target ++ ": " ++ SystemFault.notDirectory.text)
      pure 1
    else
      targets.sources.foldlM
        (fun status source => do
          let target := destination targets source
          let found ← entry source
          match symbolic, found with
          | false, .error fault => do
              report ("failed to access " ++ quoted source ++ ": " ++ fault.text)
              pure 1
          | false, .ok (_, .directory) => do
              report (source ++ ": hard link not allowed for directory")
              pure 1
          | _, _ => do
              match ← newLocation target with
              | .error fault => do
                  report ("failed to create " ++ kind ++ quoted target ++ ": " ++ fault.text)
                  pure 1
              | .ok there => do
                  let old := (← getThe Machine).files.at? there
                  if old.isSome && (!given.has 'f' || old == some .directory) then
                    report ("failed to create " ++ kind ++ quoted target ++ ": File exists")
                    pure 1
                  else do
                    let made : FileEntry :=
                      match symbolic, found with
                      | false, .ok (_, found) => found
                      | _, _ => .link (Text.textOfOctets source)
                    changeFiles (fun files => files.set there made)
                    pure status)
        0)

/-! ### Permissions -/

/-- Whether a mode makes a file executable; nothing if it does not say so, and no answer at all
for what is no mode. -/
def executableBy? (mode : String) : Option (Option Bool) :=
  if !mode.isEmpty && mode.toList.all (fun c => '0' ≤ c && c ≤ '7') then
    some (some (mode.toList.reverse.take 3 |>.any (fun c => (c.toNat - 48) % 2 = 1)))
  else
    (mode.splitOn ",").foldl
      (fun answer part =>
        match answer with
        | none => none
        | some known =>
            let who := part.toList.takeWhile (fun c => ['u', 'g', 'o', 'a'].contains c)
            match part.toList.drop who.length with
            | sign :: letters =>
                if ['+', '-', '='].contains sign &&
                    letters.all (fun c => ['r', 'w', 'x', 'X', 's', 't', 'u', 'g', 'o'].contains c)
                then
                  let touches := letters.contains 'x'
                  if sign = '=' then some (some touches)
                  else if touches then some (some (sign = '+'))
                  else some known
                else none
            | [] => none)
      (some none)

def chmod : Program Nat := do
  let arguments := (← read).arguments
  let flags := arguments.takeWhile (fun argument =>
    ["-R", "-v", "-f", "-c", "--"].contains argument)
  match arguments.drop flags.length with
  | [] => misused "missing operand" 1
  | [mode] => misused ("missing operand after " ++ quoted mode) 1
  | mode :: paths =>
      match executableBy? mode with
      | none => misused ("invalid mode: " ++ quoted mode) 1
      | some change =>
          paths.foldlM
            (fun status path => do
              match ← entry path with
              | .error fault => do
                  if !flags.contains "-f" then
                    report ("cannot access " ++ quoted path ++ ": " ++ fault.text)
                  pure 1
              | .ok (location, .file file) => do
                  match change with
                  | some executable =>
                      changeFiles (fun files =>
                        files.set location (.file { file with executable := executable }))
                  | none => pure ()
                  pure status
              | .ok _ => pure status)
            0

/-! ### Names -/

def ordered (names : List String) : List String :=
  names.mergeSort (fun first second => !decide (second < first))

def namesIn (files : FileTree) (location : Location) : List String :=
  ordered ((files.namesIn location).map Text.octetsOf)

def ls : Program Nat :=
  withOptions { flags := "1aAdRrFpCxmtSUkhHLnbqQNGsifgo", words := [("all", 'a', false),
    ("almost-all", 'A', false), ("directory", 'd', false), ("reverse", 'r', false)] } 2
    (fun given => do
    let arrange (names : List String) : List String :=
      if given.has 'r' then (ordered names).reverse else ordered names
    let mark (entry : Option FileEntry) : String :=
      match entry with
      | some .directory => if given.has 'F' || given.has 'p' then "/" else ""
      | some (.link _) => if given.has 'F' then "@" else ""
      | some entry => if given.has 'F' && entry.isExecutable then "*" else ""
      | none => ""
    let shownIn (location : Location) : Program (List String) := do
      let files := (← getThe Machine).files
      let names := namesIn files location
      let kept :=
        if given.has 'a' then "." :: ".." :: names
        else if given.has 'A' then names
        else names.filter (fun name => !name.startsWith ".")
      pure ((arrange kept).map (fun name =>
        name ++ mark (files.at? (location ++ [Text.textOfOctets name]))))
    let operands := if given.operands.isEmpty then ["."] else given.operands
    let (plain, directories, status) ← (arrange operands).foldlM
      (fun (plain, directories, status) path => do
        match ← entry path with
        | .error fault => do
            report ("cannot access " ++ quoted path ++ ": " ++ fault.text)
            pure (plain, directories, 2)
        | .ok (location, .directory) =>
            if given.has 'd' then pure (plain ++ [path], directories, status)
            else pure (plain, directories ++ [(path, location)], status)
        | .ok (_, found) => pure (plain ++ [path ++ mark (some found)], directories, status))
      (([] : List String), ([] : List (String × Location)), 0)
    let files := (← getThe Machine).files
    let below (path : String) (location : Location) : List (String × Location) :=
      if given.has 'R' then
        let ways := (files.branch location).filterMap (fun (way, entry) =>
          if entry == .directory then some way else none)
        (ways.mergeSort FileTree.precedes).map (fun way =>
          (way.foldl (fun path name => path ++ "/" ++ Text.octetsOf name) path, location ++ way))
      else [(path, location)]
    let listed := directories.flatMap (fun (path, location) =>
      match below path location with
      | [] => [(path, location)]
      | found => if given.has 'R' && !(found.any (fun (_, there) => there == location)) then
          (path, location) :: found else found)
    let titled := listed.length + plain.length > 1 || operands.length > 1 || given.has 'R'
    let blocks ← listed.mapM (fun (path, location) => do
      let names ← shownIn location
      pure ((if titled then path ++ ":\n" else "") ++ textOfLines names))
    let plainBlock := if plain.isEmpty then [] else [textOfLines plain]
    print (String.intercalate "\n" (plainBlock ++ blocks)) status)

def readlink : Program Nat :=
  withOptions { flags := "fenmqsvz", words := [("canonicalize", 'f', false),
    ("no-newline", 'n', false)] } 1 (fun given => do
    let ending := if given.has 'n' then "" else "\n"
    if given.operands.isEmpty then misused "missing operand" 1
    else
      given.operands.foldlM
        (fun status path => do
          if given.has 'f' || given.has 'e' || given.has 'm' then
            match ← entry path with
            | .ok (location, _) => do
                let _ ← writeTo 1 (Text.octetsOf (pathOf location) ++ ending)
                pure status
            | .error _ => do
                match ← locate path with
                | .ok location =>
                    if given.has 'e' then pure 1
                    else do
                      let _ ← writeTo 1 (Text.octetsOf (pathOf location) ++ ending)
                      pure status
                | .error _ => pure 1
          else
            match ← ownEntry path with
            | .ok (_, .link target) => do
                let _ ← writeTo 1 (Text.octetsOf target ++ ending)
                pure status
            | _ => pure 1)
        0)

def realpath : Program Nat :=
  withOptions { flags := "emLPqsz", words := [("canonicalize-existing", 'e', false)] } 1
    (fun given => do
    if given.operands.isEmpty then misused "missing operand" 1
    else
      given.operands.foldlM
        (fun status path => do
          let found ←
            match ← entry path with
            | .ok (location, _) => pure (.ok location)
            | .error .notFound =>
                if given.has 'e' then pure (.error .notFound) else locate path
            | .error fault => pure (.error fault)
          match found with
          | .ok location => do
              let _ ← writeTo 1 (Text.octetsOf (pathOf location) ++ "\n")
              pure status
          | .error fault => do
              if !given.has 'q' then unreadable path fault
              pure 1)
        0)

def pwd : Program Nat :=
  withOptions { flags := "LP" } 1 (fun given => do
    let surroundings ← read
    let physical := Text.octetsOf (pathOf surroundings.directory)
    let logical := (surroundings.environment.lookup "PWD").getD ""
    let files := (← getThe Machine).files
    let valid :=
      match files.entry (Text.textOfOctets logical) with
      | .ok (location, _) => location == surroundings.directory && logical.startsWith "/"
      | .error _ => false
    print ((if given.has 'L' && valid then logical else physical) ++ "\n") 0)

def mktemp : Program Nat :=
  withOptions { flags := "dqut", valued := "p", words := [("directory", 'd', false),
    ("quiet", 'q', false), ("tmpdir", 'p', true)] } 1 (fun given => do
    let template := given.operands.headD "/tmp/tmp.XXXXXXXXXX"
    let marks := (template.toList.reverse.takeWhile (· = 'X')).length
    if marks < 3 then
      report ("too few X's in template " ++ quoted template)
      pure 1
    else
      let number ← Machine.newProgram
      let digits := toString number
      let name := String.ofList (template.toList.take (template.length - marks)) ++
        Directive.repeated (marks - digits.length) 'a' ++ digits
      match ← locate name with
      | .error fault => do
          report ("failed to create " ++ (if given.has 'd' then "directory" else "file") ++
            " via template " ++ quoted template ++ ": " ++ fault.text)
          pure 1
      | .ok location => do
          changeFiles (fun files =>
            files.set location (if given.has 'd' then .directory else .file ⟨[], false⟩))
          print (name ++ "\n") 0)

end AssociationCheck.Shell.Tool
