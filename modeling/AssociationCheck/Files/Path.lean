/-
Paths.

A path is a text of components between slashes; one that starts with a slash is absolute. Paths
are joined and shortened as texts: nothing in them is looked up or resolved.
-/

namespace AssociationCheck.Path

def isAbsolute (path : String) : Bool := path.toList.head? == some '/'

def join (directory path : String) : String :=
  if isAbsolute path || directory.isEmpty then path
  else if directory.toList.getLast? == some '/' then directory ++ path
  else directory ++ "/" ++ path

/-- The characters of a path, last one first, without slashes and components that are a single
dot behind a slash, down to its last proper component. -/
def dropTrailing : List Char → List Char
  | '/' :: rest => dropTrailing rest
  | '.' :: '/' :: rest => dropTrailing ('/' :: rest)
  | reversed => reversed

def ofReversed (absolute : Bool) (reversed : List Char) : String :=
  if absolute && reversed.isEmpty then "/" else String.ofList reversed.reverse

def parent? (path : String) : Option String :=
  let absolute := isAbsolute path
  match dropTrailing path.toList.reverse with
  | [] => none
  | reversed =>
      some (ofReversed absolute (dropTrailing (reversed.dropWhile (fun c => c != '/'))))

/-- The last component of a path ends in a point and the extension, with something before. -/
def hasExtension (name extension : String) : Bool :=
  let ending := ("." ++ extension).toList
  let chars := name.toList
  decide (ending.length < chars.length) && chars.drop (chars.length - ending.length) == ending

end AssociationCheck.Path
