/-
The arguments of the commands of a shell itself.

Some of them are numbers, and options with a letter may stand before the others. What is wrong
with them is a fault.
-/

import AssociationCheck.Power
import AssociationCheck.Shell.Condition
import AssociationCheck.Shell.Expansion

namespace AssociationCheck.Shell

namespace Execution

def usages : List (String × String) :=
  [ ("alias", "[-p] [name[=value] ... ]"), ("cd", "[-L|[-P [-e]] [-@]] [dir]"),
    ("declare", "[-aAfFgiIlnrtux] [name[=value] ...] or declare -p [-aAfFilnrtux] [name ...]"),
    ("export", "[-fn] [name[=value] ...] or export -p"), ("getopts", "optstring name [arg ...]"),
    ("hash", "[-lr] [-p pathname] [-dt] [name ...]"),
    ("kill", "[-s sigspec | -n signum | -sigspec] pid | jobspec ... or kill -l [sigspec]"),
    ("local", "[option] name[=value] ..."),
    ("mapfile", "[-d delim] [-n count] [-O origin] [-s count] [-t] [-u fd] [-C callback] " ++
      "[-c quantum] [array]"),
    ("printf", "[-v var] format [arguments]"), ("pwd", "[-LP]"),
    ("read", "[-ers] [-a array] [-d delim] [-i text] [-n nchars] [-N nchars] [-p prompt] " ++
      "[-t timeout] [-u fd] [name ...]"),
    ("readonly", "[-aAf] [name[=value] ...] or readonly -p"),
    ("set", "[-abefhkmnptuvxBCEHPT] [-o option-name] [--] [-] [arg ...]"),
    ("shopt", "[-pqsu] [-o] [optname ...]"), ("trap", "[-lp] [[arg] signal_spec ...]"),
    ("type", "[-afptP] name [name ...]"),
    ("typeset", "[-aAfFgiIlnrtux] name[=value] ... or typeset -p [-aAfFilnrtux] [name ...]"),
    ("umask", "[-p] [-S] [mode]"), ("unset", "[-f] [-v] [-n] [name ...]"),
    ("wait", "[-fn] [-p var] [id ...]") ]

def showUsage : Execution Unit := do
  let name := ((← process).blamed).getD ""
  match usages.lookup name with
  | some usage => writeError (name ++ ": usage: " ++ name ++ " " ++ usage ++ "\n")
  | none => pure ()

def misuse {α : Type} (text : String) : Execution α := do
  report text
  showUsage
  throw (.fault 2)

def numberArgument (least : Int) (text : String) : Execution Nat := do
  match Condition.number? text with
  | some value =>
      if value < least || value > twoTo 31 - 1 then fail ("Illegal number: " ++ text)
      else pure value.toNat
  | none =>
      if ← isExtended then fail (text ++ ": numeric argument required")
      else fail ("Illegal number: " ++ text)

/-- The letters of options before the other arguments; each has to be a known one. -/
def flagsOf (known : String) : List String → Execution (List Char × List String)
  | [] => pure ([], [])
  | argument :: rest =>
      match argument.toList with
      | '-' :: c :: letters => do
          if argument = "--" then pure ([], rest)
          else
            match (c :: letters).find? (fun c => !known.toList.contains c) with
            | some c =>
                if ← isExtended then misuse ("-" ++ c.toString ++ ": invalid option")
                else fail ("Illegal option -" ++ c.toString)
            | none => do
                let (more, others) ← flagsOf known rest
                pure (c :: letters ++ more, others)
      | _ => pure ([], argument :: rest)

def say (text : String) : Execution Nat := do
  let blamed := (← process).blamed.getD ""
  if ← writeTo 1 text then pure 0
  else if ← isExtended then warn 1 "write error: Bad file descriptor"
  else warn 1 (blamed ++ ": I/O error")

/-- A text between quotes from which the shell reads it again. -/
def requoted (text : String) : String :=
  "'" ++ text.replace "'" "'\"'\"'" ++ "'"

end Execution

end AssociationCheck.Shell
