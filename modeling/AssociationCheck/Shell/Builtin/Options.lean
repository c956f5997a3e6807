/-
Options of a shell, and the arguments of its script, which are set together.
-/

import AssociationCheck.Shell.Builtin.Variables

namespace AssociationCheck.Shell

namespace Execution

/-- The names of options and their letters; of those that only have a name the letter is a sign by
which they are kept. -/
def optionNames (dialect : Dialect) : List (String × Char) :=
  match dialect with
  | .standard =>
      [ ("errexit", 'e'), ("noglob", 'f'), ("ignoreeof", 'I'), ("interactive", 'i'),
        ("monitor", 'm'), ("noexec", 'n'), ("stdin", 's'), ("xtrace", 'x'), ("verbose", 'v'),
        ("vi", 'V'), ("emacs", 'E'), ("noclobber", 'C'), ("allexport", 'a'), ("notify", 'b'),
        ("nounset", 'u'), ("privileged", 'p'), ("nolog", 'L'), ("debug", 'D') ]
  | .extended =>
      [ ("allexport", 'a'), ("braceexpand", 'B'), ("emacs", '1'), ("errexit", 'e'),
        ("errtrace", 'E'), ("functrace", 'T'), ("hashall", 'h'), ("histexpand", 'H'),
        ("history", '2'), ("ignoreeof", '3'), ("interactive-comments", '4'), ("keyword", 'k'),
        ("monitor", 'm'), ("noclobber", 'C'), ("noexec", 'n'), ("noglob", 'f'), ("nolog", '5'),
        ("notify", 'b'), ("nounset", 'u'), ("onecmd", 't'), ("physical", 'P'), ("pipefail", 'q'),
        ("posix", '6'), ("privileged", 'p'), ("verbose", 'v'), ("vi", '7'), ("xtrace", 'x') ]

def optionLettersKnown (dialect : Dialect) : List Char :=
  match dialect with
  | .standard =>
      ['e', 'f', 'I', 'i', 'm', 'n', 's', 'x', 'v', 'V', 'E', 'C', 'a', 'b', 'u', 'p']
  | .extended =>
      ['a', 'b', 'e', 'f', 'h', 'k', 'm', 'n', 'p', 't', 'u', 'v', 'x', 'B', 'C', 'E', 'H', 'P',
        'T']

def setOption (letter : Char) (on : Bool) : Execution Unit :=
  changeProcess (fun process =>
    let others := process.options.filter (· ≠ letter)
    { process with options := if on then letter :: others else others })

def setNamedOption (name : String) (on : Bool) : Execution Unit := do
  match (optionNames (← process).dialect).lookup name with
  | some letter => setOption letter on
  | none =>
      if ← isExtended then do
        report (name ++ ": invalid option name")
        throw (.fault 2)
      else fail ("Illegal option -o " ++ name)

/-- Reads options among arguments; gives the other ones, and whether there was a sign that none
follow. -/
def readOptions : Nat → List String → Execution (List String × Bool)
  | 0, arguments => pure (arguments, false)
  | _, [] => pure ([], false)
  | fuel + 1, argument :: rest => do
      let sign := argument.toList.head?
      let letters := argument.toList.drop 1
      if argument = "--" then pure (rest, true)
      else if argument = "-" then do
        setOption 'x' false
        setOption 'v' false
        pure (rest, !rest.isEmpty)
      else if (sign == some '-' || sign == some '+') && !letters.isEmpty then
        let on := sign == some '-'
        let rest ← letters.foldlM
          (fun rest letter => do
            if letter = 'o' then
              match rest with
              | name :: others => do
                  setNamedOption name on
                  pure others
              | [] => do
                  listOptions on
                  pure []
            else if (optionLettersKnown (← process).dialect).contains letter then do
              setOption letter on
              pure rest
            else if ← isExtended then do
              misuse (argument ++ ": invalid option")
            else fail ("Illegal option " ++ (if on then "-" else "+") ++ letter.toString))
          rest
        readOptions fuel rest
      else pure (argument :: rest, false)
where
  listOptions (readable : Bool) : Execution Unit := do
    let process ← process
    let extended := process.dialect == .extended
    let width := if extended then 15 else 16
    let lines := (optionNames process.dialect).map (fun (name, letter) =>
      let on := process.options.contains letter
      if readable then
        name ++ Directive.repeated (width - name.length) ' ' ++ (if extended then "\t" else "") ++
          (if on then "on" else "off")
      else "set " ++ (if on then "-o " else "+o ") ++ name)
    let title := if readable && !extended then ["Current option settings"] else []
    let _ ← writeTo 1 (textOfLines (title ++ lines))
    pure ()

def setArguments (arguments : List String) : Execution Nat := do
  if arguments.isEmpty then
    let lines := (← orderedVariables).filterMap (fun (name, held) =>
      held.value.map (fun value => name ++ "=" ++ requoted value))
    say (textOfLines lines)
  else
    let (rest, given) ← readOptions (arguments.length + 1) arguments
    if given || !rest.isEmpty then
      changeProcess (fun process =>
        { process with arguments := rest, optionPlace := 1, letterPlace := 1 })
    pure 0

/-! ### Switches of the larger language -/

def switchNames : List String :=
  ["assoc_expand_once", "autocd", "cdable_vars", "cdspell", "checkhash", "checkjobs",
    "checkwinsize", "cmdhist", "compat31", "compat32", "compat40", "compat41", "compat42",
    "compat43", "compat44", "complete_fullquote", "direxpand", "dirspell", "dotglob", "execfail",
    "expand_aliases", "extdebug", "extglob", "extquote", "failglob", "force_fignore",
    "globasciiranges", "globskipdots", "globstar", "gnu_errfmt", "histappend", "histreedit",
    "histverify", "hostcomplete", "huponexit", "inherit_errexit", "interactive_comments",
    "lastpipe", "lithist", "localvar_inherit", "localvar_unset", "login_shell", "mailwarn",
    "no_empty_cmd_completion", "nocaseglob", "nocasematch", "noexpand_translation", "nullglob",
    "patsub_replacement", "progcomp", "progcomp_alias", "promptvars", "restricted_shell",
    "shift_verbose", "sourcepath", "varredir_close", "xpg_echo"]

def setSwitches (arguments : List String) : Execution Nat := do
  let (flags, names) ← flagsOf "pqsuo" arguments
  let switches := (← process).switches
  let line (name : String) : String :=
    let on := switches.contains name
    if flags.contains 'p' then "shopt " ++ (if on then "-s " else "-u ") ++ name
    else name ++ Directive.repeated (15 - name.length) ' ' ++ "\t" ++ (if on then "on" else "off")
  if names.isEmpty then
    let shown := switchNames.filter (fun name =>
      if flags.contains 's' then switches.contains name
      else if flags.contains 'u' then !switches.contains name
      else true)
    say (textOfLines (shown.map line))
  else
    names.foldlM
      (fun status name => do
        if !switchNames.contains name then warn 1 (name ++ ": invalid shell option name")
        else if flags.contains 's' || flags.contains 'u' then do
          changeProcess (fun process =>
            let others := process.switches.filter (· != name)
            { process with switches := if flags.contains 's' then name :: others else others })
          pure status
        else do
          if !flags.contains 'q' then let _ ← say (line name ++ "\n")
          pure (if switches.contains name then status else 1))
      0

end Execution

end AssociationCheck.Shell
