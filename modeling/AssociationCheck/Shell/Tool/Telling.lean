/-
Programs that tell about the system and its files.

They say who runs them and on what, where programs are, and what is known of a file.
-/

import AssociationCheck.Shell.Tool.Launching
import AssociationCheck.Shell.Tool.Words

namespace AssociationCheck.Shell

namespace Tool

open Program

/-! ### The system -/

def tellLine (text : String) : Program Nat :=
  withOptions {} 1 (fun given => do
    match given.operands with
    | [] => print (text ++ "\n") 0
    | extra :: _ => misused ("extra operand " ++ quoted extra) 1)

def tty : Program Nat :=
  withOptions { flags := "s" } 2 (fun given => do
    match given.operands with
    | extra :: _ => misused ("extra operand " ++ quoted extra) 2
    | [] => print (if given.has 's' then "" else "not a tty\n") 1)

def systemFacts : List (Char × String) :=
  [('s', "Linux"), ('n', "localhost"), ('r', "6.1.0"), ('v', "#1 SMP"), ('m', "x86_64"),
    ('o', "GNU/Linux")]

def uname : Program Nat :=
  withOptions { flags := "asnrvmopi", words := [("all", 'a', false), ("kernel-name", 's', false),
    ("nodename", 'n', false), ("machine", 'm', false), ("operating-system", 'o', false)] } 1
    (fun given => do
    match given.operands with
    | extra :: _ => misused ("extra operand " ++ quoted extra) 1
    | [] =>
        let asked := systemFacts.filter (fun (letter, _) => given.has letter || given.has 'a')
        let facts := if asked.isEmpty then systemFacts.take 1 else asked
        print (String.intercalate " " (facts.map Prod.snd) ++ "\n") 0)

/-- The second that it always is here. -/
def present : Int := 1763500000

def calendarDay (days : Int) : Int × Int × Int :=
  let shifted := days + 719468
  let era := shifted.fdiv 146097
  let ofEra := shifted - era * 146097
  let yearOfEra := (ofEra - ofEra / 1460 + ofEra / 36524 - ofEra / 146096) / 365
  let dayOfYear := ofEra - (365 * yearOfEra + yearOfEra / 4 - yearOfEra / 100)
  let part := (5 * dayOfYear + 2) / 153
  let month := if part < 10 then part + 3 else part - 9
  (yearOfEra + era * 400 + (if month ≤ 2 then 1 else 0), month,
    dayOfYear - (153 * part + 2) / 5 + 1)

def dayNames : List String :=
  ["Sunday", "Monday", "Tuesday", "Wednesday", "Thursday", "Friday", "Saturday"]

def monthNames : List String :=
  ["January", "February", "March", "April", "May", "June", "July", "August", "September",
    "October", "November", "December"]

def twoDigits (value : Int) : String := (if value < 10 then "0" else "") ++ toString value

def dateText (second : Int) : List Char → String
  | '%' :: c :: rest =>
      let (year, month, day) := calendarDay (second.fdiv 86400)
      let ofDay := second.fmod 86400
      let clock := String.intercalate ":"
        ([ofDay / 3600, ofDay / 60 % 60, ofDay % 60].map twoDigits)
      let weekday := (second.fdiv 86400 + 4).fmod 7
      let dayName := dayNames[weekday.toNat]?.getD ""
      let monthName := monthNames[(month - 1).toNat]?.getD ""
      let short (name : String) : String := String.ofList (name.toList.take 3)
      let text :=
        match c with
        | 's' => toString second
        | 'Y' => toString year
        | 'y' => twoDigits (year % 100)
        | 'm' => twoDigits month
        | 'd' => twoDigits day
        | 'e' => (if day < 10 then " " else "") ++ toString day
        | 'H' => twoDigits (ofDay / 3600)
        | 'M' => twoDigits (ofDay / 60 % 60)
        | 'S' => twoDigits (ofDay % 60)
        | 'N' => "000000000"
        | 'F' => toString year ++ "-" ++ twoDigits month ++ "-" ++ twoDigits day
        | 'D' => twoDigits month ++ "/" ++ twoDigits day ++ "/" ++ twoDigits (year % 100)
        | 'T' => clock
        | 'A' => dayName
        | 'a' => short dayName
        | 'B' => monthName
        | 'b' => short monthName
        | 'h' => short monthName
        | 'u' => toString (if weekday = 0 then 7 else weekday)
        | 'w' => toString weekday
        | 'Z' => "UTC"
        | 'z' => "+0000"
        | 'n' => "\n"
        | 't' => "\t"
        | '%' => "%"
        | c => "%" ++ c.toString
      text ++ dateText second rest
  | c :: rest => c.toString ++ dateText second rest
  | [] => ""

def date : Program Nat :=
  withOptions { flags := "uR", valued := "dr", words := [("utc", 'u', false),
    ("universal", 'u', false), ("date", 'd', true)] } 1 (fun given => do
    let format := (given.operands.find? (·.startsWith "+")).map (fun operand =>
      String.ofList (operand.toList.drop 1))
    let second? : Option Int :=
      match given.value? 'd' with
      | none => some present
      | some text =>
          if text.startsWith "@" then (String.ofList (text.toList.drop 1)).toInt?
          else if text = "now" || text.isEmpty then some present
          else none
    match second?, given.operands.find? (fun operand => !operand.startsWith "+") with
    | none, _ => do
        report ("invalid date " ++ quoted ((given.value? 'd').getD ""))
        pure 1
    | _, some operand => do
        report ("invalid date " ++ quoted operand)
        pure 1
    | some second, none =>
        print (dateText second (format.getD "%a %b %e %T %Z %Y").toList ++ "\n") 0)

def userName : String := "root"

def id : Program Nat :=
  withOptions { flags := "ugGnrz", words := [("user", 'u', false), ("group", 'g', false),
    ("groups", 'G', false), ("name", 'n', false), ("real", 'r', false)] } 1 (fun given => do
    match given.operands.find? (fun user => user ≠ userName && user ≠ "0") with
    | some user => do
        report (quoted user ++ ": no such user")
        pure 1
    | none =>
        if given.has 'u' || given.has 'g' || given.has 'G' then
          print (if given.has 'n' then userName ++ "\n" else "0\n") 0
        else if given.has 'n' || given.has 'r' then do
          report "printing only names or real IDs requires -u, -g, or -G"
          pure 1
        else print "uid=0(root) gid=0(root) groups=0(root)\n" 0)

def groups : Program Nat :=
  withOptions {} 1 (fun given => do
    match given.operands.find? (· ≠ userName) with
    | some user => do
        report (quoted user ++ ": no such user")
        pure 1
    | none =>
        if given.operands.isEmpty then print (userName ++ "\n") 0
        else print (textOfLines (given.operands.map (fun user => user ++ " : " ++ userName))) 0)

def which : Program Nat := do
  let arguments := (← read).arguments
  let all := arguments.head? == some "-a"
  let names := if all then arguments.drop 1 else arguments
  let path := ((← read).environment.lookup "PATH").getD ""
  let files := (← getThe Machine).files
  let own := (← read).directory
  let isThere (path : String) : Bool :=
    match files.entry (Machine.absolute own path) with
    | .ok (_, .directory) => false
    | .ok (_, entry) => entry.isExecutable
    | .error _ => false
  let found := names.map (fun name =>
    let paths :=
      if name.toList.contains '/' then [name]
      else
        (path.splitOn ":").map (fun directory => (if directory.isEmpty then "." else directory) ++
          "/" ++ name)
    let there := paths.filter isThere
    if all then there else there.take 1)
  let missing := names.isEmpty || found.any List.isEmpty
  print (textOfLines found.flatten) (if missing then 1 else 0)

/-! ### Files -/

def factsOf : FileEntry → String × Char × Nat × Nat
  | .directory => ("directory", 'd', 755, 4096)
  | .link target => ("symbolic link", 'l', 777, (Text.octetsOf target).length)
  | .device _ => ("character special file", 'c', 666, 0)
  | .program _ => ("regular file", '-', 755, 0)
  | .file file =>
      (if file.bytes.isEmpty then "regular empty file" else "regular file", '-',
        if file.executable then 755 else 644, file.bytes.length)

def modeText (kind : Char) (mode : Nat) : String :=
  let part (digit : Nat) : List Char :=
    [if digit / 4 % 2 = 1 then 'r' else '-', if digit / 2 % 2 = 1 then 'w' else '-',
      if digit % 2 = 1 then 'x' else '-']
  String.ofList (kind :: part (mode / 100 % 10) ++ part (mode / 10 % 10) ++ part (mode % 10))

def statText (path : String) (entry : FileEntry) : List Char → List Char
  | '%' :: c :: rest =>
      let (kind, letter, mode, size) := factsOf entry
      let text :=
        match c with
        | 'n' => path
        | 'N' => quoted path
        | 's' => toString size
        | 'F' => kind
        | 'a' => toString mode
        | 'A' => modeText letter mode
        | 'u' => "0"
        | 'g' => "0"
        | 'U' => userName
        | 'G' => userName
        | 'h' => "1"
        | '%' => "%"
        | c => "?" ++ c.toString
      text.toList ++ statText path entry rest
  | c :: rest => c :: statText path entry rest
  | [] => []

def stat : Program Nat :=
  withOptions { flags := "Lft", valued := "c", words := [("format", 'c', true),
    ("printf", 'p', true), ("dereference", 'L', false)] } 1 (fun given => do
    if given.operands.isEmpty then misused "missing operand" 1
    else
      given.operands.foldlM
        (fun status path => do
          let found ← if given.has 'L' then entry path else ownEntry path
          match found with
          | .error fault => do
              report ("cannot statx " ++ quoted path ++ ": " ++ fault.text)
              pure 1
          | .ok (_, entry) => do
              match given.value? 'c', given.value? 'p' with
              | some format, _ => do
                  print (String.ofList (statText path entry format.toList) ++ "\n") status
              | none, some format => do
                  let (format, _) := FormatStyle.system.plain.expand format
                  print (String.ofList (statText path entry format.toList)) status
              | none, none => print ("  File: " ++ path ++ "\n") status)
        0)

/-! ### Numbers -/

/-- Writes lines in an order of which nothing is known: here, as they are. -/
def shuf : Program Nat :=
  withOptions { flags := "erz", valued := "nio", words := [("echo", 'e', false),
    ("head-count", 'n', true), ("input-range", 'i', true)] } 1 (fun given => do
    let ends := ((given.value? 'i').getD "").splitOn "-"
    let cut (lines : List String) : List String :=
      match (given.value? 'n').bind String.toNat? with
      | some count => lines.take count
      | none => lines
    match ends.mapM String.toInt? with
    | some [first, last] =>
        print (textOfLines (cut ((row first 1 last).map (fun (number : Int) => toString number)))) 0
    | _ =>
        if given.has 'e' then print (textOfLines (cut given.operands)) 0
        else
          match given.operands with
          | _ :: extra :: _ => misused ("extra operand " ++ quoted extra) 1
          | operands =>
              eachText [operands.headD "-"] unreadable (fun _ text => do
                let _ ← writeTo 1 (textOfLines (cut ((linesOf text).map bareLine)))
                pure ()))

/-- The prime factors of a number, none of them below a divisor; a factor that is not taken apart
in so many steps counts as prime. -/
def factorsFrom : Nat → Nat → Nat → List Nat
  | 0, _, number => [number]
  | fuel + 1, divisor, number =>
      if number < 2 then []
      else if number < divisor * divisor then [number]
      else if number % divisor = 0 then divisor :: factorsFrom fuel divisor (number / divisor)
      else factorsFrom fuel (divisor + 1) number

def factor : Program Nat :=
  withOptions { flags := "h" } 1 (fun given => do
    let words ← if given.operands.isEmpty then do
        let text := ((← readInput).toOption).getD ""
        pure (wordsIn (text.length + 1) text.toList none none)
      else pure given.operands
    words.foldlM
      (fun status word => do
        match word.toNat? with
        | none => do
            report (quoted word ++ " is not a valid positive integer")
            pure 1
        | some number =>
            let factors := factorsFrom 200000 2 number
            print (String.join ((toString number ++ ":") :: factors.map (fun factor =>
              " " ++ toString factor)) ++ "\n") status)
      0)

end Tool

end AssociationCheck.Shell
