/-
The permissions that new files lack, and the limits of what programs may use.
-/

import AssociationCheck.Shell.Builtin.Arguments

namespace AssociationCheck.Shell

namespace Execution

def octalText (value : Nat) : String :=
  let digits := String.ofList (Nat.toDigits 8 value)
  String.ofList (List.replicate (4 - digits.length) '0') ++ digits

def permissionLetters (bits : Nat) : String :=
  (if bits / 4 % 2 = 1 then "r" else "") ++ (if bits / 2 % 2 = 1 then "w" else "") ++
    (if bits % 2 = 1 then "x" else "")

/-- The permissions that new files lack for one kind of user, changed as one part of a text says. -/
def lackingBy? (who : Char) (lacking : Nat) (part : String) : Option Nat :=
  let whom := part.toList.takeWhile (fun c => ['u', 'g', 'o', 'a'].contains c)
  match part.toList.drop whom.length with
  | sign :: letters =>
      if !(['=', '+', '-'].contains sign) ||
          !letters.all (['r', 'w', 'x', 'X', 's', 't'].contains ·) then
        none
      else if whom.isEmpty || whom.contains 'a' || whom.contains who then
        let bits := (if letters.contains 'r' then 4 else 0) +
          (if letters.contains 'w' then 2 else 0) + (if letters.contains 'x' then 1 else 0)
        if sign = '=' then some (7 - bits)
        else if sign = '+' then some (lacking &&& (7 - bits))
        else some (lacking ||| bits)
      else some lacking
  | [] => none

/-- The permissions that new files lack, changed as a text says. -/
def maskBy? (mask : Nat) (text : String) : Option Nat := do
  let parts := text.splitOn ","
  let user ← parts.foldlM (lackingBy? 'u') (mask / 64)
  let group ← parts.foldlM (lackingBy? 'g') (mask / 8 % 8)
  let others ← parts.foldlM (lackingBy? 'o') (mask % 8)
  pure (64 * user + 8 * group + others)

def setMask (arguments : List String) : Execution Nat := do
  let (flags, words) ← flagsOf "Sp" arguments
  let mask := (← process).mask
  match words with
  | [] =>
      if flags.contains 'S' then
        let kept := 511 - mask
        say ("u=" ++ permissionLetters (kept / 64) ++ ",g=" ++ permissionLetters (kept / 8 % 8) ++
          ",o=" ++ permissionLetters (kept % 8) ++ "\n")
      else say (octalText mask ++ "\n")
  | text :: _ =>
      if text.toList.head?.map Char.isDigit == some true then
        if text.toList.all (fun c => '0' ≤ c && c ≤ '7') then do
          let value := text.toList.foldl (fun value c => 8 * value + (c.toNat - 48)) 0
          changeProcess (fun process => { process with mask := value % 512 })
          pure 0
        else if ← isExtended then fail (text ++ ": octal number out of range")
        else fail ("Illegal number: " ++ text)
      else
        match maskBy? mask text with
        | some changed => do
            changeProcess (fun process => { process with mask := changed })
            pure 0
        | none =>
            if ← isExtended then
              fail (between (text.take 1).copy ++ ": invalid symbolic mode operator")
            else fail ("Illegal mode: " ++ text)

def setLimit (arguments : List String) : Execution Nat := do
  let words := arguments.filter (fun text => !text.startsWith "-")
  match words with
  | [] => say "unlimited\n"
  | text :: _ =>
      if text = "unlimited" || text.toNat?.isSome then pure 0 else fail "bad number"

end Execution

end AssociationCheck.Shell
