/-
Numbers of a JSON text.

A number is kept as it is written. Its value is an integer when it has neither a fraction nor an
exponent and fits 64 bits, and a floating point number otherwise.
-/

import AssociationCheck.Power
import AssociationCheck.Text.Decimal

namespace AssociationCheck.Json

structure Exponent where
  negative : Bool
  digits : List Nat
  deriving DecidableEq, Repr

structure Number where
  negative : Bool
  whole : List Nat
  fraction : Option (List Nat)
  exponent : Option Exponent
  deriving DecidableEq, Repr

inductive NumberValue
  | natural (value : Nat)
  /-- An integer below zero, by its magnitude. -/
  | negative (magnitude : Nat)
  | floating (value : Float)
  /-- Beyond every floating point number. -/
  | outOfRange
  deriving Repr

namespace Number

def digitsOf (value : Nat) : List Nat :=
  (Nat.toDigits 10 value).map (fun c => c.toNat - '0'.toNat)

def ofNat (value : Nat) : Number := ⟨false, digitsOf value, none, none⟩

def valueOfDigits (digits : List Nat) : Nat :=
  digits.foldl (fun value digit => 10 * value + digit) 0

def significandLimit : Nat := twoTo 64 - 1

/-- Takes over digits while the significand stays within its limit; also says how many digits
were left over. -/
def takeDigits (significand : Nat) : List Nat → Nat × Nat
  | [] => (significand, 0)
  | digit :: rest =>
      let grown := 10 * significand + digit
      if grown ≤ significandLimit then takeDigits grown rest else (significand, rest.length + 1)

/-- Scales a significand by a power of ten: one multiplication or division, and for powers beyond
the floating point numbers at most a few more. -/
def scale (power : Int) : Nat → Float → Option Float
  | 0, value => some value
  | rounds + 1, value =>
      if power.natAbs ≤ 308 then
        let factor := Float.ofScientific 1 false power.natAbs
        if power ≥ 0 then
          let scaled := value * factor
          if scaled.isInf then none else some scaled
        else some (value / factor)
      else if value == 0.0 then some value
      else if power ≥ 0 then none
      else scale (power + 308) rounds (value / Float.ofScientific 1 false 308)

def exponentLimit : Nat := twoTo 31 - 1

def floatingValue (number : Number) : NumberValue :=
  let (wholePart, wholeLeft) := takeDigits 0 number.whole
  let fraction := number.fraction.getD []
  let (significand, fractionLeft) :=
    takeDigits wholePart fraction
  let taken := fraction.length - fractionLeft
  let power : Int := (wholeLeft : Int) - (taken : Int)
  let sign (value : Float) : NumberValue := .floating (if number.negative then -value else value)
  let scaled (power : Int) : NumberValue :=
    match scale power 8 (Float.ofNat significand) with
    | some value => sign value
    | none => .outOfRange
  match number.exponent with
  | none => scaled power
  | some exponent =>
      let shift := valueOfDigits exponent.digits
      if shift > exponentLimit then
        if significand ≠ 0 && !exponent.negative then .outOfRange else sign 0.0
      else if exponent.negative then scaled (power - shift)
      else scaled (power + shift)

/-- The value of a number. Minus zero is a floating point number. -/
def value (number : Number) : NumberValue :=
  match number.fraction, number.exponent with
  | none, none =>
      let magnitude := valueOfDigits number.whole
      if number.negative then
        if 0 < magnitude && magnitude ≤ twoTo 63 then .negative magnitude else number.floatingValue
      else if magnitude ≤ significandLimit then .natural magnitude
      else number.floatingValue
  | _, _ => number.floatingValue

/-- Floating point numbers stand positionally from 10⁻⁵ to below 10¹⁶. -/
def floatForm : Text.FloatForm := ⟨-5, 15⟩

def floatText (value : Float) : String := floatForm.text value

end Number

end AssociationCheck.Json
