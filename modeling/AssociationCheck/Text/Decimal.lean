/-
The shortest decimal that reads back as a binary floating point number.

A finite number other than zero is a significand times a power of two. The decimals that read
back as it lie around it, half way to its two neighbours. Of the decimals with the fewest digits
among them, the one nearest to the number is taken.
-/

import AssociationCheck.Power

namespace AssociationCheck.Text

structure Binary where
  significand : Nat
  exponent : Int
  deriving DecidableEq, Repr

structure Decimal where
  digits : Nat
  exponent : Int
  deriving DecidableEq, Repr

namespace Binary

/-- The magnitude of a finite number by its 64 bits: eleven bits of exponent above 52 bits of
significand, whose leading bit is not kept unless the exponent is least. -/
def ofBits (bits : UInt64) : Binary :=
  let exponent : Nat := (bits.toNat / twoTo 52) % twoTo 11
  let fraction : Nat := bits.toNat % twoTo 52
  if exponent = 0 then ⟨fraction, -1074⟩ else ⟨fraction + twoTo 52, (exponent : Int) - 1075⟩

/-- A quarter of the significand's unit, counted in steps of a power of ten, as a fraction. -/
def quarter (number : Binary) (power : Int) : Nat × Nat :=
  (twoTo number.exponent.toNat * tenTo (-power).toNat,
    4 * twoTo (-number.exponent).toNat * tenTo power.toNat)

def leadingPower (number : Binary) : Int :=
  let powers := (List.range 640).map (fun (place : Nat) => 310 - (place : Int))
  let reaches (power : Int) : Bool :=
    let (up, down) := number.quarter power
    decide (down ≤ 4 * number.significand * up)
  (powers.find? reaches).getD 0

/-- The decimal in steps of a power of ten that reads back as the number and is nearest to it. -/
def onGrid? (number : Binary) (power : Int) : Option Decimal :=
  let (up, down) := number.quarter power
  let place := 4 * number.significand * up
  let below := if number.significand = twoTo 52 && number.exponent > -1074 then 1 else 2
  let least := (4 * number.significand - below) * up
  let greatest := (4 * number.significand + 2) * up
  let readsBack (steps : Nat) : Bool :=
    let value := steps * down
    if number.significand % 2 = 0 then decide (least ≤ value) && decide (value ≤ greatest)
    else decide (least < value) && decide (value < greatest)
  let floor := place / down
  let remainder := place % down
  match readsBack floor, readsBack (floor + 1) with
  | true, true =>
      let nearer :=
        if 2 * remainder < down || (2 * remainder = down && floor % 2 = 0) then floor
        else floor + 1
      some ⟨nearer, power⟩
  | true, false => some ⟨floor, power⟩
  | false, true => some ⟨floor + 1, power⟩
  | false, false => none

/-- The shortest decimal of a number other than zero. Seventeen digits are always enough. -/
def shortest (number : Binary) : Decimal :=
  let leading := number.leadingPower
  let powers := (List.range 17).map (fun (more : Nat) => leading - (more : Int))
  (powers.findSome? number.onGrid?).getD ⟨number.significand, 0⟩

end Binary

namespace Decimal

/-- The decimal without zeros at its end; at most so many of them are taken away. -/
def withoutTrailingZeros : Nat → Decimal → Decimal
  | 0, decimal => decimal
  | zeros + 1, decimal =>
      if decimal.digits ≠ 0 && decimal.digits % 10 = 0 then
        withoutTrailingZeros zeros ⟨decimal.digits / 10, decimal.exponent + 1⟩
      else decimal

end Decimal

/-- How a floating point number is written: positionally while its leading digit stands between
two powers of ten, and in scientific form otherwise. -/
structure FloatForm where
  leastPositional : Int
  greatestPositional : Int
  deriving DecidableEq, Repr

namespace FloatForm

def withPoint (digits : String) (before : Int) : String :=
  let count : Int := digits.length
  if before ≤ 0 then "0." ++ String.ofList (List.replicate (-before).toNat '0') ++ digits
  else if count ≤ before then
    digits ++ String.ofList (List.replicate (before - count).toNat '0') ++ ".0"
  else
    String.ofList (digits.toList.take before.toNat) ++ "." ++
      String.ofList (digits.toList.drop before.toNat)

def magnitude (form : FloatForm) (decimal : Decimal) : String :=
  let decimal := decimal.withoutTrailingZeros 20
  let digits := toString decimal.digits
  let leading := decimal.exponent + (digits.length : Int) - 1
  if form.leastPositional ≤ leading && leading ≤ form.greatestPositional then
    withPoint digits (leading + 1)
  else
    let fraction := String.ofList (digits.toList.drop 1)
    String.ofList (digits.toList.take 1) ++ (if fraction.isEmpty then "" else "." ++ fraction) ++
      "e" ++ (if leading < 0 then "-" else "+") ++ toString leading.natAbs

def text (form : FloatForm) (number : Float) : String :=
  let bits := number.toBits
  let sign := if bits.toNat / twoTo 63 = 1 then "-" else ""
  let binary := Binary.ofBits bits
  sign ++ (if binary.significand = 0 then "0.0" else form.magnitude binary.shortest)

end FloatForm

end AssociationCheck.Text
