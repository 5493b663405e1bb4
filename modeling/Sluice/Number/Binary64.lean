set_option autoImplicit false

/-! Numbers in the 64-bit binary format, held as their bits. A finite number is a whole significand
times a power of two; decimals are rounded to the nearest such number, a tie to the even one. -/

namespace Sluice

structure Binary64 where
  bits : UInt64
deriving DecidableEq

namespace Binary64

def zero : Binary64 :=
  { bits := 0 }

def infinity (negative : Bool) : Binary64 :=
  { bits := if negative then 0xfff0000000000000 else 0x7ff0000000000000 }

def notANumber : Binary64 :=
  { bits := 0x7ff8000000000000 }

def isNegative (number : Binary64) : Bool :=
  Nat.pow 2 63 ≤ number.bits.toNat

def exponentField (number : Binary64) : Nat :=
  number.bits.toNat / Nat.pow 2 52 % 2048

def fractionField (number : Binary64) : Nat :=
  number.bits.toNat % Nat.pow 2 52

def isNaN (number : Binary64) : Bool :=
  number.exponentField == 2047 && number.fractionField != 0

def isFinite (number : Binary64) : Bool :=
  number.exponentField != 2047

def isZero (number : Binary64) : Bool :=
  number.exponentField == 0 && number.fractionField == 0

def significand (number : Binary64) : Nat :=
  if number.exponentField = 0 then number.fractionField else Nat.pow 2 52 + number.fractionField

/-- A finite number's magnitude is its significand times two to this power. -/
def scale (number : Binary64) : Int :=
  (max number.exponentField 1 : Int) - 1075

/-- Equality of numbers: a NaN equals nothing, and both zeros are equal. -/
def sameNumber (left right : Binary64) : Bool :=
  !left.isNaN && !right.isNaN && (left.bits == right.bits || (left.isZero && right.isZero))

def toInt? (number : Binary64) : Option Int :=
  if !number.isFinite then none
  else
    let magnitude : Option Nat :=
      if 0 ≤ number.scale then some (number.significand * Nat.pow 2 number.scale.toNat)
      else
        let divisor := Nat.pow 2 (-number.scale).toNat
        if number.significand % divisor = 0 then some (number.significand / divisor) else none
    magnitude.map fun whole => if number.isNegative then -(whole : Int) else whole

def scaledDown (numerator denominator : Nat) (power : Int) : Nat × Nat :=
  if 0 ≤ power then (numerator, denominator * Nat.pow 2 power.toNat)
  else (numerator * Nat.pow 2 (-power).toNat, denominator)

/-- The nearest natural to a fraction, a tie to the even one. -/
def nearestNat (numerator denominator : Nat) : Nat :=
  let quotient := numerator / denominator
  let twice := 2 * (numerator % denominator)
  if twice < denominator then quotient
  else if denominator < twice then quotient + 1
  else if quotient % 2 = 0 then quotient else quotient + 1

/-- The least power of two, not below the format's least, that brings a fraction under `2 ^ 53`. -/
def fittingPower (numerator denominator : Nat) : Int :=
  let guess : Int := (Nat.log2 numerator : Int) - (Nat.log2 denominator : Int) - 53
  let fits (power : Int) : Bool :=
    let fraction := scaledDown numerator denominator power
    fraction.1 / fraction.2 < Nat.pow 2 53
  let least := if fits guess then guess else if fits (guess + 1) then guess + 1 else guess + 2
  max least (-1074)

def nearestFraction (negative : Bool) (numerator denominator : Nat) : Binary64 :=
  let sign := if negative then Nat.pow 2 63 else 0
  if numerator = 0 then { bits := UInt64.ofNat sign }
  else
    let power := fittingPower numerator denominator
    let fraction := scaledDown numerator denominator power
    let rounded := nearestNat fraction.1 fraction.2
    -- a significand that rounds up to the next power of two carries into the exponent by itself
    let magnitude :=
      if rounded < Nat.pow 2 52 then rounded else (power + 1074).toNat * Nat.pow 2 52 + rounded
    if 2047 * Nat.pow 2 52 ≤ magnitude then infinity negative
    else { bits := UInt64.ofNat (sign + magnitude) }

/-- The nearest number to `digits * 10 ^ exponent`. Exponents far outside the format's range are
settled by the count of digits alone. -/
def ofDecimal (negative : Bool) (digits : Nat) (exponent : Int) : Binary64 :=
  let width : Int := (Nat.toDigits 10 digits).length
  if digits = 0 then nearestFraction negative 0 1
  else if 400 < width + exponent then infinity negative
  else if width + exponent < -400 then nearestFraction negative 0 1
  else if 0 ≤ exponent then nearestFraction negative (digits * Nat.pow 10 exponent.toNat) 1
  else nearestFraction negative digits (Nat.pow 10 (-exponent).toNat)

end Sluice.Binary64
