import Sluice.Number.Binary64

set_option autoImplicit false

/-! The shortest decimal that reads back as a given number, and its positional text. -/

namespace Sluice.Binary64

structure Decimal where
  digits : Nat
  exponent : Int

namespace Decimal

def fraction (decimal : Decimal) : Nat × Nat :=
  if 0 ≤ decimal.exponent then (decimal.digits * Nat.pow 10 decimal.exponent.toNat, 1)
  else (decimal.digits, Nat.pow 10 (-decimal.exponent).toNat)

end Decimal

/-- The reals that round to a positive finite number, in quarters of its last place: a quarter of
a place is `2 ^ (scale - 2)`. Both ends belong to it iff the significand is even. -/
structure Interval where
  low : Nat
  value : Nat
  high : Nat
  power : Int
  closed : Bool

def interval (number : Binary64) : Interval :=
  let significand := number.significand
  let narrow := number.fractionField = 0 && 1 < number.exponentField
  { low := if narrow then 4 * significand - 1 else 4 * significand - 2
    value := 4 * significand
    high := 4 * significand + 2
    power := number.scale - 2
    closed := significand % 2 = 0 }

def Decimal.compareTo (decimal : Decimal) (quarters : Nat) (power : Int) : Ordering :=
  let side := decimal.fraction
  let left := if 0 ≤ power then side.1 else side.1 * Nat.pow 2 (-power).toNat
  let right := if 0 ≤ power then quarters * Nat.pow 2 power.toNat * side.2 else quarters * side.2
  compare left right

def Interval.contains (range : Interval) (decimal : Decimal) : Bool :=
  let above := match decimal.compareTo range.low range.power with
    | .gt => true
    | .eq => range.closed
    | .lt => false
  let below := match decimal.compareTo range.high range.power with
    | .lt => true
    | .eq => range.closed
    | .gt => false
  above && below

/-- The whole part of `quarters * 2 ^ power / 10 ^ exponent`. -/
def gridBelow (quarters : Nat) (power exponent : Int) : Nat :=
  let numerator := quarters * (if 0 ≤ power then Nat.pow 2 power.toNat else 1)
    * (if 0 ≤ exponent then 1 else Nat.pow 10 (-exponent).toNat)
  let denominator := (if 0 ≤ power then 1 else Nat.pow 2 (-power).toNat)
    * (if 0 ≤ exponent then Nat.pow 10 exponent.toNat else 1)
  numerator / denominator

/-- Of the two decimals around the value on one grid, the nearer one that reads back; of two that are
equally near, the greater. -/
def onGrid (range : Interval) (exponent : Int) : Option Decimal :=
  let below := gridBelow range.value range.power exponent
  let lower : Decimal := { digits := below, exponent := exponent }
  let upper : Decimal := { digits := below + 1, exponent := exponent }
  -- the value is nearer to the lower one iff twice it is below the sum of both
  let middle : Decimal := { digits := 2 * below + 1, exponent := exponent }
  let preferLower := middle.compareTo (2 * range.value) range.power = .gt
  let fits (decimal : Decimal) : Bool := 0 < decimal.digits && range.contains decimal
  match fits lower, fits upper with
  | true, true => some (if preferLower then lower else upper)
  | true, false => some lower
  | false, true => some upper
  | false, false => none

def firstOnGrids (range : Interval) : Nat → Int → Decimal
  | 0, exponent => { digits := gridBelow range.value range.power exponent, exponent := exponent }
  | tries + 1, exponent =>
      match onGrid range exponent with
      | some decimal => decimal
      | none => firstOnGrids range tries (exponent - 1)

/-- The shortest decimal that rounds to a positive finite number, and the nearest of those. -/
def shortest (number : Binary64) : Decimal :=
  let range := number.interval
  let whole := gridBelow range.value range.power (-400)
  let magnitude : Int := (Nat.toDigits 10 whole).length - 400
  firstOnGrids range 20 magnitude

/-- Digits around a decimal point, all of them written out, with a point even in a whole number. -/
def positional (decimal : Decimal) : String :=
  let digits := Nat.toDigits 10 decimal.digits
  if 0 ≤ decimal.exponent then
    String.ofList (digits ++ List.replicate decimal.exponent.toNat '0') ++ ".0"
  else
    let places := (-decimal.exponent).toNat
    let padded := List.replicate (places + 1 - digits.length) '0' ++ digits
    let whole := padded.take (padded.length - places)
    let rest := padded.drop (padded.length - places)
    String.ofList whole ++ "." ++ String.ofList rest

def text (number : Binary64) : String :=
  if number.isNaN then "NaN"
  else
    let sign := if number.isNegative then "-" else ""
    if !number.isFinite then sign ++ "inf"
    else if number.isZero then sign ++ "0.0"
    else sign ++ positional number.shortest

end Sluice.Binary64
