set_option autoImplicit false

/-! Lengths of time in whole nanoseconds, and their text: the largest unit that is not below one, with
as many decimals as are needed. -/

namespace Sluice

structure Duration where
  nanos : Nat
deriving DecidableEq

namespace Duration

def ofMillis (millis : Nat) : Duration :=
  { nanos := millis * 1000000 }

def millis (duration : Duration) : Nat :=
  duration.nanos / 1000000

def micros (duration : Duration) : Nat :=
  duration.nanos / 1000

/-- The decimals of `rest / 10 ^ places`, without trailing zeros. -/
def decimals (places rest : Nat) : List Char :=
  let digits := Nat.toDigits 10 rest
  let padded := List.replicate (places - digits.length) '0' ++ digits
  (padded.reverse.dropWhile (· == '0')).reverse

def inUnit (nanos places : Nat) (unit : String) : String :=
  let scale := Nat.pow 10 places
  let whole := toString (nanos / scale)
  let rest := nanos % scale
  if rest = 0 then whole ++ unit
  else whole ++ "." ++ String.ofList (decimals places rest) ++ unit

def text (duration : Duration) : String :=
  let nanos := duration.nanos
  if 1000000000 ≤ nanos then inUnit nanos 9 "s"
  else if 1000000 ≤ nanos then inUnit nanos 6 "ms"
  else if 1000 ≤ nanos then inUnit nanos 3 "µs"
  else toString nanos ++ "ns"

end Sluice.Duration
