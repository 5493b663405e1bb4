import Sluice.Number.Shortest
import Sluice.Yaml.Cursor

set_option autoImplicit false

/-! What a plain scalar means: nothing, a truth value, a number, or else its own text. -/

namespace Sluice.Yaml

/-- Whole numbers are told apart by the word that holds them: 64 bits, or more. -/
inductive Atom where
  | nothing
  | boolean (value : Bool)
  | integer (value : Int)
  | wideInteger (value : Int)
  | number (value : Binary64)
  | text (value : String)
deriving DecidableEq

namespace Atom

/-- The words for nothing; an empty plain scalar is read as nothing too. -/
def isNullWord (text : String) : Bool :=
  text = "null" || text = "Null" || text = "NULL" || text = "~"

def boolean? (text : String) : Option Bool :=
  if text = "true" || text = "True" || text = "TRUE" then some true
  else if text = "false" || text = "False" || text = "FALSE" then some false
  else none

def stripPlus : List Char → List Char
  | '+' :: rest => rest
  | other => other

def stripSign : List Char → List Char
  | '+' :: rest => rest
  | '-' :: rest => rest
  | other => other

def startsWithSign (characters : List Char) : Bool :=
  characters.head?.any fun c => c = '+' || c = '-'

/-- Digits behind a leading zero are no number, but text. -/
def isZeroPadded (characters : List Char) : Bool :=
  match stripSign characters with
  | '0' :: second :: rest => (second :: rest).all Char.isDigit
  | _ => false

def digitsIn (radix : Nat) (digits : List Char) : Option Nat :=
  if digits.isEmpty then none
  else
    digits.foldl
      (fun held digit =>
        held.bind fun value =>
          (hexDigit? digit).bind fun low =>
            if low < radix then some (radix * value + low) else none)
      (some 0)

def magnitude? : List Char → Option Nat
  | '0' :: 'x' :: rest => digitsIn 16 rest
  | '0' :: 'o' :: rest => digitsIn 8 rest
  | '0' :: 'b' :: rest => digitsIn 2 rest
  | digits => if isZeroPadded digits then none else digitsIn 10 digits

def unsigned? (characters : List Char) : Option Nat :=
  magnitude? (stripPlus characters)

def negated? : List Char → Option Nat
  | '-' :: rest => magnitude? rest
  | _ => none

def integer? (characters : List Char) : Option Atom :=
  match unsigned? characters with
  | some value =>
      if value < Nat.pow 2 64 then some (.integer value)
      else if value < Nat.pow 2 128 then some (.wideInteger value)
      else none
  | none =>
      (negated? characters).bind fun value =>
        if value ≤ Nat.pow 2 63 then some (.integer (-value))
        else if value ≤ Nat.pow 2 127 then some (.wideInteger (-value))
        else none

def exponent? : List Char → Option Int
  | [] => some 0
  | mark :: rest =>
      if mark = 'e' || mark = 'E' then
        match rest with
        | '-' :: digits => (digitsIn 10 digits).map fun value => -(value : Int)
        | '+' :: digits => (digitsIn 10 digits).map fun value => (value : Int)
        | digits => (digitsIn 10 digits).map fun value => (value : Int)
      else none

/-- Digits with at most one point, at least one digit, and perhaps a power of ten. -/
def decimal? (negative : Bool) (characters : List Char) : Option Binary64 :=
  let whole := characters.takeWhile Char.isDigit
  let behind := characters.drop whole.length
  let pointed := behind.head? = some '.'
  let places := if pointed then (behind.drop 1).takeWhile Char.isDigit else []
  let left := if pointed then behind.drop (places.length + 1) else behind
  (digitsIn 10 (whole ++ places)).bind fun digits =>
    (exponent? left).map fun power => .ofDecimal negative digits (power - places.length)

/-- A number with a point or an exponent, or the infinities and the undefined number by name. A
number beyond the finite ones is none. -/
def number? (text : String) : Option Binary64 :=
  let unpositive := stripPlus text.toList
  let named := String.ofList unpositive
  if text.startsWith "+" && startsWithSign unpositive then none
  else if named = ".inf" || named = ".Inf" || named = ".INF" then some (.infinity false)
  else if text = "-.inf" || text = "-.Inf" || text = "-.INF" then some (.infinity true)
  else if text = ".nan" || text = ".NaN" || text = ".NAN" then some .notANumber
  else
    let found := match unpositive with
      | '-' :: rest => decimal? true rest
      | rest => decimal? false rest
    found.bind fun value => if value.isFinite then some value else none

def ofPlain (text : String) : Atom :=
  if text.isEmpty || isNullWord text then .nothing
  else
    match boolean? text with
    | some value => .boolean value
    | none =>
        match integer? text.toList with
        | some atom => atom
        | none =>
            if isZeroPadded text.toList then .text text
            else
              match number? text with
              | some value => .number value
              | none => .text text

end Sluice.Yaml.Atom
