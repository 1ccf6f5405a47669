import WifiRoster.Decimal.Shortest
import WifiRoster.Json.Reader

/-!
# Numbers

A number is written as a whole part without leading zeros, an optional fraction and an optional
exponent. Written without fraction and exponent it is an integer, if it fits into 64 bits with or
without sign; every other number, minus zero among them, is a floating-point number. Only the
digits that fit into 64 bits count for it, the others for its size alone.
-/

namespace WifiRoster.Json

/-- A number as it is written. -/
structure Literal where
  negative : Bool
  whole : List Nat
  /-- The digits behind the point; there are none without a point. -/
  fraction : List Nat
  /-- The exponent with its sign, if one is written. -/
  exponent : Option Int
deriving DecidableEq, Repr

/-- The value of a decimal digit. -/
def digitValue (c : Char) : Nat := c.toNat - '0'.toNat

/-- The value of a run of digits. -/
def digitsValue (digits : List Nat) : Nat := digits.foldl (fun n digit => n * 10 + digit) 0

namespace Reader

/-- Reads the digits at the front of a text, possibly none. -/
def digits : Reader (List Nat) := fun text =>
  .ok ((text.takeWhile Char.isDigit).map digitValue, text.dropWhile Char.isDigit)

/-- Reads at least one digit. -/
def someDigits : Reader (List Nat) := do
  match ← peek with
  | none => fail .endInValue
  | some c => if c.isDigit then digits else fail .badNumber

/-- Reads a whole part: a zero alone, or digits of which the first is no zero. -/
def wholePart : Reader (List Nat) := do
  match ← someDigits with
  | 0 :: _ :: _ => fail .badNumber
  | whole => return whole

/-- Reads a point and the digits behind it, or nothing. -/
def fractionPart : Reader (List Nat) := do
  match ← peek with
  | some '.' =>
    advance
    someDigits
  | _ => return []

/-- Reads the sign of an exponent, and tells whether it is negative. -/
def exponentSign : Reader Bool := do
  match ← peek with
  | some '-' =>
    advance
    return true
  | some '+' =>
    advance
    return false
  | _ => return false

/-- Reads a mark and the exponent behind it, or nothing. -/
def exponentPart : Reader (Option Int) := do
  match ← peek with
  | some 'e' | some 'E' =>
    advance
    let negative ← exponentSign
    let size := digitsValue (← someDigits)
    return some (if negative then -size else size)
  | _ => return none

/-- Reads a number as it is written. -/
def literal : Reader Literal := do
  let negative := (← peek) == some '-'
  if negative then advance
  let whole ← wholePart
  let fraction ← fractionPart
  let exponent ← exponentPart
  return ⟨negative, whole, fraction, exponent⟩

end Reader

/-- The value of a number. -/
inductive Number where
  | integer (value : Int)
  | floating (value : Float)

/-- How floating-point numbers are written. -/
def floatLayout : Decimal.Layout where
  leastPositional := -5
  greatestPositional := 15

/-- A number as a value that was met. -/
def Number.met : Number → Met
  | integer value => .integer value
  | floating value => .floating (floatLayout.text (.ofFloat value))

/-- A power of ten as a floating-point number. -/
def tenTo (n : Nat) : Float := Float.ofScientific 1 false n

/-- A floating-point number times a power of ten. Each step rounds once; a result beyond the
greatest floating-point number is out of range, one below the least is zero. -/
def scaled (x : Float) (exponent : Int) : Except Fault Float :=
  if exponent < -308 then
    if x == 0 then .ok x else scaled (x / tenTo 308) (exponent + 308)
  else if exponent < 0 then .ok (x / tenTo exponent.natAbs)
  else if exponent ≤ 308 then
    let y := x * tenTo exponent.natAbs
    if y.isInf then .error .numberOutOfRange else .ok y
  else if x == 0 then .ok x else .error .numberOutOfRange
termination_by exponent.natAbs

/-- Puts as many of the digits behind a number as 64 bits hold; gives the digits left over, too. -/
def absorb (n : Nat) : List Nat → Nat × List Nat
  | [] => (n, [])
  | digit :: digits =>
    if n * 10 + digit < UInt64.size then absorb (n * 10 + digit) digits else (n, digit :: digits)

namespace Literal

/-- The value of a literal as an integer, if it is one. -/
def integer? (literal : Literal) : Option Int :=
  let n := digitsValue literal.whole
  if literal.fraction.isEmpty && literal.exponent.isNone then
    if literal.negative then
      if 0 < n ∧ Int64.minValue.toInt ≤ -n then some (-n) else none
    else if n < UInt64.size then some n else none
  else none

/-- The value of a literal as a floating-point number. -/
def float (literal : Literal) : Except Fault Float := do
  let (significand, dropped) := absorb 0 literal.whole
  let (significand, ignored) := absorb significand literal.fraction
  let taken : Int := literal.fraction.length - ignored.length
  let magnitude ← scaled (Float.ofNat significand)
    (dropped.length - taken + literal.exponent.getD 0)
  return if literal.negative then -magnitude else magnitude

/-- The value of a literal. -/
def value (literal : Literal) : Except Fault Number :=
  match literal.integer? with
  | some n => .ok (.integer n)
  | none => literal.float.map .floating

end Literal

namespace Reader

/-- Goes on with a value or a fault. -/
def ofExcept (result : Except Fault α) : Reader α := fun text => result.map (·, text)

/-- Reads a number. -/
def number : Reader Number := do
  ofExcept (← literal).value

/-- Skips a number, whose value does not matter; whatever is wrong with it, it is no number. -/
def skipNumber : Reader Unit := fun text =>
  match literal text with
  | .ok (_, rest) => .ok ((), rest)
  | .error _ => .error .badNumber

end Reader

end WifiRoster.Json
