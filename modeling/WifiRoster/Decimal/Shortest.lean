/-!
# Shortest decimals

A binary floating-point number stands for an interval of reals, those that round to it. Its
shortest decimal is the number with the fewest digits in that interval, and of those the one
nearest to the number itself. All arithmetic is exact.

A number is taken as `m * 2 ^ q`. For one digit, two digits and so on, only the two neighbours of
the number on the grid of decimals with so many digits have to be looked at: if any point of a
grid lies in the interval, so does one of those two.
-/

namespace WifiRoster

/-- The decimal `significand * 10 ^ power`. -/
structure Decimal where
  significand : Nat
  power : Int
deriving DecidableEq, Repr

namespace Decimal

/-- A positive rational number and the interval around it, over a common denominator. -/
structure Interval where
  value : Nat
  low : Nat
  high : Nat
  denominator : Nat
  /-- Whether the two ends belong to the interval. -/
  closed : Bool
deriving DecidableEq, Repr

namespace Interval

/-- The reals that round to `m * 2 ^ q`, to even if they lie in the middle. The number below is
nearer by half if `m` is the least significand of its binade. -/
def ofBinary (m : Nat) (q : Int) (leastOfBinade : Bool) : Interval :=
  let scale := Nat.pow 2 (q - 2).toNat
  { value := 4 * m * scale
    low := (4 * m - if leastOfBinade then 1 else 2) * scale
    high := (4 * m + 2) * scale
    denominator := Nat.pow 2 (2 - q).toNat
    closed := m % 2 == 0 }

/-- Whether a decimal lies in the interval. -/
def contains (interval : Interval) (decimal : Decimal) : Bool :=
  let scaled := decimal.significand * Nat.pow 10 decimal.power.toNat * interval.denominator
  let shift := Nat.pow 10 (-decimal.power).toNat
  if interval.closed then interval.low * shift ≤ scaled && scaled ≤ interval.high * shift
  else interval.low * shift < scaled && scaled < interval.high * shift

/-- The greatest power of ten that does not exceed the value, given as its exponent. -/
def exponent (interval : Interval) : Int :=
  if interval.denominator ≤ interval.value then
    ((Nat.toDigits 10 (interval.value / interval.denominator)).length : Int) - 1
  else
    -(((List.range 400).find? fun (j : Nat) =>
      interval.denominator ≤ interval.value * Nat.pow 10 j).getD 400 : Nat)

/-- The two neighbours of the value among the multiples of a power of ten, the nearer one first;
of two equally near the even one comes first. -/
def neighbours (interval : Interval) (power : Int) : Decimal × Decimal :=
  let numerator := interval.value * Nat.pow 10 (-power).toNat
  let denominator := interval.denominator * Nat.pow 10 power.toNat
  let below := numerator / denominator
  let twice := 2 * (numerator % denominator)
  let nearerBelow := twice < denominator || (twice == denominator && below % 2 == 0)
  if nearerBelow then (⟨below, power⟩, ⟨below + 1, power⟩)
  else (⟨below + 1, power⟩, ⟨below, power⟩)

/-- The nearest decimal of the interval with the given number of digits, if there is one. -/
def onGrid? (interval : Interval) (digits : Nat) : Option Decimal :=
  let (nearer, farther) := interval.neighbours (interval.exponent - digits + 1)
  if interval.contains nearer then some nearer
  else if interval.contains farther then some farther
  else none

/-- The shortest decimal of the interval; seventeen digits are always enough. -/
def shortest (interval : Interval) : Decimal :=
  ((List.range 17).findSome? fun n => interval.onGrid? (n + 1)).getD ⟨0, 0⟩

end Interval

/-- A decimal number that is read from a finite floating-point number, with its sign. -/
structure Signed where
  negative : Bool
  magnitude : Decimal
deriving DecidableEq, Repr

/-- The shortest decimal that a finite floating-point number stands for. -/
def Signed.ofFloat (x : Float) : Signed :=
  let bits := x.toBits
  let fraction := (bits &&& 0xFFFFFFFFFFFFF).toNat
  let biased := (bits >>> 52 &&& 0x7FF).toNat
  let magnitude : Decimal :=
    if biased = 0 then
      if fraction = 0 then ⟨0, 0⟩ else (Interval.ofBinary fraction (-1074) false).shortest
    else
      (Interval.ofBinary (0x10000000000000 + fraction) ((biased : Int) - 1075)
        (fraction == 0 && 1 < biased)).shortest
  ⟨bits >>> 63 == 1, magnitude⟩

/-- How decimals are laid out as text. -/
structure Layout where
  /-- The least exponent of a leading digit that is written positionally. -/
  leastPositional : Int
  /-- The greatest exponent of a leading digit that is written positionally. -/
  greatestPositional : Int
deriving DecidableEq, Repr

namespace Layout

/-- Digits with a point behind the digit of exponent zero, and at least one digit on each side. -/
def positional (digits : List Char) (exponent : Int) : List Char :=
  if exponent < 0 then
    '0' :: '.' :: List.replicate (-exponent - 1).toNat '0' ++ digits
  else
    let padded := digits ++ List.replicate (exponent.toNat + 1 - digits.length) '0'
    let (whole, rest) := padded.splitAt (exponent.toNat + 1)
    whole ++ '.' :: if rest.isEmpty then ['0'] else rest

/-- Digits with a point behind the first, if there are more, and a signed exponent. -/
def scientific (digits : List Char) (exponent : Int) : List Char :=
  let mantissa := match digits with
    | first :: second :: rest => first :: '.' :: second :: rest
    | single => single
  mantissa ++ 'e' :: (if exponent < 0 then '-' else '+') :: Nat.toDigits 10 exponent.natAbs

/-- The text of a number. -/
def text (layout : Layout) (number : Signed) : String :=
  let digits := Nat.toDigits 10 number.magnitude.significand
  let exponent : Int := number.magnitude.power + digits.length - 1
  let kept := match (digits.reverse.dropWhile (· == '0')).reverse with
    | [] => ['0']
    | kept => kept
  let body :=
    if layout.leastPositional ≤ exponent ∧ exponent ≤ layout.greatestPositional then
      positional kept exponent
    else scientific kept exponent
  String.ofList (if number.negative then '-' :: body else body)

end Layout

end Decimal

end WifiRoster
