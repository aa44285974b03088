import KeyConsole.Double.Basic

/-!
# Shortest decimals

The decimal written for a double has the fewest digits among those that read
back as it, and of these it is the nearest; an exact tie goes to the larger
one.  On each grid of decimals only the two neighbours of the double need to
be tried, because a grid point that reads back lies between the double and one
of them, or is one of them.
-/

namespace KeyConsole.Double

/-- A decimal `digits * 10 ^ exponent`. -/
structure Decimal where
  /-- The digits as one integer. -/
  digits : Nat
  /-- The power of ten of the last digit. -/
  exponent : Int
  deriving DecidableEq, Repr, Inhabited

/-- A finite positive double in quarters of its last place, with the ends of
the interval of numbers that read back as it. -/
structure Interval where
  /-- The double itself. -/
  middle : Nat
  /-- The lower end. -/
  low : Nat
  /-- The upper end. -/
  high : Nat
  /-- Whether the ends themselves read back as the double. -/
  closed : Bool
  /-- The power of two by which the three numbers are scaled. -/
  scale : Int
  deriving Repr

/-- The interval of a double.  Below a power of two the next double is half as
far away, except below the smallest normal one. -/
def interval (d : Double) : Interval where
  middle := 4 * d.significand
  low := 4 * d.significand - (if d.fraction = 0 ∧ 1 < d.exponentField then 1 else 2)
  high := 4 * d.significand + 2
  closed := d.significand % 2 = 0
  scale := d.exponent - 2

/-- How many decimal digits a number has. -/
def digitCount (n : Nat) : Nat :=
  (Nat.toDigits 10 n).length

/-- The greatest `e` with `10 ^ e ≤ num / den`, for positive numbers. -/
def decimalExponent (num den : Nat) : Int :=
  if den ≤ num then (digitCount (num / den) : Int) - 1
  else -(digitCount ((den + num - 1) / num - 1) : Int)

namespace Interval

/-- The middle of the interval as a fraction. -/
def fractionParts (i : Interval) : Nat × Nat :=
  (i.middle * Nat.pow 2 i.scale.toNat, Nat.pow 2 (-i.scale).toNat)

/-- Whether a point reads back, when all numbers are scaled up by `unit`. -/
def reads (i : Interval) (unit point : Nat) : Bool :=
  if i.closed then i.low * unit ≤ point && point ≤ i.high * unit
  else i.low * unit < point && point < i.high * unit

/-- On the grid of the multiples of `10 ^ place`, the neighbour of the middle
that reads back and is nearest to it, as a multiple. -/
def onGrid (i : Interval) (place : Int) : Option Nat :=
  let unit := Nat.pow 2 i.scale.toNat * Nat.pow 10 (-place).toNat
  let step := Nat.pow 10 place.toNat * Nat.pow 2 (-i.scale).toNat
  let value := i.middle * unit
  let down := value / step
  let up := down + 1
  match i.reads unit (down * step), i.reads unit (up * step) with
  | true, true => some (if step ≤ 2 * (value - down * step) then up else down)
  | true, false => some down
  | false, true => some up
  | false, false => none

/-- The first grid with a point that reads back, from the coarsest on. -/
def shortest (i : Interval) : Decimal :=
  let first := decimalExponent i.fractionParts.1 i.fractionParts.2
  let decimal? := (List.range 17).findSome? fun (extra : Nat) =>
    (i.onGrid (first - extra)).map fun digits => (⟨digits, first - extra⟩ : Decimal)
  decimal?.getD ⟨0, 0⟩

end Interval

/-- The shortest decimal that reads back as a finite double other than zero,
without its sign. -/
def shortest (d : Double) : Decimal :=
  d.interval.shortest

/-- Take the zeros off the end of a list of digits, counting them. -/
def dropZeros (digits : List Char) : List Char × Nat :=
  let kept := (digits.reverse.dropWhile (· == '0')).reverse
  (kept, digits.length - kept.length)

/-- A decimal in positional notation: no exponent, no zeros behind the last
digit, and a point only in front of a digit. -/
def Decimal.positional (decimal : Decimal) : List Char :=
  let (digits, zeros) := dropZeros (Nat.toDigits 10 decimal.digits)
  let exponent := decimal.exponent + zeros
  if 0 ≤ exponent then digits ++ List.replicate exponent.toNat '0'
  else
    let whole := (digits.length : Int) + exponent
    if 0 < whole then digits.take whole.toNat ++ '.' :: digits.drop whole.toNat
    else '0' :: '.' :: (List.replicate (-whole).toNat '0' ++ digits)

/-- The text of a double: `NaN`, `inf`, or its shortest decimal in positional
notation, with a minus sign if the sign bit of a number is set. -/
def textChars (d : Double) : List Char :=
  if d.isNaN then ['N', 'a', 'N']
  else
    let size :=
      if d.isInfinite then ['i', 'n', 'f']
      else if d.isZero then ['0']
      else d.shortest.positional
    if d.isNegative then '-' :: size else size

/-- The text of a double. -/
def text (d : Double) : String :=
  String.ofList d.textChars

end KeyConsole.Double
