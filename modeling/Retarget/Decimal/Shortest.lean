import Retarget.Decimal.Binary

/-! Shortest decimals: the decimal of fewest digits among those that read back to a given double,
and of these the nearest. A decimal reads back to the double if it lies in the double's rounding
interval; `shortest` looks for the coarsest power of ten with a multiple there. -/
namespace Retarget

/-- The number `digits · 10 ^ exponent`. -/
structure Decimal where
  digits : Nat
  exponent : Int
  deriving DecidableEq

/-- Which of two equally near decimals is taken. -/
inductive Tie where
  | up
  | even
  deriving DecidableEq

namespace Decimal

/-- The positive rationals around a number that are nearest to it among the doubles, scaled to
integers over a common denominator. The ends belong to the interval if `closed`. -/
structure Interval where
  low : Nat
  value : Nat
  high : Nat
  denominator : Nat
  closed : Bool

namespace Interval

/-- The rounding interval of a positive double. A gap reaches half way to the neighbour, and below a
power of two the neighbour is half as far. -/
def around (number : Binary) : Interval :=
  let narrow := number.mantissa = Binary.hiddenBit ∧ number.exponent ≠ Binary.leastExponent
  let low := if narrow then 4 * number.mantissa - 1 else 4 * number.mantissa - 2
  let value := 4 * number.mantissa
  let high := 4 * number.mantissa + 2
  let closed := number.mantissa % 2 = 0
  let exponent := number.exponent - 2
  let factor := Nat.pow 2 exponent.toNat
  ⟨low * factor, value * factor, high * factor, Nat.pow 2 (-exponent).toNat, closed⟩

/-- The interval in units of a power of ten. -/
def inUnits (interval : Interval) (exponent : Int) : Interval :=
  let factor := Nat.pow 10 (-exponent).toNat
  ⟨interval.low * factor, interval.value * factor, interval.high * factor,
    interval.denominator * Nat.pow 10 exponent.toNat, interval.closed⟩

def contains (interval : Interval) (n : Nat) : Bool :=
  let scaled := n * interval.denominator
  if interval.closed then interval.low ≤ scaled && scaled ≤ interval.high
  else interval.low < scaled && scaled < interval.high

/-- The whole number in the interval that is nearest to the value, if the interval has one. -/
def nearest? (interval : Interval) (tie : Tie) : Option Nat :=
  let below := interval.value / interval.denominator
  let above := below + 1
  match interval.contains below, interval.contains above with
  | false, false => none
  | true, false => some below
  | false, true => some above
  | true, true =>
    let remainder := interval.value % interval.denominator
    match compare (2 * remainder) interval.denominator with
    | .lt => some below
    | .gt => some above
    | .eq => some (match tie with
      | .up => above
      | .even => if below % 2 = 0 then below else above)

end Interval

/-- The first power of ten, from `top` down, with a multiple in the interval. -/
def search (interval : Interval) (tie : Tie) (top : Int) : Nat → Decimal
  | 0 => ⟨0, 0⟩
  | fuel + 1 =>
    match (interval.inUnits top).nearest? tie with
    | some digits => ⟨digits, top⟩
    | none => search interval tie (top - 1) fuel

/-- Doubles lie below `10 ^ 309`, and the gaps between them above `10 ^ (-324)`. -/
def shortest (number : Binary) (tie : Tie) : Decimal :=
  if number.mantissa = 0 then ⟨0, 0⟩
  else search (.around number) tie 309 640

/-- The decimal digits of a natural number, the first one first. -/
def digitsOf (n : Nat) : List Char := Nat.toDigits 10 n

/-- The exponent of the first digit. -/
def leading (decimal : Decimal) : Int :=
  decimal.exponent + (digitsOf decimal.digits).length - 1

/-- Digits and exponent written without an exponent; a whole number ends in `.0`. -/
def positional (decimal : Decimal) : String :=
  let digits := digitsOf decimal.digits
  let places := (-decimal.exponent).toNat
  if 0 ≤ decimal.exponent then
    String.ofList (digits ++ List.replicate decimal.exponent.toNat '0' ++ ['.', '0'])
  else if places < digits.length then
    let whole := digits.length - places
    String.ofList (digits.take whole ++ '.' :: digits.drop whole)
  else
    String.ofList ('0' :: '.' :: List.replicate (places - digits.length) '0' ++ digits)

/-- One digit, a point and the others if there are any, and the exponent of the first. -/
def scientific (decimal : Decimal) : String :=
  let mantissa := match digitsOf decimal.digits with
    | [] => []
    | [digit] => [digit]
    | digit :: rest => digit :: '.' :: rest
  String.ofList mantissa ++ "e" ++ toString decimal.leading

end Decimal
end Retarget
