import Retarget.Decimal.Shortest

/-! Which decimals stay finite as doubles. -/
namespace Retarget.Decimal

/-- Whether `digits · 10 ^ exponent` rounds to a finite double. Far from the range of doubles the
place of the first digit decides. -/
def isFinite (decimal : Decimal) : Bool :=
  if decimal.digits = 0 ∨ decimal.leading < -400 then true
  else if decimal.leading > 400 then false
  else
    (Float.ofScientific (decimal.digits * Nat.pow 10 decimal.exponent.toNat) true
      (-decimal.exponent).toNat).isFinite

end Retarget.Decimal
