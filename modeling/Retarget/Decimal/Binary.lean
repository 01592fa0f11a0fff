/-! Finite binary numbers: a natural multiple of a power of two, with a sign. Every finite double is
one, and `Binary.ofFloat?` reads it off the bits. -/
namespace Retarget

/-- The number `± mantissa · 2 ^ exponent`. -/
structure Binary where
  negative : Bool
  mantissa : Nat
  exponent : Int
  deriving DecidableEq

namespace Binary

/-- The exponent of the smallest double above zero, and of every double as small. -/
def leastExponent : Int := -1074

/-- The mantissa of a power of two. Doubles that are not too small leave this bit out. -/
def hiddenBit : Nat := 0x10000000000000

/-- The number of a double; none for infinities and NaN. -/
def ofFloat? (value : Float) : Option Binary :=
  let bits : Nat := value.toBits.toNat
  let negative : Bool := bits ≥ 0x8000000000000000
  let fraction : Nat := bits % hiddenBit
  let biased : Nat := bits / hiddenBit % 0x800
  if biased = 0x7ff then none
  else if biased = 0 then some ⟨negative, fraction, leastExponent⟩
  else some ⟨negative, fraction + hiddenBit, (biased : Int) - 1 + leastExponent⟩

/-- The magnitude as a whole number, if it is one. -/
def whole? (number : Binary) : Option Nat :=
  if 0 ≤ number.exponent then some (number.mantissa * Nat.pow 2 number.exponent.toNat)
  else
    let unit := Nat.pow 2 (-number.exponent).toNat
    if number.mantissa % unit = 0 then some (number.mantissa / unit) else none

end Binary
end Retarget
