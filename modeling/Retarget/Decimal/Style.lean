import Retarget.Decimal.Shortest

/-! Styles for floating values: what a format writes for numbers of each size, for infinities and
for NaN. -/
namespace Retarget.Decimal

/-- How a format writes floating values. -/
structure Style where
  /-- Whole numbers are written with all their digits, not with the fewest that read back. -/
  exactWhole : Bool
  /-- Numbers whose first digit stands at a power of ten in this range are written positionally, the
  others in scientific form; none if all are positional. -/
  positionalRange : Option (Int × Int)
  tie : Tie
  infinity : String
  nan : String

namespace Style

def magnitude (style : Style) (number : Binary) : String :=
  match style.exactWhole, number.whole? with
  | true, some whole => positional ⟨whole, 0⟩
  | _, _ =>
    let decimal := Decimal.shortest number style.tie
    match style.positionalRange with
    | none => decimal.positional
    | some (low, high) =>
      if low ≤ decimal.leading ∧ decimal.leading ≤ high then decimal.positional
      else decimal.scientific

/-- The text of a floating value. -/
def write (style : Style) (value : Float) : String :=
  match Binary.ofFloat? value with
  | some number => (if number.negative then "-" else "") ++ style.magnitude number
  | none =>
    if value.isNaN then style.nan
    else if value < 0 then "-" ++ style.infinity
    else style.infinity

/-- Generated source: no exponents, and whole numbers in full. -/
def source : Style := ⟨true, none, .up, "inf", "NaN"⟩

/-- Dumps and shown values: sixteen places before the point and five zeros after it are the most
that is written positionally. -/
def dump : Style := ⟨false, some (-5, 15), .even, ".inf", ".nan"⟩

end Style
end Retarget.Decimal
