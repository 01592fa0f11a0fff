/-! Numbers written in digits of a base up to sixteen. -/
namespace Retarget.Text

/-- The value of a digit in a base up to sixteen. -/
def digitValue? (base : Nat) (c : Char) : Option Nat :=
  let value := if '0' ≤ c ∧ c ≤ '9' then c.toNat - '0'.toNat
    else if 'a' ≤ c ∧ c ≤ 'f' then c.toNat - 'a'.toNat + 10
    else if 'A' ≤ c ∧ c ≤ 'F' then c.toNat - 'A'.toNat + 10
    else base
  if value < base then some value else none

def digitsValue? (base : Nat) : Nat → List Char → Option Nat
  | value, [] => some value
  | value, c :: rest => do digitsValue? base (value * base + (← digitValue? base c)) rest

/-- The number that one or more digits stand for. -/
def natural? (base : Nat) (digits : List Char) : Option Nat :=
  if digits.isEmpty then none else digitsValue? base 0 digits

end Retarget.Text
