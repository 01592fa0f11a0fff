import Retarget.Decimal.Style
import Retarget.Proofs.CasedCharacters
import Retarget.Text

/-! Texts without blanks. Numbers are written without any, and no convention of casing brings one into a name. -/
namespace Retarget

/-- No blank is in the text. -/
def Blankless (text : String) : Prop := ∀ c ∈ text.toList, Text.isBlank c = false

-- Given by name, since there may also be an instance that goes through all characters.
instance (text : String) : Decidable (Blankless text) :=
  List.decidableBAll (fun c => Text.isBlank c = false) text.toList

@[simp]
theorem blankless_append (first second : String) :
    Blankless (first ++ second) ↔ Blankless first ∧ Blankless second := by
  simp only [Blankless, String.toList_append, List.forall_mem_append]

theorem blankless_ofList (chars : List Char) :
    Blankless (String.ofList chars) ↔ ∀ c ∈ chars, Text.isBlank c = false := by
  rw [Blankless, String.toList_ofList]

section Numbers

theorem toNat_of_isDigit (c : Char) (digit : c.isDigit = true) : 48 ≤ c.toNat ∧ c.toNat ≤ 57 := by
  simpa [Char.isDigit, UInt32.le_iff_toNat_le] using digit

theorem isBlank_of_isDigit (c : Char) (digit : c.isDigit = true) : Text.isBlank c = false := by
  have range := toNat_of_isDigit c digit
  rw [← Bool.not_eq_true]
  simp only [Text.isBlank, Bool.or_eq_true, Bool.and_eq_true, decide_eq_true_eq, beq_iff_eq]
  omega

theorem isBlank_of_mem_toDigits (value : Nat) : ∀ c ∈ Nat.toDigits 10 value, Text.isBlank c = false :=
  fun c member => isBlank_of_isDigit c (Nat.isDigit_of_mem_toDigits (by decide) (by decide) member)

theorem toList_toString_nat (value : Nat) : (toString value).toList = Nat.toDigits 10 value := Nat.toList_repr

theorem blankless_toString_nat (value : Nat) : Blankless (toString value) := by
  rw [Blankless, toList_toString_nat]
  exact isBlank_of_mem_toDigits value

theorem toString_nat_ne_empty (value : Nat) : toString value ≠ "" := by
  simp [← String.toList_eq_nil_iff]

theorem toString_negSucc (value : Nat) : toString (Int.negSucc value) = "-" ++ toString (value + 1) := rfl

theorem blankless_toString_int (value : Int) : Blankless (toString value) := by
  cases value with
  | ofNat value => exact blankless_toString_nat value
  | negSucc value =>
    rw [toString_negSucc, blankless_append]
    exact ⟨by decide, blankless_toString_nat _⟩

theorem toString_int_ne_empty (value : Int) : toString value ≠ "" := by
  cases value with
  | ofNat value => exact toString_nat_ne_empty value
  | negSucc value =>
    rw [toString_negSucc]
    exact fun empty => absurd (String.append_eq_empty_iff.mp empty).1 (by decide)

namespace Decimal

theorem blankless_positional (decimal : Decimal) : Blankless decimal.positional := by
  have digits : ∀ c ∈ digitsOf decimal.digits, Text.isBlank c = false := isBlank_of_mem_toDigits _
  have zero : Text.isBlank '0' = false := by decide
  have point : Text.isBlank '.' = false := by decide
  have zeros (count : Nat) : ∀ c ∈ List.replicate count '0', Text.isBlank c = false := fun c member =>
    (List.eq_of_mem_replicate member).symm ▸ zero
  rw [positional]
  split
  · rw [blankless_ofList, List.forall_mem_append, List.forall_mem_append]
    exact ⟨⟨digits, zeros _⟩, by simp [zero, point]⟩
  · split
    · rw [blankless_ofList, List.forall_mem_append, List.forall_mem_cons]
      exact ⟨fun c member => digits c (List.mem_of_mem_take member), point,
        fun c member => digits c (List.mem_of_mem_drop member)⟩
    · rw [blankless_ofList, List.forall_mem_append, List.forall_mem_cons, List.forall_mem_cons]
      exact ⟨⟨zero, point, zeros _⟩, digits⟩

theorem blankless_write (value : Float) : Blankless (Style.source.write value) := by
  have magnitude (number : Binary) : Blankless (Style.source.magnitude number) := by
    rw [Style.magnitude]
    split
    · exact blankless_positional _
    · exact blankless_positional _
  rw [Style.write]
  split
  · rw [blankless_append]
    refine ⟨?_, magnitude _⟩
    split <;> decide
  · split
    · decide
    · split <;> decide

theorem write_ne_empty (value : Float) : Style.source.write value ≠ "" := by
  have positional (decimal : Decimal) : decimal.positional ≠ "" := by
    rw [Decimal.positional]
    split
    · simp [← String.toList_eq_nil_iff]
    · split <;> simp [← String.toList_eq_nil_iff]
  have magnitude (number : Binary) : Style.source.magnitude number ≠ "" := by
    rw [Style.magnitude]
    split
    · exact positional _
    · exact positional _
  rw [Style.write]
  split
  · simp [magnitude]
  · split
    · decide
    · split <;> decide

end Decimal

end Numbers

section Casing

/-- The code points of blanks. -/
def Text.blankCodes : List Nat :=
  [0x09, 0x0a, 0x0b, 0x0c, 0x0d, 0x20, 0x85, 0xa0, 0x1680, 0x2000, 0x2001, 0x2002, 0x2003, 0x2004, 0x2005, 0x2006,
    0x2007, 0x2008, 0x2009, 0x200a, 0x2028, 0x2029, 0x202f, 0x205f, 0x3000]

theorem Text.isBlank_eq_false_iff (c : Char) : isBlank c = false ↔ c.toNat ∉ blankCodes := by
  constructor
  · intro visible listed
    have all : ∀ code ∈ blankCodes, isBlank (Char.ofNat code) = true := by decide
    have blank := all _ listed
    rw [Char.ofNat_toNat, visible] at blank
    cases blank
  · intro apart
    rw [← Bool.not_eq_true]
    intro blank
    simp only [isBlank, Bool.or_eq_true, Bool.and_eq_true, decide_eq_true_eq, beq_iff_eq] at blank
    simp only [blankCodes, List.mem_cons, List.not_mem_nil] at apart
    omega

theorem Text.uncased_blankCodes : Uncased blankCodes := by constructor <;> decide

/-- No convention brings a blank into a name. -/
theorem NameCase.blankless_apply (convention : NameCase) (name : String) (visible : Blankless name) :
    Blankless (convention.apply name) := by
  simp only [Blankless, Text.isBlank_eq_false_iff] at visible ⊢
  exact convention.apply_notMem Text.uncased_blankCodes (by decide) name visible

end Casing
end Retarget
