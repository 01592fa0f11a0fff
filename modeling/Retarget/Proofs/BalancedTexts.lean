import Retarget.Proofs.Brackets
import Retarget.Proofs.OperatorGrammar
import Retarget.Proofs.SpelledTypes

/-! Balanced texts. Texts that are put together from balanced ones are balanced, and so are numbers and types: putting
balanced components into the slots of a spelling leaves its brackets as they are. -/
namespace Retarget.CSharp

section Texts

theorem isPlain_of_isBlank (c : Char) (blank : Text.isBlank c = true) : isPlain c = true :=
  isPlain_of (by decide) c blank

theorem isPlain_of_isDigit (c : Char) (digit : c.isDigit = true) : isPlain c = true := isPlain_of (by decide) c digit

theorem isPlain_of_continuesName (c : Char) (continues : continuesName c = true) : isPlain c = true :=
  isPlain_of (by decide) c continues

/-- What holds of texts that are put together holds of joined texts. -/
theorem forall_intercalate {P : String → Prop} (empty : P "")
    (append : ∀ first second, P first → P second → P (first ++ second)) {separator : String} (apart : P separator)
    (pieces : List String) (all : ∀ piece ∈ pieces, P piece) : P (separator.intercalate pieces) := by
  induction pieces with
  | nil => exact empty
  | cons piece rest ih =>
    rw [List.forall_mem_cons] at all
    cases rest with
    | nil => simpa using all.1
    | cons next rest =>
      rw [String.intercalate_cons_cons]
      exact append _ _ (append _ _ all.1 apart) (ih all.2)

theorem Balanced.append_texts (first second : String) (balanced : Balanced first.toList)
    (following : Balanced second.toList) : Balanced (first ++ second).toList := by
  rw [String.toList_append]
  exact balanced.append following

theorem Balanced.intercalate {separator : String} (apart : Balanced separator.toList) (pieces : List String)
    (balanced : ∀ piece ∈ pieces, Balanced piece.toList) : Balanced (separator.intercalate pieces).toList :=
  forall_intercalate Balanced.nil Balanced.append_texts apart pieces balanced

theorem balanced_margin (indent : Indent) (depth : Nat) : Balanced (indent.margin depth).toList :=
  .plain fun c member => isPlain_of_isBlank c (List.all_eq_true.mp (indent.isAllBlank_margin depth) c member)

end Texts

section Numbers

structure Digits (chars : List Char) : Prop where
  some : chars ≠ []
  digits : ∀ c ∈ chars, c.isDigit = true

/-- A number without a sign: digits, and perhaps more of them behind a point. -/
inductive Numeral : List Char → Prop
  | whole {digits : List Char} : Digits digits → Numeral digits
  | fraction {whole fraction : List Char} : Digits whole → Digits fraction → Numeral (whole ++ '.' :: fraction)

theorem digits_toDigits (value : Nat) : Digits (Nat.toDigits 10 value) :=
  ⟨Nat.toDigits_ne_nil, fun _ member => Nat.isDigit_of_mem_toDigits (by decide) (by decide) member⟩

theorem numeral_toString_nat (value : Nat) : Numeral (toString value).toList := by
  rw [toList_toString_nat]
  exact .whole (digits_toDigits value)

theorem numeral_positional (decimal : Decimal) : Numeral decimal.positional.toList := by
  have digits := digits_toDigits decimal.digits
  have zeros (count : Nat) : ∀ c ∈ List.replicate count '0', c.isDigit = true := fun c member =>
    (List.eq_of_mem_replicate member).symm ▸ rfl
  have zero : Digits ['0'] := ⟨List.cons_ne_nil _ _, List.forall_mem_singleton.mpr rfl⟩
  rw [Decimal.positional]
  split_ifs with whole split
  · rw [String.toList_ofList]
    refine .fraction ⟨by simp [Decimal.digitsOf], fun c member => ?_⟩ zero
    rcases List.mem_append.mp member with member | member
    · exact digits.digits c member
    · exact zeros _ c member
  · rw [String.toList_ofList]
    have before : Digits ((Decimal.digitsOf decimal.digits).take
        ((Decimal.digitsOf decimal.digits).length - (-decimal.exponent).toNat)) := by
      refine ⟨?_, fun c member => digits.digits c (List.mem_of_mem_take member)⟩
      rw [ne_eq, List.take_eq_nil_iff]
      rintro (none | none)
      · omega
      · exact digits.some none
    have behind : Digits ((Decimal.digitsOf decimal.digits).drop
        ((Decimal.digitsOf decimal.digits).length - (-decimal.exponent).toNat)) := by
      refine ⟨?_, fun c member => digits.digits c (List.mem_of_mem_drop member)⟩
      rw [ne_eq, List.drop_eq_nil_iff]
      omega
    exact .fraction before behind
  · rw [String.toList_ofList]
    refine .fraction zero ⟨by simp [Decimal.digitsOf], fun c member => ?_⟩
    rcases List.mem_append.mp member with member | member
    · exact zeros _ c member
    · exact digits.digits c member

/-- What a floating value is written as behind its sign, if it has one. -/
inductive Magnitude : List Char → Prop
  | numeral {chars : List Char} : Numeral chars → Magnitude chars
  | infinity : Magnitude "inf".toList
  | nan : Magnitude "NaN".toList

theorem exists_magnitude (value : Float) : ∃ sign magnitude,
    (Decimal.Style.source.write value).toList = sign ++ magnitude ∧ (sign = [] ∨ sign = ['-']) ∧
      Magnitude magnitude := by
  have magnitude (number : Binary) : Magnitude (Decimal.Style.source.magnitude number).toList := by
    rw [Decimal.Style.magnitude]
    split <;> exact .numeral (numeral_positional _)
  rw [Decimal.Style.write]
  split
  · rename_i number _
    refine ⟨_, _, String.toList_append, ?_, magnitude number⟩
    split
    · exact .inr rfl
    · exact .inl rfl
  · split_ifs
    · exact ⟨[], _, rfl, .inl rfl, .nan⟩
    · exact ⟨['-'], _, rfl, .inr rfl, .infinity⟩
    · exact ⟨[], _, rfl, .inl rfl, .infinity⟩

theorem Numeral.plain {chars : List Char} (numeral : Numeral chars) : ∀ c ∈ chars, isPlain c = true := by
  cases numeral with
  | whole digits => exact fun c member => isPlain_of_isDigit c (digits.digits c member)
  | fraction whole fraction =>
    rw [List.forall_mem_append, List.forall_mem_cons]
    exact ⟨fun c member => isPlain_of_isDigit c (whole.digits c member), by decide,
      fun c member => isPlain_of_isDigit c (fraction.digits c member)⟩

theorem Magnitude.plain {chars : List Char} (magnitude : Magnitude chars) : chars.all isPlain = true := by
  cases magnitude with
  | numeral numeral => exact List.all_eq_true.mpr numeral.plain
  | infinity => decide
  | nan => decide

theorem balanced_toString_nat (value : Nat) : Balanced (toString value).toList :=
  .plain (numeral_toString_nat value).plain

theorem balanced_toString_int (value : Int) : Balanced (toString value).toList := by
  cases value with
  | ofNat value => exact balanced_toString_nat value
  | negSucc value =>
    rw [toString_negSucc]
    exact .append_texts _ _ ⟨_, rfl⟩ (balanced_toString_nat _)

theorem balanced_write (value : Float) : Balanced (Decimal.Style.source.write value).toList := by
  obtain ⟨sign, magnitude, written, signed, isMagnitude⟩ := exists_magnitude value
  rw [written]
  refine .append ?_ (.plain (List.all_eq_true.mp isMagnitude.plain))
  rcases signed with rfl | rfl
  · exact .nil
  · exact ⟨_, rfl⟩

end Numbers

section Types

def startsNoLiteral (c : Char) : Bool := c != '"' && c != '@'

/-- A text that can be part of the spelling of a type: balanced, and without literals. -/
structure TypeText (text : String) : Prop where
  balanced : Balanced text.toList
  chars : text.toList.all startsNoLiteral = true

theorem TypeText.plain {text : String} (plain : ∀ c ∈ text.toList, isPlain c = true) : TypeText text where
  balanced := .plain plain
  chars := by
    rw [List.all_eq_true]
    intro c member
    have unmarked := plain c member
    rw [startsNoLiteral, Bool.and_eq_true, bne_iff_ne, bne_iff_ne]
    constructor <;> (rintro rfl; exact absurd unmarked (by decide))

section Slots

/-- Where no character starts a literal, code stays code. -/
theorem context_of_scan {first last : Position} {chars : List Char} {pieces : List Piece}
    (scanned : scan first chars = some (last, pieces)) (inCode : first.context = .code)
    (ofType : chars.all startsNoLiteral = true) : last.context = .code := by
  induction chars generalizing first pieces with
  | nil =>
    cases scanned
    exact inCode
  | cons c chars ih =>
    rw [List.all_cons, Bool.and_eq_true] at ofType
    obtain ⟨after, inner, steps, continued, rfl⟩ := exists_of_scan_cons scanned
    refine ih continued ?_ ofType.2
    have quote : c ≠ '"' := by
      rintro rfl
      exact absurd ofType.1 (by decide)
    have mark : c ≠ '@' := by
      rintro rfl
      exact absurd ofType.1 (by decide)
    simp only [Position.next, inCode, Position.nextInCode, if_neg quote, if_neg mark] at steps
    grind

/-- A balanced text in the place of another one leaves all brackets as they are. -/
theorem scan_replaceFrom {pattern replacement : List Char} (some : pattern ≠ []) (balanced : Balanced pattern)
    (inserted : Balanced replacement) (skip : Nat) (chars : List Char) (ofType : chars.all startsNoLiteral = true)
    (brackets : List Bracket) (last : Position) (pieces : List Piece)
    (scanned : scan ⟨brackets, .code⟩ (chars.drop skip) = .some (last, pieces)) :
    ∃ others, scan ⟨brackets, .code⟩ (Text.replaceFrom pattern replacement skip chars) = .some (last, others) := by
  fun_induction Text.replaceFrom pattern replacement skip chars generalizing brackets pieces with
  | case1 => exact ⟨pieces, by simpa using scanned⟩
  | case2 skip c rest ih =>
    rw [List.all_cons, Bool.and_eq_true] at ofType
    exact ih ofType.2 brackets pieces scanned
  | case3 c rest starts ih =>
    rw [List.all_cons, Bool.and_eq_true] at ofType
    obtain ⟨tail, split⟩ := List.isPrefixOf_iff_prefix.mp starts
    obtain ⟨_, stays⟩ := balanced.scan_eq brackets
    rw [List.drop_zero, ← split] at scanned
    obtain ⟨following, scanned⟩ := exists_of_scan_append scanned stays
    have behind : rest.drop (pattern.length - 1) = tail := by
      cases pattern with
      | nil => exact absurd rfl some
      | cons first pattern =>
        cases split
        simp
    obtain ⟨others, replaced⟩ := ih ofType.2 brackets following (by rw [behind]; exact scanned)
    obtain ⟨_, inserted⟩ := inserted.scan_eq brackets
    exact ⟨_, scan_append inserted replaced⟩
  | case4 c rest other ih =>
    rw [List.all_cons, Bool.and_eq_true] at ofType
    obtain ⟨after, inner, steps, continued, rfl⟩ := exists_of_scan_cons scanned
    have single : scan ⟨brackets, .code⟩ [c] = Option.some (after, _) := scan_cons c steps rfl
    have inCode : after.context = .code := context_of_scan single rfl (by simp [ofType.1])
    obtain ⟨within, context⟩ := after
    cases inCode
    obtain ⟨others, replaced⟩ := ih ofType.2 within inner continued
    exact ⟨_, scan_cons c steps replaced⟩

end Slots

instance (chars : List Char) : Decidable (Balanced chars) :=
  decidable_of_iff ((scan .outermost chars).map Prod.fst = some .outermost) (by
    constructor
    · intro found
      obtain ⟨⟨_, pieces⟩, scanned, rfl⟩ := Option.map_eq_some_iff.mp found
      exact ⟨pieces, scanned⟩
    · rintro ⟨pieces, scanned⟩
      rw [scanned]
      rfl)

namespace TypeText

theorem append (first second : String) (ofType : TypeText first) (following : TypeText second) :
    TypeText (first ++ second) where
  balanced := .append_texts first second ofType.balanced following.balanced
  chars := by rw [String.toList_append, List.all_append, ofType.chars, following.chars]; rfl

theorem intercalate {separator : String} (apart : TypeText separator) (pieces : List String)
    (ofTypes : ∀ piece ∈ pieces, TypeText piece) : TypeText (separator.intercalate pieces) :=
  forall_intercalate ⟨.nil, rfl⟩ append apart pieces ofTypes

theorem fill {format : String} (position : Nat) {value : String} (ofType : TypeText format)
    (inserted : TypeText value) : TypeText (TypeSyntax.fill format position value) := by
  have slot : Balanced (TypeSyntax.slot position) := by
    obtain ⟨pieces, digits⟩ := balanced_toString_nat position
    exact ⟨_, Shows.group .curly ⟨pieces, digits⟩⟩
  constructor
  · obtain ⟨pieces, shows⟩ := ofType.balanced
    obtain ⟨others, scanned⟩ := scan_replaceFrom (List.cons_ne_nil _ _) slot inserted.balanced 0 format.toList
      ofType.chars [] .outermost pieces shows
    rw [TypeSyntax.fill, String.toList_ofList]
    exact ⟨others, scanned⟩
  · rw [TypeSyntax.fill, String.toList_ofList, List.all_eq_true]
    intro c member
    by_contra other
    refine Text.notMem_replaceFrom c _ _ 0 _ ?_ ?_ member
    · exact fun within => other (List.all_eq_true.mp ofType.chars c within)
    · exact fun within => other (List.all_eq_true.mp inserted.chars c within)

theorem fillFrom {format : String} (position : Nat) (components : List String) (ofType : TypeText format)
    (inserted : ∀ component ∈ components, TypeText component) :
    TypeText (TypeSyntax.fillFrom format position components) := by
  induction components generalizing format position with
  | nil => exact ofType
  | cons component rest ih =>
    rw [List.forall_mem_cons] at inserted
    exact ih _ (fill position ofType inserted.1) inserted.2

/-- A spelling is put together from texts of types. -/
theorem apply (spelling : TypeSyntax) (components : List String) (ofTypes : ∀ text ∈ spelling.texts, TypeText text)
    (inserted : ∀ component ∈ components, TypeText component) : TypeText (spelling.apply components) := by
  cases spelling with
  | plain text => exact ofTypes text List.mem_cons_self
  | positional format => exact fillFrom 0 components (ofTypes format List.mem_cons_self) inserted
  | variadic format separator =>
    simp only [TypeSyntax.texts, List.forall_mem_cons] at ofTypes
    exact fill 0 ofTypes.1 (intercalate ofTypes.2.1 components inserted)
  | callable format procedure bare void separator =>
    simp only [TypeSyntax.texts, List.forall_mem_cons] at ofTypes
    obtain ⟨format, procedure, bare, _, separator, _⟩ := ofTypes
    rw [TypeSyntax.apply]
    split
    · split
      · exact bare
      · refine fill 0 procedure (intercalate separator _ fun param listed => ?_)
        exact inserted param (List.dropLast_subset _ listed)
    · exact fill 0 format (intercalate separator components inserted)

end TypeText

end Types

end Retarget.CSharp
