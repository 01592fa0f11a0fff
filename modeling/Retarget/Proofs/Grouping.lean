import Retarget.CSharp.Overrides
import Retarget.Proofs.OperatorTokens

/-! Grouping by parentheses. Expressions are spelled with parentheses where an operand would be read
otherwise, which is decided from the operator and its operand alone; the text of every expression is then
read at the level of its operator, and as that expression only. -/
namespace Retarget.CSharp

namespace Expression

/-- The level of the outermost operator. -/
def level : Expression → Nat
  | binary op _ _ => op.level
  | _ => 11

/-- Whether a prefix operator takes an operand in parentheses. -/
def wrapsUnder (op : PrefixOperator) : Expression → Bool
  | binary _ _ _ => true
  | prefixed inner _ => fuses op.symbol inner.symbol
  | _ => false

def spelling : Expression → String
  | name identifier => identifier.text
  | number value => toString value
  | prefixed op operand => op.symbol ++ parenthesize (operand.wrapsUnder op) operand.spelling
  | binary op left right =>
    parenthesize (left.level < op.level) left.spelling ++ " " ++ op.symbol ++ " " ++
      parenthesize (right.level ≤ op.level) right.spelling

def group (wrap : Bool) (row : List Token) : List Token :=
  if wrap then .opening :: (row ++ [.closing]) else row

/-- The tokens of the spelling. -/
def row : Expression → List Token
  | name identifier => [.name identifier]
  | number value => [.number value]
  | prefixed op operand => .symbol op.symbol :: group (operand.wrapsUnder op) operand.row
  | binary op left right =>
    group (left.level < op.level) left.row ++ .symbol op.symbol :: group (right.level ≤ op.level) right.row

theorem level_pos (expression : Expression) : 0 < expression.level := by
  cases expression with
  | binary op => exact op.level_pos
  | _ => exact Nat.succ_pos 10

section Derives

theorem derives_group {level : Nat} (wrap : Bool) (expression : Expression) (low : level ≤ 11)
    (derived : Derives expression.level expression.row expression) (bare : wrap = false → level ≤ expression.level) :
    Derives level (group wrap expression.row) expression := by
  cases wrap with
  | true => exact (derived.loosen expression.level_pos).group.loosen low
  | false => exact derived.loosen (bare rfl)

/-- Every expression is derived from the tokens of its spelling at the level of its operator. -/
theorem derives_row (expression : Expression) : Derives expression.level expression.row expression := by
  induction expression with
  | name identifier => exact .name identifier
  | number value => exact .number value
  | prefixed op operand ih =>
    refine .prefixed op (derives_group _ operand (Nat.le_refl 11) ih fun bare => ?_)
    cases operand with
    | binary => cases bare
    | _ => exact Nat.le_refl 11
  | binary op left right ihLeft ihRight =>
    have low := op.level_le
    refine .binary op (derives_group _ left (by omega) ihLeft fun bare => ?_)
      (derives_group _ right (by omega) ihRight fun bare => ?_)
    · simpa using bare
    · have tighter := of_decide_eq_false bare
      omega

end Derives

section Tokens

/-- A text whose tokens are these, whatever follows that is no part of a word. -/
def Spells (text : String) (row : List Token) : Prop :=
  ∀ rest, (∀ c ∈ rest.head?, c = ' ' ∨ c = ')') → tokens (text.toList ++ rest) = prepend row (tokens rest)

theorem Spells.parenthesize {text : String} {row : List Token} (spells : Spells text row) (wrap : Bool) :
    Spells (parenthesize wrap text) (group wrap row) := by
  cases wrap with
  | false => exact spells
  | true =>
    intro rest ends
    have inner := spells (')' :: rest) (by simp)
    rw [tokens_closing, prepend_prepend] at inner
    have characters : (CSharp.parenthesize true text).toList ++ rest = '(' :: (text.toList ++ ')' :: rest) := by
      simp [CSharp.parenthesize]
    rw [characters, tokens_opening, inner, prepend_prepend]
    rfl

theorem not_continuesName_of_ends (rest : List Char) (ends : ∀ c ∈ rest.head?, c = ' ' ∨ c = ')') (c : Char)
    (first : c ∈ rest.head?) : continuesName c = false := by
  rcases ends c first with rfl | rfl <;> decide

theorem goesOn_prefix (op : PrefixOperator) (c : Char) (part : c = '(' ∨ continuesName c = true) :
    goesOn op.symbol.toList c = false := by
  have marks : goesOn op.symbol.toList c = true → c = '+' ∨ c = '-' ∨ c = '=' := by
    cases op <;> simp +contextual [PrefixOperator.symbol, goesOn, doubleSymbols, continuesName, startsName]
  rw [← Bool.not_eq_true]
  intro goes
  rcases part with rfl | part
  · exact absurd (marks goes) (by decide)
  · rcases marks goes with rfl | rfl | rfl <;> exact absurd part (by decide)

/-- What the spelling of an operand starts with does not run into the prefix operator before it. -/
theorem goesOn_spelling (op : PrefixOperator) (operand : Expression) (rest : List Char) (c : Char)
    (first : c ∈ ((parenthesize (operand.wrapsUnder op) operand.spelling).toList ++ rest).head?) :
    goesOn op.symbol.toList c = false := by
  cases wraps : operand.wrapsUnder op with
  | true =>
    have opening : c = '(' := by
      rw [wraps] at first
      simpa [parenthesize, eq_comm] using first
    exact goesOn_prefix op c (.inl opening)
  | false =>
    rw [wraps, parenthesize, if_neg Bool.false_ne_true] at first
    cases operand with
    | name identifier =>
      obtain ⟨start, others, characters, starts⟩ := identifier.exists_first
      rw [spelling, characters] at first
      cases first
      exact goesOn_prefix op _ (.inr (by rw [continuesName, starts, Bool.true_or]))
    | number value =>
      rw [spelling, toList_toString_nat] at first
      cases written : Nat.toDigits 10 value with
      | nil => exact absurd written Nat.toDigits_ne_nil
      | cons digit digits =>
        rw [written] at first
        cases first
        have member : c ∈ Nat.toDigits 10 value := by rw [written]; exact List.mem_cons_self
        exact goesOn_prefix op _ (.inr (continuesName_of_isDigit _
          (Nat.isDigit_of_mem_toDigits (by decide) (by decide) member)))
    | prefixed inner other =>
      have symbol : c ∈ inner.symbol.toList.head? := by
        rw [spelling, String.toList_append, List.append_assoc] at first
        cases inner <;> exact first
      have apart : fuses op.symbol inner.symbol = false := wraps
      cases op <;> cases inner <;> cases symbol <;> first | decide | exact absurd apart (by decide)
    | binary => cases wraps

theorem spells_row (expression : Expression) : Spells expression.spelling expression.row := by
  induction expression with
  | name identifier =>
    intro rest ends
    obtain ⟨first, others, characters, _⟩ := identifier.exists_first
    exact tokens_word _ (by rw [characters]; exact List.cons_ne_nil _ _) (List.all_eq_true.mp identifier.rest) _
      (tokenOf_identifier identifier) rest (not_continuesName_of_ends rest ends)
  | number value =>
    intro rest ends
    have digits : ∀ c ∈ (toString value).toList, continuesName c = true := by
      rw [toList_toString_nat]
      exact fun c member => continuesName_of_isDigit c (Nat.isDigit_of_mem_toDigits (by decide) (by decide) member)
    exact tokens_word _ (by rw [toList_toString_nat]; exact Nat.toDigits_ne_nil) digits _ (tokenOf_number value) rest
      (not_continuesName_of_ends rest ends)
  | prefixed op operand ih =>
    intro rest ends
    have inner := ih.parenthesize (operand.wrapsUnder op) rest ends
    rw [spelling, String.toList_append, List.append_assoc, tokens_prefix op _ (goesOn_spelling op operand rest), inner,
      prepend_prepend]
    rfl
  | binary op left right ihLeft ihRight =>
    intro rest ends
    have onRight := ihRight.parenthesize (right.level ≤ op.level) rest ends
    have onLeft := ihLeft.parenthesize (left.level < op.level)
      (' ' :: (op.symbol.toList ++
        ' ' :: ((CSharp.parenthesize (right.level ≤ op.level) right.spelling).toList ++ rest)))
      (by simp)
    rw [tokens_blank, tokens_binary, onRight, prepend_prepend, prepend_prepend] at onLeft
    rw [spelling, row, ← List.singleton_append, ← List.append_assoc]
    refine Eq.trans ?_ onLeft
    simp only [String.toList_append, List.append_assoc]
    rfl

end Tokens

/-- The spelling of an expression stands for that expression and for no other. -/
theorem reads_spelling_iff (expression read : Expression) : Reads expression.spelling read ↔ read = expression := by
  have spelled : tokens expression.spelling.toList = some expression.row := by
    have all := spells_row expression [] (by simp)
    rw [List.append_nil] at all
    rw [all, prepend, tokens, tokensFrom, tokenOf, Option.map_some, List.append_nil]
  have derived : Derives 1 expression.row expression := (derives_row expression).loosen expression.level_pos
  constructor
  · rintro ⟨found, same, other⟩
    rw [spelled, Option.some_inj] at same
    exact (same ▸ other).unique derived
  · rintro rfl
    exact ⟨_, spelled, derived⟩

end Expression
end Retarget.CSharp
