import Retarget.Proofs.ExpressionLines

/-! Loose expressions. A postfix form is written right behind its operand, without parentheses. An operand is loose if
an operator, a sign or an arrow then stands outside all brackets in front of the form. -/
namespace Retarget
namespace CSharp

/-- What operators consist of. -/
def isSign (c : Char) : Bool := isPlain c && !continuesName c && !Text.isBlank c

structure IsOperator (chars : List Char) : Prop where
  filled : chars ≠ []
  signs : chars.all isSign = true

instance (chars : List Char) : Decidable (IsOperator chars) :=
  decidable_of_iff (chars ≠ [] ∧ chars.all isSign = true)
    ⟨fun ⟨filled, signs⟩ => ⟨filled, signs⟩, fun operator => ⟨operator.filled, operator.signs⟩⟩

theorem IsOperator.plain {chars : List Char} (isOperator : IsOperator chars) : ∀ c ∈ chars, isPlain c = true := by
  intro c member
  have sign := List.all_eq_true.mp isOperator.signs c member
  rw [isSign, Bool.and_eq_true, Bool.and_eq_true] at sign
  exact sign.1.1

theorem IsOperator.exists_head {chars : List Char} (isOperator : IsOperator chars) :
    ∃ c, chars.head? = some c ∧ c ∈ chars ∧ continuesName c = false ∧ Text.isBlank c = false := by
  obtain ⟨filled, signs⟩ := isOperator
  cases chars with
  | nil => exact absurd rfl filled
  | cons c others =>
    simp only [List.all_cons, isSign, Bool.and_eq_true, Bool.not_eq_true'] at signs
    exact ⟨c, rfl, List.mem_cons_self, signs.1.1.2, signs.1.2⟩

def startsWithSign (text : String) : Bool := text.toList.head? == some '-'

section Numbers

/-- A number as it is written. -/
inductive Signed : List Char → Prop
  | positive {chars : List Char} : Magnitude chars → Signed chars
  | negative {chars : List Char} : Magnitude chars → Signed ('-' :: chars)

theorem signed_toString_int (value : Int) : Signed (toString value).toList := by
  cases value with
  | ofNat value => exact .positive (.numeral (numeral_toString_nat value))
  | negSucc value =>
    rw [toString_negSucc, String.toList_append]
    exact .negative (.numeral (numeral_toString_nat _))

theorem signed_write (value : Float) : Signed (Decimal.Style.source.write value).toList := by
  obtain ⟨sign, magnitude, written, rfl | rfl, isMagnitude⟩ := exists_magnitude value
  · rw [written]
    exact .positive isMagnitude
  · rw [written]
    exact .negative isMagnitude

theorem Signed.plain {chars : List Char} (signed : Signed chars) : ∀ c ∈ chars, isPlain c = true := by
  cases signed with
  | positive isMagnitude => exact List.all_eq_true.mp isMagnitude.plain
  | negative isMagnitude => exact List.forall_mem_cons.mpr ⟨by decide, List.all_eq_true.mp isMagnitude.plain⟩

theorem Signed.primary {text : String} (signed : Signed text.toList) (unsigned : startsWithSign text = false) :
    Primary (text.toList.map .char) := by
  rw [startsWithSign] at unsigned
  generalize text.toList = chars at signed unsigned
  cases signed with
  | positive isMagnitude => exact isMagnitude.primary
  | negative => cases unsigned

/-- No primary expression starts with a sign. -/
theorem rejected_of_head {chars : List Char} {c : Char} (head : chars.head? = some c) (sign : continuesName c = false)
    (filled : Text.isBlank c = false) (rest : List Piece) :
    Rejected (chars.map .char ++ rest) ∧ Visible (chars.map .char ++ rest) := by
  obtain ⟨others, rfl⟩ := List.head?_eq_some_iff.mp head
  exact ⟨rejected_of_sign sign _, visible_of_char filled List.mem_cons_self⟩

end Numbers

end CSharp

namespace Node

open CSharp

/-- The expression that a postfix form of a node is written behind. A call of the library may have one too. -/
def postfixOperand? (library : Library) (node : Node) : Option Node :=
  match node.kind with
  | .attr object _ => some object
  | .index sequence _ => some sequence
  | .call function _ => some function
  | .methodCall receiver _ _ => some receiver
  | .staticCall receiver _ _ => some receiver
  | .standardMethodCall receiver message _ =>
    if (library.method? receiver.type.baseName message).any fun entry => startsWithReceiver entry.template then
      some receiver
    else none
  | _ => none

/-- Whether a node is written with an operator or an arrow outside all brackets. A sign is a prefix operator. -/
def bindsLoosely (node : Node) : Bool :=
  match node.kind with
  | .binaryOp .. | .comparison .. | .unaryOp .. | .anonymousFunction .. => true
  | .int value => startsWithSign (toString value)
  | .float value => startsWithSign (Decimal.Style.source.write value)
  | _ => false

/-- A node is loose if it binds loosely, or if what its postfix form is written behind is loose. -/
inductive Loose (library : Library) : Node → Prop
  | here {node : Node} : node.bindsLoosely = true → Loose library node
  | behind {node operand : Node} : node.postfixOperand? library = some operand → Loose library operand →
      Loose library node

/-- The expression that the text of a node starts with. -/
def leading? (node : Node) : Option Node :=
  match node.kind with
  | .attr object _ => some object
  | .index sequence _ => some sequence
  | .call function _ => some function
  | .methodCall receiver _ _ => some receiver
  | .staticCall receiver _ _ => some receiver
  | .standardMethodCall receiver _ _ => some receiver
  | .binaryOp _ left _ => some left
  | .comparison _ left _ => some left
  | _ => none

def hasOperator (node : Node) : Bool :=
  node.tag == .binaryOp || node.tag == .comparison || node.tag == .unaryOp

/-- A node whose parts can be spelled in C#: its names are names, its operator is one, it starts with an expression if
with any node, only classes are instantiated, and collections have types with all their components. -/
structure Spelled (node : Node) : Prop where
  names : node.hasOperator = false → ∀ name ∈ node.names, IsIdentifier name.toList
  operators : node.hasOperator = true → ∀ name ∈ node.names, IsOperator name.toList
  leading : ∀ child ∈ node.leading?, child.tag.isExpression = true
  created : node.tag = .newInstance → ∀ className ∈ node.children.head?, className.tag = .typename
  types : [.list, .dictionary, .set, .array].contains node.tag = true → node.type.isComplete = true

instance (node : Node) : Decidable node.Spelled :=
  decidable_of_iff ((node.hasOperator = false → ∀ name ∈ node.names, IsIdentifier name.toList) ∧
      (node.hasOperator = true → ∀ name ∈ node.names, IsOperator name.toList) ∧
      (∀ child ∈ node.leading?, child.tag.isExpression = true) ∧
      (node.tag = .newInstance → ∀ className ∈ node.children.head?, className.tag = .typename) ∧
      ([.list, .dictionary, .set, .array].contains node.tag = true → node.type.isComplete = true))
    ⟨fun ⟨names, operators, leading, created, types⟩ => ⟨names, operators, leading, created, types⟩,
      fun spelled => ⟨spelled.names, spelled.operators, spelled.leading, spelled.created, spelled.types⟩⟩

theorem Spelled.balanced {node : Node} (spelled : node.Spelled) : BalancedNames node := by
  intro name listed
  refine .plain fun c member => ?_
  cases operates : node.hasOperator with
  | false => exact isPlain_of_continuesName c (List.all_eq_true.mp (spelled.names operates name listed).rest c member)
  | true => exact (spelled.operators operates name listed).plain c member

variable {library : Library} {node operand : Node}

theorem leading?_of_postfixOperand? (applied : node.postfixOperand? library = some operand) :
    node.leading? = some operand := by
  obtain ⟨kind, type⟩ := node
  cases kind with
  | standardMethodCall receiver message args =>
    simp only [postfixOperand?] at applied
    split_ifs at applied
    exact applied
  | _ => first | exact applied | cases applied

theorem mem_children_of_leading? {child : Node} (leads : node.leading? = some child) : child ∈ node.children := by
  obtain ⟨kind, type⟩ := node
  cases kind <;> cases leads <;> exact List.mem_cons_self

theorem exists_leading?_of_binary {op : String} (binary : binaryOperator? node = some op) :
    ∃ left, node.leading? = some left := by
  obtain ⟨kind, type⟩ := node
  cases kind with
  | binaryOp sign left right | comparison sign left right => exact ⟨left, rfl⟩
  | _ => cases binary

theorem loose_iff_of_postfixOperand? (applied : node.postfixOperand? library = some operand) :
    Loose library node ↔ Loose library operand := by
  constructor
  · rintro (loosely | ⟨alsoApplied, loose⟩)
    · obtain ⟨kind, type⟩ := node
      cases kind <;> first | (cases applied; done) | cases loosely
    · cases applied.symm.trans alsoApplied
      exact loose
  · exact .behind applied

end Node

namespace CSharp

open Node

/-- A row is a primary expression if its node is not loose, and the start of none if it is. -/
structure Groups (library : Library) (node : Node) (row : List Piece) : Prop where
  primary : ¬Loose library node → Primary row
  rejected : Loose library node → Rejected row

namespace Groups

variable {library : Library} {node operand : Node} {row : List Piece}

theorem known (groups : Groups library node row) : Primary row ∨ Rejected row := by
  by_cases loose : Loose library node
  · exact .inr (groups.rejected loose)
  · exact .inl (groups.primary loose)

theorem of_primary (tight : node.bindsLoosely = false) (none : node.postfixOperand? library = none)
    (primary : Primary row) : Groups library node row := by
  refine ⟨fun _ => primary, ?_⟩
  rintro (loosely | ⟨applied, _⟩)
  · rw [tight] at loosely
    cases loosely
  · rw [none] at applied
    cases applied

theorem of_rejected (loosely : node.bindsLoosely = true) (rejected : Rejected row) : Groups library node row :=
  ⟨fun tight => absurd (.here loosely) tight, fun _ => rejected⟩

theorem behind (applied : node.postfixOperand? library = some operand) (groups : Groups library operand row)
    {forms : List Piece} (postfixes : Postfixes forms) : Groups library node (row ++ forms) := by
  constructor
  · intro tight
    rw [loose_iff_of_postfixOperand? applied] at tight
    exact (groups.primary tight).append postfixes
  · intro loose
    exact (groups.rejected ((loose_iff_of_postfixOperand? applied).mp loose)).append forms

end Groups

end CSharp
end Retarget
