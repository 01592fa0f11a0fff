import Retarget.Tree.Node

/-! Operators of C#: how tightly they bind, and when an operand needs parentheses. -/
namespace Retarget.CSharp

/-- The binding strength of a binary operator; a higher one binds tighter. -/
def precedence (op : String) : Nat :=
  match op with
  | "||" => 1
  | "&&" => 2
  | "|" => 3
  | "^" => 4
  | "&" => 5
  | "==" | "!=" => 6
  | "<" | ">" | "<=" | ">=" => 7
  | "<<" | ">>" => 8
  | "+" | "-" => 9
  | "*" | "/" | "%" => 10
  | _ => 11

/-- The operator of a node that is a binary operation or a comparison. -/
def binaryOperator? (node : Node) : Option String :=
  match node.kind with
  | .binaryOp op _ _ => some op
  | .comparison op _ _ => some op
  | _ => none

inductive Side where
  | left
  | right
  deriving DecidableEq

/-- The attribute that holds the operand of a side. -/
def Side.name : Side → String
  | left => "left"
  | right => "right"

/-- Whether an operand needs parentheses: it binds looser than its parent, or as tightly and stands
on the right, so that the grouping of the tree survives for operators that do not associate. -/
def wrapsOperand (parent operand : Node) (side : Side) : Bool :=
  match binaryOperator? parent, binaryOperator? operand with
  | some outer, some inner =>
    precedence inner < precedence outer ||
      (precedence inner == precedence outer && side == .right)
  | _, _ => false

/-- Whether two prefix operators in a row would read as one: `- -x` is not `--x`. -/
def fuses (outer inner : String) : Bool :=
  match outer.toList.getLast?, inner.toList.head? with
  | some a, some b => a == b && (a == '+' || a == '-')
  | _, _ => false

/-- Whether the operand of a prefix operator needs parentheses. -/
def wrapsPrefixed (parent operand : Node) : Bool :=
  (binaryOperator? operand).isSome ||
    match parent.kind, operand.kind with
    | .unaryOp outer _, .unaryOp inner _ => fuses outer inner
    | _, _ => false

end Retarget.CSharp
