import Retarget.CSharp.Operators
import Retarget.Text

/-! The grammar of operators in C#. Prefix operators bind tightest and binary ones by their levels, where
those of one level group to the left. The grammar reads every row of tokens in at most one way. -/
namespace Retarget.CSharp

inductive BinaryOperator where
  | or | and | bitOr | bitXor | bitAnd | equal | unequal | less | greater | atMost | atLeast | shiftLeft | shiftRight
  | plus | minus | times | divide | remainder
  deriving DecidableEq

namespace BinaryOperator

def all : List BinaryOperator :=
  [or, and, bitOr, bitXor, bitAnd, equal, unequal, less, greater, atMost, atLeast, shiftLeft, shiftRight, plus, minus,
    times, divide, remainder]

def symbol : BinaryOperator → String
  | or => "||"
  | and => "&&"
  | bitOr => "|"
  | bitXor => "^"
  | bitAnd => "&"
  | equal => "=="
  | unequal => "!="
  | less => "<"
  | greater => ">"
  | atMost => "<="
  | atLeast => ">="
  | shiftLeft => "<<"
  | shiftRight => ">>"
  | plus => "+"
  | minus => "-"
  | times => "*"
  | divide => "/"
  | remainder => "%"

/-- The level at which an operator stands in the grammar; one of a higher level binds tighter. -/
def level : BinaryOperator → Nat
  | or => 1
  | and => 2
  | bitOr => 3
  | bitXor => 4
  | bitAnd => 5
  | equal | unequal => 6
  | less | greater | atMost | atLeast => 7
  | shiftLeft | shiftRight => 8
  | plus | minus => 9
  | times | divide | remainder => 10

def ofSymbol? (symbol : String) : Option BinaryOperator := all.find? (·.symbol == symbol)

theorem ofSymbol?_symbol (op : BinaryOperator) : ofSymbol? op.symbol = some op := by
  cases op <;> decide

theorem symbol_of_ofSymbol? (symbol : String) (op : BinaryOperator) (found : ofSymbol? symbol = some op) :
    op.symbol = symbol := by
  simpa using List.find?_some found

theorem symbol_injective (op other : BinaryOperator) (same : op.symbol = other.symbol) : op = other := by
  have found := op.ofSymbol?_symbol
  rw [same, ofSymbol?_symbol] at found
  exact (Option.some_inj.mp found).symm

theorem level_pos (op : BinaryOperator) : 0 < op.level := by
  cases op <;> decide

theorem level_le (op : BinaryOperator) : op.level ≤ 10 := by
  cases op <;> decide

/-- The table by which operands are grouped has the levels of the grammar. -/
theorem precedence_symbol (op : BinaryOperator) : precedence op.symbol = op.level := by
  cases op <;> rfl

end BinaryOperator

inductive PrefixOperator where
  | plus
  | minus
  | not
  | complement
  deriving DecidableEq

namespace PrefixOperator

def all : List PrefixOperator := [plus, minus, not, complement]

def symbol : PrefixOperator → String
  | plus => "+"
  | minus => "-"
  | not => "!"
  | complement => "~"

def ofSymbol? (symbol : String) : Option PrefixOperator := all.find? (·.symbol == symbol)

theorem ofSymbol?_symbol (op : PrefixOperator) : ofSymbol? op.symbol = some op := by
  cases op <;> decide

end PrefixOperator

/-- Letters, underscores and whatever lies beyond ASCII, blanks excepted. -/
def startsName (c : Char) : Bool := (c.isAlpha || c == '_' || 0x80 ≤ c.toNat) && !Text.isBlank c

def continuesName (c : Char) : Bool := startsName c || c.isDigit

@[ext]
structure Identifier where
  text : String
  start : text.toList.head?.any startsName = true
  rest : text.toList.all continuesName = true
  deriving DecidableEq

inductive Expression where
  | name (name : Identifier)
  | number (value : Nat)
  | prefixed (op : PrefixOperator) (operand : Expression)
  | binary (op : BinaryOperator) (left right : Expression)
  deriving DecidableEq

inductive Token where
  | name (name : Identifier)
  | number (value : Nat)
  | opening
  | closing
  | symbol (text : String)
  deriving DecidableEq

/-- What a row of tokens stands for at a level. -/
inductive Derives : Nat → List Token → Expression → Prop where
  | name (name : Identifier) : Derives 11 [.name name] (.name name)
  | number (value : Nat) : Derives 11 [.number value] (.number value)
  | group {tokens : List Token} {expression : Expression} : Derives 1 tokens expression →
      Derives 11 (.opening :: (tokens ++ [.closing])) expression
  | prefixed (op : PrefixOperator) {tokens : List Token} {operand : Expression} : Derives 11 tokens operand →
      Derives 11 (.symbol op.symbol :: tokens) (.prefixed op operand)
  | binary (op : BinaryOperator) {before after : List Token} {left right : Expression} :
      Derives op.level before left → Derives (op.level + 1) after right →
      Derives op.level (before ++ .symbol op.symbol :: after) (.binary op left right)
  | tighter {level : Nat} {tokens : List Token} {expression : Expression} : Derives (level + 1) tokens expression →
      Derives level tokens expression

theorem Derives.loosen {level tight : Nat} {tokens : List Token} {expression : Expression} (loose : level ≤ tight)
    (derived : Derives tight tokens expression) : Derives level tokens expression := by
  induction loose with
  | refl => exact derived
  | step _ ih => exact ih derived.tighter

/-! Reading by climbing levels, with an allowance of steps: an operand, then operators behind it that
are tight enough, each with the operand to its right. -/
namespace Climbing

/-- What was read behind an opening parenthesis, without the closing one. -/
def close : Expression × List Token → Option (Expression × List Token)
  | (inner, .closing :: rest) => some (inner, rest)
  | _ => none

mutual
def operand : Nat → List Token → Option (Expression × List Token)
  | _ + 1, .name name :: rest => some (.name name, rest)
  | _ + 1, .number value :: rest => some (.number value, rest)
  | steps + 1, .opening :: rest => do close (← expression steps 1 rest)
  | steps + 1, .symbol symbol :: rest => do
    let op ← PrefixOperator.ofSymbol? symbol
    let (inner, rest) ← operand steps rest
    return (.prefixed op inner, rest)
  | _, _ => none
def expression : Nat → Nat → List Token → Option (Expression × List Token)
  | steps + 1, level, tokens => do
    let (first, rest) ← operand steps tokens
    operators steps level first rest
  | 0, _, _ => none
def operators : Nat → Nat → Expression → List Token → Option (Expression × List Token)
  | steps + 1, level, left, .symbol symbol :: rest =>
    match BinaryOperator.ofSymbol? symbol with
    | some op =>
      if level ≤ op.level then do
        let (right, rest) ← expression steps (op.level + 1) rest
        operators steps level (.binary op left right) rest
      else some (left, .symbol symbol :: rest)
    | none => some (left, .symbol symbol :: rest)
  | _ + 1, _, left, tokens => some (left, tokens)
  | 0, _, _, _ => none
end

/-- With enough steps, the result is always this one. -/
def Settles (read : Nat → Option β) (result : β) : Prop :=
  ∃ least, ∀ steps, least ≤ steps → read steps = some result

theorem Settles.unique {read : Nat → Option β} {first second : β} (one : Settles read first)
    (other : Settles read second) : first = second := by
  obtain ⟨least, settled⟩ := one
  obtain ⟨bound, agreed⟩ := other
  have same := (settled (max least bound) (Nat.le_max_left ..)).symm.trans (agreed _ (Nat.le_max_right ..))
  exact Option.some_inj.mp same

theorem Settles.const (result : β) : Settles (fun _ => some result) result := ⟨0, fun _ _ => rfl⟩

/-- One step that needs no step before it. -/
theorem Settles.succ {read next : Nat → Option β} {result : β} (settled : Settles next result)
    (steps : ∀ steps, read (steps + 1) = next steps) : Settles read result := by
  obtain ⟨least, settled⟩ := settled
  refine ⟨least + 1, fun count enough => ?_⟩
  obtain ⟨before, rfl⟩ : ∃ before, count = before + 1 := ⟨count - 1, by omega⟩
  rw [steps, settled before (by omega)]

theorem Settles.bind {read : Nat → Option α} {middle : α} {result : β} (first : Settles read middle)
    (next : Nat → α → Option β) (second : Settles (next · middle) result) :
    Settles (fun steps => read steps >>= next steps) result := by
  obtain ⟨least, settled⟩ := first
  obtain ⟨bound, agreed⟩ := second
  refine ⟨max least bound, fun steps enough => ?_⟩
  have done := agreed steps (by omega)
  simpa only [settled steps (by omega), Option.bind_eq_bind, Option.bind_some] using done

/-- No operator follows that binds tighter than a level. -/
def Stops (level : Nat) (rest : List Token) : Prop :=
  ∀ op tail, rest = .symbol (BinaryOperator.symbol op) :: tail → op.level ≤ level

theorem Stops.mono {level tight : Nat} {rest : List Token} (stops : Stops level rest) (loose : level ≤ tight) :
    Stops tight rest := fun op tail follows => Nat.le_trans (stops op tail follows) loose

/-- The operators end where only looser ones follow. -/
theorem settles_operators (level : Nat) (left : Expression) (rest : List Token) (stops : Stops level rest) :
    Settles (operators · (level + 1) left rest) (left, rest) := by
  refine (Settles.const (left, rest)).succ fun steps => ?_
  cases rest with
  | nil => rfl
  | cons token rest =>
    cases token with
    | symbol symbol =>
      rw [operators]
      cases found : BinaryOperator.ofSymbol? symbol with
      | none => rfl
      | some op =>
        have spelled := BinaryOperator.symbol_of_ofSymbol? symbol op found
        have loose := stops op rest (by rw [spelled])
        exact if_neg (by omega)
    | _ => rfl

theorem settles_expression {tokens rest : List Token} {first : Expression} {level : Nat}
    {result : Expression × List Token} (begins : Settles (operand · tokens) (first, rest))
    (continues : Settles (operators · level first rest) result) : Settles (expression · level tokens) result := by
  have both := begins.bind (fun steps read => operators steps level read.1 read.2) continues
  exact both.succ fun steps => by rw [expression]

/-- What is derived is read: at the tightest level as an operand, at any level as an expression, with the
operators behind it still to come. -/
theorem reads_derived {level : Nat} {tokens : List Token} {tree : Expression} (derived : Derives level tokens tree) :
    (11 ≤ level → ∀ rest, Settles (operand · (tokens ++ rest)) (tree, rest)) ∧
      ∀ low ≤ level, ∀ rest result, Stops level rest → Settles (operators · low tree rest) result →
        Settles (expression · low (tokens ++ rest)) result := by
  induction derived with
  | name name =>
    have single (rest : List Token) : Settles (operand · (.name name :: rest)) (.name name, rest) :=
      (Settles.const _).succ fun steps => by rw [operand]
    exact ⟨fun _ => single, fun low _ rest result _ continues => settles_expression (single rest) continues⟩
  | number value =>
    have single (rest : List Token) : Settles (operand · (.number value :: rest)) (.number value, rest) :=
      (Settles.const _).succ fun steps => by rw [operand]
    exact ⟨fun _ => single, fun low _ rest result _ continues => settles_expression (single rest) continues⟩
  | @group tokens tree _ ih =>
    have grouped (rest : List Token) :
        Settles (operand · (.opening :: (tokens ++ [.closing]) ++ rest)) (tree, rest) := by
      have inner := ih.2 1 (Nat.le_refl 1) (.closing :: rest) _ nofun (settles_operators 0 tree _ nofun)
      have closed := inner.bind (fun _ read => close read) (Settles.const (tree, rest))
      exact closed.succ fun steps => by rw [List.cons_append, List.append_assoc, operand, List.singleton_append]
    exact ⟨fun _ => grouped, fun low _ rest result _ continues => settles_expression (grouped rest) continues⟩
  | @prefixed op tokens tree _ ih =>
    have applied (rest : List Token) :
        Settles (operand · (.symbol op.symbol :: tokens ++ rest)) (.prefixed op tree, rest) := by
      have inner := ih.1 (Nat.le_refl 11) rest
      have closed := inner.bind (fun _ read => some (Expression.prefixed op read.1, read.2)) (Settles.const _)
      exact closed.succ fun steps => by rw [List.cons_append, operand, PrefixOperator.ofSymbol?_symbol]; rfl
    exact ⟨fun _ => applied, fun low _ rest result _ continues => settles_expression (applied rest) continues⟩
  | @binary op before after left right _ _ ihLeft ihRight =>
    refine ⟨fun tight => absurd op.level_le (by omega), fun low loose rest result stops continues => ?_⟩
    have follows : Stops op.level (.symbol op.symbol :: after ++ rest) := by
      intro other tail same
      rw [List.cons_append, List.cons.injEq, Token.symbol.injEq] at same
      exact Nat.le_of_eq (congrArg _ (BinaryOperator.symbol_injective op other same.1).symm)
    have onRight := ihRight.2 (op.level + 1) (Nat.le_refl _) rest _ (stops.mono (Nat.le_succ _))
      (settles_operators op.level right rest stops)
    have chained : Settles (operators · low left (.symbol op.symbol :: after ++ rest)) result := by
      have both := onRight.bind (fun steps read => operators steps low (.binary op left read.1) read.2) continues
      refine both.succ fun steps => ?_
      rw [List.cons_append, operators, BinaryOperator.ofSymbol?_symbol]
      exact if_pos loose
    rw [List.append_assoc]
    exact ihLeft.2 low loose _ result follows chained
  | tighter _ ih =>
    refine ⟨fun tight => ih.1 (by omega), fun low loose rest result stops continues => ?_⟩
    exact ih.2 low (by omega) rest result (stops.mono (Nat.le_succ _)) continues

end Climbing

/-- A row of tokens has at most one reading. -/
theorem Derives.unique {tokens : List Token} {first second : Expression} (one : Derives 1 tokens first)
    (other : Derives 1 tokens second) : first = second := by
  have reads {tree : Expression} (derived : Derives 1 tokens tree) :
      Climbing.Settles (Climbing.expression · 1 tokens) (tree, []) := by
    have ends := Climbing.settles_operators 0 tree [] nofun
    have read := (Climbing.reads_derived derived).2 1 (Nat.le_refl 1) [] _ nofun ends
    rwa [List.append_nil] at read
  have same := (reads one).unique (reads other)
  exact congrArg Prod.fst same

end Retarget.CSharp
