/-! Semantic types, which every node of a tree carries. A type is a name, a container applied to
component types, or an array of fixed size; each container name admits certain component counts. -/
namespace Retarget

/-- A language-neutral type. -/
inductive SemType where
  /-- A scalar or user-declared name. -/
  | named (name : String)
  /-- A container applied to its components. -/
  | container (name : String) (args : List SemType)
  /-- An array of a fixed number of elements of one type. -/
  | fixedArray (element : SemType) (size : Nat)

/-- How many components a container takes. -/
inductive Arity where
  | exactly (count : Nat)
  | atLeast (count : Nat)
  /-- One element type and a size: the shape of a fixed array, which no count of types meets. -/
  | elementAndSize
  deriving DecidableEq

namespace Arity

def admits : Arity → Nat → Bool
  | exactly n, count => count == n
  | atLeast n, count => n ≤ count
  | elementAndSize, _ => false

def describe : Arity → String
  | exactly n => toString n
  | atLeast n => "at least " ++ toString n
  | elementAndSize => "an element type and a size"

/-- The arity that a container name fixes; names outside the table take one component or more. -/
def ofContainer (name : String) : Arity :=
  if name = "List" ∨ name = "Set" then exactly 1
  else if name = "Dictionary" then exactly 2
  else if name = "Tuple" then atLeast 2
  else if name = "Array" then elementAndSize
  else atLeast 1

end Arity

/-- What is wrong with a tree or a type that a producer tried to build. -/
inductive TreeError where
  /-- A value, shown as compact text, that no literal node can hold. -/
  | unsupportedLiteral (shown : String)
  | typeArity (name : String) (expected : Arity) (found : Nat)
  /-- A descriptor whose first element is not a container name. -/
  | unnamedDescriptor
  /-- A size among the components of a container that takes only types. -/
  | misplacedSize (size : Nat) (container : String)

def TreeError.message : TreeError → String
  | unsupportedLiteral shown => s!"value {shown} has no literal node shape"
  | typeArity name expected found =>
    s!"type `{name}` expects {expected.describe} component(s), got {found}"
  | unnamedDescriptor => "malformed type descriptor: descriptor must start with a container name"
  | misplacedSize size container =>
    s!"malformed type descriptor: unexpected size {size} in `{container}`"

namespace SemType

/-- The type of a node that yields no value. -/
def void : SemType := .named "Void"

instance : Inhabited SemType := ⟨void⟩

mutual
def beq : SemType → SemType → Bool
  | .named a, .named b => a == b
  | .container a xs, .container b ys => a == b && beqAll xs ys
  | .fixedArray a m, .fixedArray b n => a.beq b && m == n
  | _, _ => false
def beqAll : List SemType → List SemType → Bool
  | [], [] => true
  | x :: xs, y :: ys => x.beq y && beqAll xs ys
  | _, _ => false
end

mutual
theorem eq_of_beq : ∀ a b : SemType, a.beq b = true → a = b
  | .named a, b, h => by cases b <;> simp_all [beq]
  | .container a xs, b, h => by
    cases b with
    | container b ys =>
      simp only [beq, Bool.and_eq_true, beq_iff_eq] at h
      rw [h.1, eq_of_beqAll xs ys h.2]
    | _ => simp [beq] at h
  | .fixedArray a m, b, h => by
    cases b with
    | fixedArray b n =>
      simp only [beq, Bool.and_eq_true, beq_iff_eq] at h
      rw [eq_of_beq a b h.1, h.2]
    | _ => simp [beq] at h
theorem eq_of_beqAll : ∀ xs ys : List SemType, beqAll xs ys = true → xs = ys
  | [], ys, h => by cases ys <;> simp_all [beqAll]
  | x :: xs, [], h => by simp [beqAll] at h
  | x :: xs, y :: ys, h => by
    simp only [beqAll, Bool.and_eq_true] at h
    rw [eq_of_beq x y h.1, eq_of_beqAll xs ys h.2]
end

mutual
theorem beq_self : ∀ a : SemType, a.beq a = true
  | .named a => by simp [beq]
  | .container a xs => by simp [beq, beqAll_self xs]
  | .fixedArray a n => by simp [beq, beq_self a]
theorem beqAll_self : ∀ xs : List SemType, beqAll xs xs = true
  | [] => rfl
  | x :: xs => by simp [beqAll, beq_self x, beqAll_self xs]
end

instance : DecidableEq SemType := fun a b =>
  if h : a.beq b = true then isTrue (eq_of_beq a b h)
  else isFalse fun e => h (e ▸ beq_self a)

def isVoid (type : SemType) : Bool := type = void

def list (element : SemType) : SemType := .container "List" [element]
def set (element : SemType) : SemType := .container "Set" [element]
def dictionary (key value : SemType) : SemType := .container "Dictionary" [key, value]
def function (params : List SemType) (result : SemType) : SemType :=
  .container "Function" (params ++ [result])

/-- A container with the component count that its name admits. -/
def container? (name : String) (args : List SemType) : Except TreeError SemType :=
  if (Arity.ofContainer name).admits args.length then .ok (.container name args)
  else .error (.typeArity name (.ofContainer name) args.length)

def tuple? (items : List SemType) : Except TreeError SemType := container? "Tuple" items

/-- The name under which tables list the type; fixed arrays go by `Array`. -/
def baseName : SemType → String
  | .named name => name
  | .container name _ => name
  | .fixedArray _ _ => "Array"

/-- Component types in declared order. -/
def components : SemType → List SemType
  | .named _ => []
  | .container _ args => args
  | .fixedArray element _ => [element]

mutual
/-- The type as text: `Dictionary[String, List[Int]]`. -/
def display : SemType → String
  | .named name => name
  | .container name args => name ++ "[" ++ ", ".intercalate (displayAll args) ++ "]"
  | .fixedArray element size => "Array[" ++ element.display ++ ", " ++ toString size ++ "]"
def displayAll : List SemType → List String
  | [] => []
  | type :: rest => type.display :: displayAll rest
end

end SemType
end Retarget
