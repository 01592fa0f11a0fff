import Retarget.SemType

/-! Fields: what a node exposes under the name of one of its attributes. -/
namespace Retarget

/-- The content of one attribute of a node whose children have type `α`. -/
inductive Field (α : Type) where
  | node (child : α)
  | nodes (children : List α)
  | text (value : String)
  | int (value : Int)
  | float (value : Float)
  | bool (value : Bool)
  | type (value : SemType)
  /-- A declared attribute that the node leaves unset. -/
  | absent

namespace Field

def ofNode? : Option α → Field α
  | some child => .node child
  | none => .absent

def ofText? : Option String → Field α
  | some value => .text value
  | none => .absent

/-- An optional child read back: unset is a value, anything but a child or unset is not. -/
def asNode? : Field α → Option (Option α)
  | .node child => some (some child)
  | .absent => some none
  | _ => none

def asText? : Field α → Option (Option String)
  | .text value => some (some value)
  | .absent => some none
  | _ => none

@[simp] theorem asNode?_ofNode? (child : Option α) : (ofNode? child).asNode? = some child := by
  cases child <;> rfl

@[simp] theorem asText?_ofText? (value : Option String) :
    (ofText? value : Field α).asText? = some value := by
  cases value <;> rfl

/-- Whether an optional directive takes its fallback: unset, `false`, no text or no members. -/
def isEmpty : Field α → Bool
  | .absent => true
  | .bool value => !value
  | .text value => value.isEmpty
  | .nodes children => children.isEmpty
  | _ => false

/-- The children that the field holds, in order. -/
def members : Field α → List α
  | .node child => [child]
  | .nodes children => children
  | _ => []

def map (f : α → β) : Field α → Field β
  | .node child => .node (f child)
  | .nodes children => .nodes (children.map f)
  | .text value => .text value
  | .int value => .int value
  | .float value => .float value
  | .bool value => .bool value
  | .type value => .type value
  | .absent => .absent

/-- Equal content, up to a comparison of children. Floating values compare as numbers do, so that
NaN differs from itself and the two zeros agree. -/
def agrees (same : α → β → Bool) : Field α → Field β → Bool
  | .node a, .node b => same a b
  | .nodes as, .nodes bs => as.length == bs.length && (as.zip bs).all fun (a, b) => same a b
  | .text a, .text b => a == b
  | .int a, .int b => a == b
  | .float a, .float b => a == b
  | .bool a, .bool b => a == b
  | .type a, .type b => a == b
  | .absent, .absent => true
  | _, _ => false

end Field
end Retarget
