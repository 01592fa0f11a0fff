import Retarget.Tree.Kind

/-! Layouts: the fields of each tag by name and shape, in declaration order. Templates address
fields by these names, and serialized trees use them as keys. -/
namespace Retarget

/-- What a field may hold, and whether a producer may leave it out. -/
inductive Shape where
  | node
  | optionalNode
  | nodes
  /-- Nodes, none if left out. -/
  | defaultedNodes
  | text
  | optionalText
  | int
  | float
  | flag
  /-- A truth value, `false` if left out. -/
  | defaultedFlag
  /-- A type, `Void` if left out. -/
  | type
  deriving DecidableEq

/-- The content of a field of this shape that was left out; none if it must be given. -/
def Shape.default? : Shape → Option (Field α)
  | optionalNode => some .absent
  | optionalText => some .absent
  | defaultedNodes => some (.nodes [])
  | defaultedFlag => some (.bool false)
  | type => some (.type .void)
  | _ => none

/-- Whether a field has the content that a shape asks for. -/
def Shape.fits : Shape → Field α → Bool
  | node, .node _ => true
  | optionalNode, .node _ => true
  | optionalNode, .absent => true
  | nodes, .nodes _ => true
  | defaultedNodes, .nodes _ => true
  | text, .text _ => true
  | optionalText, .text _ => true
  | optionalText, .absent => true
  | int, .int _ => true
  | float, .float _ => true
  | flag, .bool _ => true
  | defaultedFlag, .bool _ => true
  | type, .type _ => true
  | _, _ => false

/-- A named place for a field. -/
structure Slot where
  name : String
  shape : Shape
  deriving DecidableEq

namespace Tag

/-- The slots of a tag in declaration order. -/
def layout : Tag → List Slot
  | .module =>
    [⟨"definitions", .defaultedNodes⟩, ⟨"dependencies", .defaultedNodes⟩,
      ⟨"constants", .defaultedNodes⟩, ⟨"custom_exceptions", .defaultedNodes⟩,
      ⟨"main", .defaultedNodes⟩]
  | .dependency => [⟨"name", .text⟩]
  | .constant => [⟨"constant", .text⟩, ⟨"init", .node⟩]
  | .customException => [⟨"name", .text⟩, ⟨"base", .optionalText⟩]
  | .functionDefinition =>
    [⟨"name", .text⟩, ⟨"params", .nodes⟩, ⟨"return_type", .type⟩, ⟨"block", .nodes⟩]
  | .methodDefinition =>
    [⟨"name", .text⟩, ⟨"params", .nodes⟩, ⟨"this", .node⟩, ⟨"return_type", .type⟩,
      ⟨"is_public", .defaultedFlag⟩, ⟨"block", .nodes⟩]
  | .constructor => [⟨"params", .nodes⟩, ⟨"this", .node⟩, ⟨"block", .nodes⟩]
  | .classDefinition =>
    [⟨"name", .text⟩, ⟨"base", .optionalText⟩, ⟨"attrs", .defaultedNodes⟩,
      ⟨"constructor", .optionalNode⟩, ⟨"methods", .defaultedNodes⟩]
  | .classAttr => [⟨"name", .text⟩, ⟨"is_public", .defaultedFlag⟩]
  | .anonymousFunction => [⟨"params", .nodes⟩, ⟨"return_type", .type⟩, ⟨"block", .nodes⟩]
  | .assignment => [⟨"target", .node⟩, ⟨"value", .node⟩, ⟨"first_mention", .defaultedFlag⟩]
  | .indexAssignment => [⟨"sequence", .node⟩, ⟨"index", .node⟩, ⟨"value", .node⟩]
  | .ifStatement => [⟨"test", .node⟩, ⟨"block", .nodes⟩, ⟨"otherwise", .optionalNode⟩]
  | .elseIfStatement => [⟨"test", .node⟩, ⟨"block", .nodes⟩, ⟨"otherwise", .optionalNode⟩]
  | .elseStatement => [⟨"block", .nodes⟩]
  | .whileStatement => [⟨"test", .node⟩, ⟨"block", .nodes⟩]
  | .forStatement => [⟨"iterators", .node⟩, ⟨"sequences", .node⟩, ⟨"block", .nodes⟩]
  | .forRangeStatement =>
    [⟨"index", .node⟩, ⟨"first", .optionalNode⟩, ⟨"last", .node⟩, ⟨"step", .optionalNode⟩,
      ⟨"block", .nodes⟩]
  | .forIterator => [⟨"iterator", .node⟩]
  | .forIteratorWithIndex => [⟨"index", .node⟩, ⟨"iterator", .node⟩]
  | .forIteratorWithItems => [⟨"key", .node⟩, ⟨"value", .node⟩]
  | .forIteratorZip => [⟨"iterators", .nodes⟩]
  | .forSequence => [⟨"sequence", .node⟩]
  | .forSequenceWithIndex => [⟨"sequence", .node⟩]
  | .forSequenceWithItems => [⟨"sequence", .node⟩]
  | .forSequenceZip => [⟨"sequences", .nodes⟩]
  | .tryStatement => [⟨"block", .nodes⟩, ⟨"handlers", .nodes⟩]
  | .exceptionHandler =>
    [⟨"exception", .optionalText⟩, ⟨"instance", .text⟩, ⟨"is_builtin", .defaultedFlag⟩,
      ⟨"block", .nodes⟩]
  | .throwStatement => [⟨"exception", .text⟩, ⟨"value", .node⟩]
  | .implicitReturn => [⟨"value", .node⟩]
  | .explicitReturn => [⟨"value", .node⟩]
  | .block => [⟨"block", .nodes⟩]
  | .int => [⟨"value", .int⟩]
  | .float => [⟨"value", .float⟩]
  | .string => [⟨"value", .text⟩]
  | .boolean => [⟨"value", .flag⟩]
  | .null => []
  | .regex => [⟨"value", .text⟩]
  | .list => [⟨"elements", .nodes⟩]
  | .dictionary => [⟨"pairs", .nodes⟩]
  | .pair => [⟨"key", .node⟩, ⟨"value", .node⟩]
  | .set => [⟨"elements", .nodes⟩]
  | .tuple => [⟨"elements", .nodes⟩]
  | .array => [⟨"elements", .nodes⟩]
  | .localVar => [⟨"name", .text⟩]
  | .typename => [⟨"name", .text⟩]
  | .instanceVariable => [⟨"name", .text⟩]
  | .this => []
  | .attr => [⟨"object", .node⟩, ⟨"attr", .text⟩]
  | .index => [⟨"sequence", .node⟩, ⟨"index", .node⟩]
  | .call => [⟨"function", .node⟩, ⟨"args", .nodes⟩]
  | .methodCall => [⟨"receiver", .node⟩, ⟨"message", .text⟩, ⟨"args", .nodes⟩]
  | .staticCall => [⟨"receiver", .node⟩, ⟨"message", .text⟩, ⟨"args", .nodes⟩]
  | .standardCall => [⟨"namespace", .text⟩, ⟨"function", .text⟩, ⟨"args", .nodes⟩]
  | .standardMethodCall => [⟨"receiver", .node⟩, ⟨"message", .text⟩, ⟨"args", .nodes⟩]
  | .newInstance => [⟨"class_name", .node⟩, ⟨"args", .nodes⟩]
  | .binaryOp => [⟨"op", .text⟩, ⟨"left", .node⟩, ⟨"right", .node⟩]
  | .unaryOp => [⟨"op", .text⟩, ⟨"value", .node⟩]
  | .comparison => [⟨"op", .text⟩, ⟨"left", .node⟩, ⟨"right", .node⟩]

/-- The names of a tag's fields in declaration order. -/
def fieldNames (tag : Tag) : List String := tag.layout.map (·.name)

end Tag

namespace Kind

/-- The fields of a kind under their names. -/
def fields (kind : Kind α) : List (String × Field α) := kind.tag.fieldNames.zip kind.values

theorem length_values (kind : Kind α) : kind.values.length = kind.tag.layout.length := by
  cases kind <;> rfl

/-- Every field of a kind fits its slot. -/
theorem fits_values (kind : Kind α) :
    ((kind.tag.layout.zip kind.values).all fun (slot, field) => slot.shape.fits field) = true := by
  cases kind with
  | customException name base => cases base <;> rfl
  | classDefinition name base attrs initializer methods =>
    cases base <;> cases initializer <;> rfl
  | ifStatement test body otherwise => cases otherwise <;> rfl
  | elseIfStatement test body otherwise => cases otherwise <;> rfl
  | forRangeStatement counter first last step body => cases first <;> cases step <;> rfl
  | exceptionHandler exception caught isBuiltin body => cases exception <;> rfl
  | _ => rfl

end Kind
end Retarget
