import Retarget.Tree.Node
import Retarget.Render.Error

/-! Attributes as templates and overrides see them: by path, or by name with an expected shape. -/
namespace Retarget

/-- What a path leads to: the field, its name, and the tag of the node that has it. -/
structure Resolved where
  owner : Tag
  name : String
  field : Field Node

namespace Node

def missing (node : Node) (name : String) : GenerateError := .missingAttribute node.tag name

def misshapen (node : Node) (name : String) (expected : Expectation) : GenerateError :=
  .attributeShape node.tag name expected

/-- Follows segments through single children. -/
def resolveFrom (node : Node) (name : String) : List String → Except GenerateError Resolved
  | [] =>
    match node.attr? name with
    | none => .error (node.missing name)
    | some field => .ok ⟨node.tag, name, field⟩
  | next :: rest =>
    match node.attr? name with
    | some (.node child) => resolveFrom child next rest
    | none | some .absent => .error (node.missing name)
    | some _ => .error (node.misshapen name .node)

def resolve (node : Node) (path : Path) : Except GenerateError Resolved :=
  node.resolveFrom path.first path.rest

/-- The members of a sequence attribute; an unset one has none. -/
def sequenceAt (node : Node) (name : String) : Except GenerateError (List Node) :=
  match node.attr? name with
  | some (.nodes nodes) => .ok nodes
  | some .absent => .ok []
  | some _ => .error (node.misshapen name .sequence)
  | none => .error (node.missing name)

def childAt (node : Node) (name : String) : Except GenerateError Node :=
  match node.attr? name with
  | some (.node child) => .ok child
  | some .absent | none => .error (node.missing name)
  | some _ => .error (node.misshapen name .node)

def textAt (node : Node) (name : String) : Except GenerateError String :=
  match node.attr? name with
  | some (.text value) => .ok value
  | some .absent | none => .error (node.missing name)
  | some _ => .error (node.misshapen name .text)

end Node

/-- The key that a field selects a switch case by. -/
def Resolved.discriminant (resolved : Resolved) : Except GenerateError String :=
  match resolved.field with
  | .node child => .ok child.tag.name
  | .bool value => .ok (if value then "true" else "false")
  | .text value => .ok value
  | .int value => .ok (toString value)
  | .absent => .ok "none"
  | _ => .error (.attributeShape resolved.owner resolved.name .switchableValue)

/-- The value of a block that is exactly one return statement. -/
def singleReturn? : List Node → Option Node
  | [only] => only.kind.returned?
  | _ => none

end Retarget
