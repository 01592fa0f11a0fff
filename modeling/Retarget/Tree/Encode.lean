import Retarget.SemType.Descriptor
import Retarget.Tree.Node

/-! The serialized form of trees: one record a node, with the tag under `type`, then every declared
field in order, then the node's type under `pseudo_type` unless it is `Void`. -/
namespace Retarget

/-- The serialized content of a field; an unset field is `null`. -/
def Field.encode (literal : Float → Data) : Field Data → Data
  | .node child => child
  | .nodes children => .list children
  | .text value => .text value
  | .int value => .int value
  | .float value => literal value
  | .bool value => .bool value
  | .type value => value.toData
  | .absent => .null

namespace Node

/-- The serialized tree, each floating literal written by `literal`. -/
def encode (literal : Float → Data) : Node → Data :=
  fold fun kind type =>
    .record <| ("type", .text kind.tag.name)
      :: (kind.map (·.2)).fields.map (fun (name, field) => (name, field.encode literal))
      ++ if type.isVoid then [] else [("pseudo_type", type.toData)]

/-- A floating value where the format has only finite numbers: `null` stands for the others. -/
def finiteOrNull (value : Float) : Data :=
  if value.isFinite then .float value else .null

def toData : Node → Data := encode finiteOrNull

end Node
end Retarget
