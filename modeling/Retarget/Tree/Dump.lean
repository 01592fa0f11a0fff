import Retarget.Tree.Encode
import Retarget.Yaml.Document

/-! Dumps of trees, for people to read. -/
namespace Retarget

/-- The tree as a YAML document, non-finite values included. -/
def Node.dump (node : Node) : String := Yaml.document (node.encode .float)

end Retarget
