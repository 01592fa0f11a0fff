import Retarget.NameCase
import Retarget.Tree.Node

/-! Identifier casing. One convention holds for locals, parameters, attributes and instance variables,
one for methods and calls of them, and one for functions and references to them. Constants, type
names and library calls keep their spelling. -/
namespace Retarget

/-- The conventions of a target. -/
structure Naming where
  normal : NameCase
  method : NameCase
  function : NameCase
  deriving DecidableEq

/-- The names that a tree defines and that references are told apart by. -/
structure DefinedNames where
  functions : List String
  constants : List String

namespace DefinedNames

def functionName? (node : Node) : Option String :=
  match node.kind with
  | .functionDefinition name _ _ _ => some name
  | _ => none

def constantName? (node : Node) : Option String :=
  match node.kind with
  | .constant name _ => some name
  | _ => none

def ofTree (tree : Node) : DefinedNames :=
  ⟨tree.walk.filterMap functionName?, tree.walk.filterMap constantName?⟩

end DefinedNames

namespace Naming

/-- A reference to a local: constants keep their name, functions have their own convention. -/
def reference (naming : Naming) (names : DefinedNames) (name : String) : String :=
  if name ∈ names.constants then name
  else if name ∈ names.functions then naming.function.apply name
  else naming.normal.apply name

/-- A kind with its own identifier renamed. -/
def renameKind (naming : Naming) (names : DefinedNames) : Kind α → Kind α
  | .functionDefinition name params returnType body =>
    .functionDefinition (naming.function.apply name) params returnType body
  | .methodDefinition name params receiver returnType isPublic body =>
    .methodDefinition (naming.method.apply name) params receiver returnType isPublic body
  | .methodCall receiver message args => .methodCall receiver (naming.method.apply message) args
  | .staticCall receiver message args => .staticCall receiver (naming.method.apply message) args
  | .localVar name => .localVar (naming.reference names name)
  | .instanceVariable name => .instanceVariable (naming.normal.apply name)
  | .classAttr name isPublic => .classAttr (naming.normal.apply name) isPublic
  | .attr object member => .attr object (naming.normal.apply member)
  | .exceptionHandler exception caught isBuiltin body =>
    .exceptionHandler exception (naming.normal.apply caught) isBuiltin body
  | kind => kind

def rename (naming : Naming) (names : DefinedNames) : Node → Node :=
  Node.fold fun kind type => ⟨naming.renameKind names (kind.map (·.2)), type⟩

/-- Renames a whole tree by the names that it defines. -/
def run (naming : Naming) (tree : Node) : Node := naming.rename (.ofTree tree) tree

end Naming
end Retarget
