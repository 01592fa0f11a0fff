import Retarget.Pass.Declaration
import Retarget.Pass.Imports
import Retarget.Pass.Naming

/-! Passes: changes to a tree before it is rendered. They are total, and pass on unchanged what
they do not know. -/
namespace Retarget

inductive Pass where
  | declaration
  | naming (naming : Naming)
  | imports
  deriving DecidableEq

namespace Pass

def name : Pass → String
  | declaration => "declaration"
  | naming _ => "naming"
  | imports => "imports"

/-- The tree after a pass. Imports are looked up in the library. -/
def run (library : Library) : Pass → Node → Node
  | declaration, tree => Declaration.run tree
  | naming rule, tree => rule.run tree
  | imports, tree => Imports.run library tree

/-- The tree after passes, in order. -/
def runAll (library : Library) (passes : List Pass) (tree : Node) : Node :=
  passes.foldl (fun tree pass => pass.run library tree) tree

end Pass
end Retarget
