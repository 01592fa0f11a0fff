import Retarget.Profile.Library
import Retarget.Tree.Node

/-! Imports. A module gets a dependency for every library operation and semantic type in it that
needs one, behind those it has, in the order of first use. -/
namespace Retarget

mutual
/-- What a type and its components need. -/
def SemType.dependencies (library : Library) : SemType → List String
  | .named name => (library.typeDependency? name).toList
  | .container name args => (library.typeDependency? name).toList ++ allDependencies library args
  | .fixedArray element _ =>
    (library.typeDependency? "Array").toList ++ SemType.dependencies library element
def SemType.allDependencies (library : Library) : List SemType → List String
  | [] => []
  | type :: rest => SemType.dependencies library type ++ SemType.allDependencies library rest
end

namespace Imports

/-- The library operation that a node calls. -/
def operation? (library : Library) (node : Node) : Option LibraryEntry :=
  match node.kind with
  | .standardCall space function _ => library.function? space function
  | .standardMethodCall receiver message _ => library.method? receiver.type.baseName message
  | _ => none

/-- The type that a definition returns. -/
def returnType? (node : Node) : Option SemType :=
  match node.kind with
  | .functionDefinition _ _ returnType _ => some returnType
  | .methodDefinition _ _ _ returnType _ _ => some returnType
  | .anonymousFunction _ returnType _ => some returnType
  | _ => none

/-- What a node itself needs. -/
def ofNode (library : Library) (node : Node) : List String :=
  ((operation? library node).bind (·.dependency)).toList ++ node.type.dependencies library ++
    (returnType? node).toList.flatMap (·.dependencies library)

/-- Adds the names that are not there yet, in order. -/
def addMissing (present : List String) : List String → List String
  | [] => []
  | name :: rest =>
    if name ∈ present then addMissing present rest
    else name :: addMissing (name :: present) rest

/-- What a tree needs, each once, in the order of first use. -/
def required (library : Library) (tree : Node) : List String :=
  addMissing [] (tree.walk.flatMap (ofNode library))

def dependencyName? (node : Node) : Option String :=
  match node.kind with
  | .dependency name => some name
  | _ => none

def run (library : Library) (tree : Node) : Node :=
  match tree.kind with
  | .module definitions dependencies constants customExceptions main =>
    let missing := addMissing (dependencies.filterMap dependencyName?) (required library tree)
    let added := missing.map fun name => Node.mk (.dependency name) .void
    ⟨.module definitions (dependencies ++ added) constants customExceptions main, tree.type⟩
  | _ => tree

end Imports
end Retarget
