import Retarget.Tree.Node

/-! First mentions. An assignment to a local name is marked if it is the first in its scope. Scopes
are those of functions: the body of a function, method or constructor starts with its parameters, the
main block of a module with the constants. Loop variables and caught exceptions are declared by their
statements. An anonymous function sees the names around it and keeps its own to itself. -/
namespace Retarget

/-- The local names that are declared. -/
abbrev Scope := List String

namespace Scope

def declare (scope : Scope) (name : String) : Scope := if name ∈ scope then scope else name :: scope

def declareAll (scope : Scope) (names : List String) : Scope := names.foldl declare scope

end Scope

namespace Node

/-- The names of all locals in the tree, in walk order. -/
def localNames (node : Node) : List String :=
  node.walk.filterMap fun node => match node.kind with
    | .localVar name => some name
    | _ => none

/-- The scope with every local of some trees declared. -/
def bindLocals (scope : Scope) (nodes : List Node) : Scope :=
  scope.declareAll (nodes.flatMap localNames)

def constantName? (node : Node) : Option String :=
  match node.kind with
  | .constant name _ => some name
  | _ => none

end Node

/-- A node with its assignments marked, in a scope that it may add names to. -/
abbrev Marking := StateM Scope Node

namespace Declaration

/-- Marks nodes one after the other. -/
def markAll (nodes : List (Node × Marking)) : StateM Scope (List Node) :=
  nodes.mapM fun node => node.2

/-- Marks nodes in a scope of their own. -/
def within (scope : Scope) (nodes : List (Node × Marking)) : List Node :=
  ((markAll nodes).run scope).1

def declareAll (nodes : List Node) : StateM Scope Unit :=
  modify (Node.bindLocals · nodes)

/-- The marking of a kind, its children given beside their markings. -/
def markKind : Kind (Node × Marking) → StateM Scope (Kind Node)
  | .module definitions dependencies constants customExceptions main =>
    let constants := constants.map (·.1)
    return .module (definitions.flatMap fun definition => within [] [definition])
      (dependencies.map (·.1)) constants (customExceptions.map (·.1))
      (within (.declareAll [] (constants.filterMap Node.constantName?)) main)
  | .functionDefinition name params returnType body =>
    let params := params.map (·.1)
    return .functionDefinition name params returnType (within (Node.bindLocals [] params) body)
  | .methodDefinition name params receiver returnType isPublic body =>
    let params := params.map (·.1)
    return .methodDefinition name params receiver.1 returnType isPublic
      (within (Node.bindLocals [] params) body)
  | .constructor params receiver body =>
    let params := params.map (·.1)
    return .constructor params receiver.1 (within (Node.bindLocals [] params) body)
  | .anonymousFunction params returnType body => do
    let params := params.map (·.1)
    let scope ← get
    return .anonymousFunction params returnType (within (Node.bindLocals scope params) body)
  | .assignment target value firstMention => do
    let value ← value.2
    match target.1.kind with
    | .localVar name =>
      let scope ← get
      set (scope.declare name)
      return .assignment target.1 value (name ∉ scope)
    | _ => return .assignment (← target.2) value firstMention
  | .forStatement iterators sequences body => do
    let sequences ← sequences.2
    declareAll [iterators.1]
    return .forStatement iterators.1 sequences (← markAll body)
  | .forRangeStatement counter first last step body => do
    let first ← first.mapM fun node => node.2
    let step ← step.mapM fun node => node.2
    let last ← last.2
    declareAll [counter.1]
    return .forRangeStatement counter.1 first last step (← markAll body)
  | .exceptionHandler exception caught isBuiltin body => do
    modify (Scope.declare · caught)
    return .exceptionHandler exception caught isBuiltin (← markAll body)
  | kind => kind.traverse fun node => node.2

/-- The marking of a tree. -/
def mark : Node → Marking :=
  Node.fold fun kind type => do return ⟨← markKind kind, type⟩

/-- Marks a whole tree, with no name declared around it. -/
def run (tree : Node) : Node := ((mark tree).run []).1

end Declaration
end Retarget
