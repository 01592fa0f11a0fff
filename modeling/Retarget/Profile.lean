import Retarget.Pass
import Retarget.Render.Expand

/-! Profiles: all that generation for a target needs, and generation itself. The passes of a profile
prepare a module, then its tables and overrides write it out. -/
namespace Retarget

/-- A target with the passes that run before rendering and the overrides that templates call. -/
structure Profile extends Target where
  passes : List Pass
  overrides : OverrideTable

namespace Profile

def empty (name extension : String) : Profile := { Target.empty name extension with
  passes := []
  overrides := .empty }

/-- How many templates can stand inside one another for a tree of so many nodes, unless the templates
of some node lead back to it: each node takes its entry, its optional pairs and its overrides once. -/
def nesting (profile : Profile) (size : Nat) : Nat :=
  (size + 1) * (profile.optionals.size + profile.overrides.size + 1)

/-- A renderer for trees of at most so many nodes. -/
def renderer (profile : Profile) (declared : List String) (size : Nat) : Renderer :=
  ⟨profile.toTarget, declared,
    expand profile.toTarget profile.overrides declared (profile.nesting size)⟩

/-- The text of a node; `declared` names the types that its module declares. -/
def render (profile : Profile) (declared : List String) (node : Node) (depth : Nat) :
    Except GenerateError String :=
  (profile.renderer declared node.size).render node depth

def runPasses (profile : Profile) (tree : Node) : Node :=
  Pass.runAll profile.library profile.passes tree

def declaredType? (node : Node) : Option String :=
  match node.kind with
  | .classDefinition name _ _ _ _ => some name
  | .customException name _ => some name
  | _ => none

/-- The names of classes and exceptions that a tree defines. -/
def declaredTypes (tree : Node) : List String := tree.walk.filterMap declaredType?

/-- The text of a module: prepared by the passes, rendered, and without blanks at the end. -/
def renderModule (profile : Profile) (module : Node) : Except GenerateError String := do
  let tree := profile.runPasses module
  let text ← profile.render (declaredTypes tree) tree 0
  return String.ofList (Text.trimEnd text.toList)

end Profile
end Retarget
