import Retarget.Profile.Target
import Retarget.Render.Attribute
import Retarget.Render.Lines
import Retarget.Render.Type

/-! Renderers: what a node is rendered with. The depth is the indentation of the line that a node
starts on; the first line of any rendered text has no indentation of its own. -/
namespace Retarget

/-- A target, the type names that the module itself declares, and a way to render templates. -/
structure Renderer where
  target : Target
  declared : List String
  /-- The text of a template for a node at a depth. -/
  expand : Template → Node → Nat → Except GenerateError String

/-- A named function for what templates cannot express. -/
abbrev Override := Renderer → Node → Nat → Except GenerateError String

namespace Renderer

def indent (renderer : Renderer) (depth : Nat) : String := renderer.target.indent.margin depth

def renderType (renderer : Renderer) (type : SemType) : Except GenerateError String :=
  type.render renderer.target.types renderer.declared

/-- The text of a node, by the entry for its tag. -/
def render (renderer : Renderer) (node : Node) (depth : Nat) : Except GenerateError String :=
  match renderer.target.entry? node.tag with
  | none => .error (.noTemplate node.tag)
  | some (.template template) => renderer.expand template node depth
  | some (.switch switch) => do
    let key ← (← node.resolve switch.on).discriminant
    match switch.select? key with
    | none => .error (.discriminantMismatch node.tag key)
    | some template => renderer.expand template node depth

/-- What stands between the members of a sequence. -/
def separator (renderer : Renderer) (depth : Nat) : JoinMode → String
  | .separator text => text
  | .lines => "\n" ++ renderer.indent depth
  | .statements => "\n" ++ renderer.indent depth
  | .paragraphs => "\n\n" ++ renderer.indent depth

/-- The terminator that a member takes: simple statements among statements have one. -/
def terminator (renderer : Renderer) (mode : JoinMode) (node : Node) : String :=
  if mode = .statements ∧ !node.kind.isCompound then renderer.target.terminator else ""

def renderBlock (renderer : Renderer) (nodes : List Node) (depth : Nat) (mode : JoinMode) :
    Except GenerateError String := do
  let members ← nodes.mapM fun node => do
    return (← renderer.render node depth) ++ renderer.terminator mode node
  return (renderer.separator depth mode).intercalate members

end Renderer
end Retarget
