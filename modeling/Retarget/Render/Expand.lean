import Retarget.Decimal.Style
import Retarget.Render.Renderer

/-! Expansion of templates. One step renders a template by a renderer that expands those inside it;
`expand` iterates the step as often as its first argument says, since templates may lead back to the
same node. -/
namespace Retarget

/-- The overrides of a profile by name. -/
abbrev OverrideTable := Table String Override

namespace Renderer

/-- A field in the place of a directive: a child rendered, a scalar written out. -/
def place (renderer : Renderer) (resolved : Resolved) (depth : Nat) :
    Except GenerateError String :=
  match resolved.field with
  | .node child => renderer.render child depth
  | .text value => .ok value
  | .int value => .ok (toString value)
  | .float value => .ok (Decimal.Style.source.write value)
  | .bool value => .ok (if value then "true" else "false")
  | .type type => renderer.renderType type
  | .nodes _ => .error (.attributeShape resolved.owner resolved.name .singleValue)
  | .absent => .error (.missingAttribute resolved.owner resolved.name)

/-- A sequence joined; an unset one is nothing. -/
def join (renderer : Renderer) (resolved : Resolved) (mode : JoinMode) (depth : Nat) :
    Except GenerateError String :=
  match resolved.field with
  | .nodes nodes => renderer.renderBlock nodes depth mode
  | .absent => .ok ""
  | _ => .error (.attributeShape resolved.owner resolved.name .sequence)

/-- A type, or the type of a child. -/
def typeOf (renderer : Renderer) (resolved : Resolved) : Except GenerateError String :=
  match resolved.field with
  | .type type => renderer.renderType type
  | .node child => renderer.renderType child.type
  | _ => .error (.attributeShape resolved.owner resolved.name .type)

def directive (overrides : OverrideTable) (renderer : Renderer) (node : Node) (depth : Nat) :
    Directive → Except GenerateError String
  | .placeholder path => do renderer.place (← node.resolve path) depth
  | .join path mode => do renderer.join (← node.resolve path) mode depth
  | .type path => do renderer.typeOf (← node.resolve path)
  | .optional name =>
    match node.attr? name, renderer.target.optional? node.tag name with
    | none, _ => .error (node.missing name)
    | some _, none => .error (.undefinedDirective node.tag ("." ++ name))
    | some field, some pair =>
      renderer.expand (if field.isEmpty then pair.fallback else pair.present) node depth
  | .override name =>
    match overrides.get? name with
    | none => .error (.undefinedDirective node.tag ("#" ++ name))
    | some override => override renderer node depth

def segment (overrides : OverrideTable) (renderer : Renderer) (node : Node) (depth : Nat) :
    Segment → Except GenerateError String
  | .text value => .ok value
  | .directive directive => renderer.directive overrides node depth directive

def line (overrides : OverrideTable) (renderer : Renderer) (node : Node) (depth : Nat)
    (line : Line) : Except GenerateError RenderedLine :=
  if line.isBlank then .ok .blank
  else do
    let depth := depth + line.level
    let parts ← line.segments.mapM (renderer.segment overrides node depth)
    return .content depth line.hasDirective (String.join parts)

/-- A template rendered, the templates inside it by the renderer. -/
def step (overrides : OverrideTable) (renderer : Renderer) (template : Template) (node : Node)
    (depth : Nat) : Except GenerateError String := do
  let lines ← template.lines.mapM (renderer.line overrides node depth)
  return layOut renderer.target.indent lines

end Renderer

/-- A template rendered with at most so many templates inside one another. -/
def expand (target : Target) (overrides : OverrideTable) (declared : List String) :
    Nat → Template → Node → Nat → Except GenerateError String
  | 0, _, node, _ => .error (.unending node.tag)
  | fuel + 1, template, node, depth =>
    Renderer.step overrides ⟨target, declared, expand target overrides declared fuel⟩
      template node depth

end Retarget
