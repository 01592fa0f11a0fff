import Retarget.Proofs.ShiftedTexts
import Retarget.Proofs.UnbrokenTemplates
import Retarget.Proofs.WritingTrees

/-! Depth only shifts. A template is rendered at a greater depth as it is at a smaller one, behind a wider margin,
and fails there in the same way, if this holds of the overrides that it calls. -/
namespace Retarget

section Outcomes

/-- The same error, or results that are related. -/
inductive SameOutcome (R : α → β → Prop) : Except ε α → Except ε β → Prop
  | ok {a : α} {b : β} : R a b → SameOutcome R (.ok a) (.ok b)
  | error (cause : ε) : SameOutcome R (.error cause) (.error cause)

namespace SameOutcome

variable {R : α → β → Prop}

theorem bind {S : γ → δ → Prop} {first : Except ε α} {other : Except ε β} {next : α → Except ε γ}
    {following : β → Except ε δ} (same : SameOutcome R first other)
    (continued : ∀ a b, R a b → SameOutcome S (next a) (following b)) :
    SameOutcome S (first >>= next) (other >>= following) := by
  cases same with
  | ok related => exact continued _ _ related
  | error cause => exact .error cause

/-- What is done alike first. -/
theorem bind_left {S : γ → δ → Prop} (first : Except ε α) {next : α → Except ε γ} {following : α → Except ε δ}
    (continued : ∀ a, first = .ok a → SameOutcome S (next a) (following a)) :
    SameOutcome S (first >>= next) (first >>= following) := by
  cases first with
  | ok a => exact continued a rfl
  | error cause => exact .error cause

theorem mapM {f : α → Except ε β} {g : α → Except ε γ} {S : β → γ → Prop} (xs : List α)
    (same : ∀ x ∈ xs, SameOutcome S (f x) (g x)) : SameOutcome (List.Forall₂ S) (xs.mapM f) (xs.mapM g) := by
  induction xs with
  | nil => exact .ok .nil
  | cons x xs ih =>
    rw [List.forall_mem_cons] at same
    rw [List.mapM_cons, List.mapM_cons]
    exact same.1.bind fun y z here => (ih same.2).bind fun ys zs others => .ok (.cons here others)

end SameOutcome

end Outcomes

/-- A text at a greater depth and at a smaller one: it is shifted, or fails in the same way. -/
abbrev Shifts (indent : Indent) (more : Nat) (moved base : Except GenerateError String) : Prop :=
  SameOutcome (Shifted indent more) moved base

theorem shifts_of_unbroken {indent : Indent} {more : Nat} (result : Except GenerateError String)
    (unbroken : ∀ text, result = .ok text → Unbroken text) : Shifts indent more result result := by
  cases result with
  | ok text => exact .ok (.of_notMem (unbroken text rfl))
  | error cause => exact .error cause

/-- An override writes the same for a node at both depths, but for the margin. -/
abbrev Override.ShiftsFor (override : Override) (renderer : Renderer) (more : Nat) (node : Node) (depth : Nat) : Prop :=
  Shifts renderer.target.indent more (override renderer node (depth + more)) (override renderer node depth)

namespace Renderer

/-- Inline templates are shifted for inline nodes. -/
def ShiftsBy (renderer : Renderer) (more : Nat) : Prop :=
  ∀ template : Template, template.Inline → ∀ node : Node, node.Inline renderer.target.types → ∀ depth,
    Shifts renderer.target.indent more (renderer.expand template node (depth + more))
      (renderer.expand template node depth)

variable {renderer : Renderer} {more : Nat} (inline : renderer.target.Inline) (shifts : renderer.ShiftsBy more)
  {node : Node} (inlineNode : node.Inline renderer.target.types) (depth : Nat)

theorem renderType_shifts (type : SemType) (clean : AllUnbroken (type.texts renderer.target.types)) :
    Shifts renderer.target.indent more (renderer.renderType type) (renderer.renderType type) :=
  shifts_of_unbroken _ (type.unbroken_render _ _ clean)

section Nodes

include inline shifts

section

include inlineNode

theorem render_shifts :
    Shifts renderer.target.indent more (renderer.render node (depth + more)) (renderer.render node depth) := by
  rw [render, render]
  cases found : renderer.target.entry? node.tag with
  | none => exact .error _
  | some entry =>
    have inlineEntry := inline.entries _ _ found
    cases entry with
    | template template => exact shifts template inlineEntry node inlineNode depth
    | switch switch =>
      refine .bind_left _ fun resolved _ => .bind_left _ fun key _ => ?_
      cases selected : switch.select? key with
      | none => exact .error _
      | some template => exact shifts template (inlineEntry key template selected) node inlineNode depth

end

omit inline shifts in
theorem separator_shifts (mode : JoinMode) (inlineMode : mode.Inline) :
    Shifted renderer.target.indent more (renderer.separator (depth + more) mode) (renderer.separator depth mode) := by
  cases mode with
  | separator text => exact .of_notMem inlineMode
  | paragraphs => exact .blankLine depth
  | _ => exact .lineBreak depth

variable (terminator : Unbroken renderer.target.terminator)
include terminator

theorem renderBlock_shifts (nodes : List Node) (inlineNodes : ∀ inner ∈ nodes, inner.Inline renderer.target.types)
    (mode : JoinMode) (inlineMode : mode.Inline) :
    Shifts renderer.target.indent more (renderer.renderBlock nodes (depth + more) mode)
      (renderer.renderBlock nodes depth mode) := by
  have ends (inner : Node) : Unbroken (renderer.terminator mode inner) := by
    rw [Renderer.terminator]
    split
    · exact terminator
    · simp [Unbroken]
  refine SameOutcome.bind (SameOutcome.mapM nodes fun inner member => ?_) fun moved texts related =>
    .ok (Shifted.intercalate (separator_shifts depth mode inlineMode) related)
  exact (render_shifts inline shifts (inlineNodes inner member) depth).bind fun moved text shifted =>
    .ok (shifted.append (.of_notMem (ends inner)))

variable (resolved : Resolved) (owner : Node) (inlineOwner : owner.Inline renderer.target.types)
  (found : owner.attr? resolved.name = some resolved.field)
include inlineOwner found

omit terminator in
theorem place_shifts :
    Shifts renderer.target.indent more (renderer.place resolved (depth + more)) (renderer.place resolved depth) := by
  obtain ⟨tag, name, field⟩ := resolved
  cases field with
  | node child =>
    have inlineChild := inlineOwner.member name _ found child (by simp [Field.members])
    exact render_shifts inline shifts inlineChild depth
  | text value => exact .ok (.of_notMem (inlineOwner.text name value found))
  | int value => exact .ok (.of_notMem (unbroken_toString_int value))
  | float value => exact .ok (.of_notMem (Decimal.unbroken_write value))
  | bool value => exact .ok (.of_notMem (by cases value <;> simp))
  | type type => exact renderType_shifts type (inlineOwner.type name type found)
  | nodes _ => exact .error _
  | absent => exact .error _

theorem join_shifts (mode : JoinMode) (inlineMode : mode.Inline) :
    Shifts renderer.target.indent more (renderer.join resolved mode (depth + more))
      (renderer.join resolved mode depth) := by
  obtain ⟨tag, name, field⟩ := resolved
  cases field with
  | nodes nodes =>
    exact renderBlock_shifts inline shifts depth terminator nodes (inlineOwner.member name _ found) mode inlineMode
  | absent => exact .ok .nil
  | _ => exact .error _

omit inline shifts terminator in
theorem typeOf_shifts : Shifts renderer.target.indent more (renderer.typeOf resolved) (renderer.typeOf resolved) := by
  obtain ⟨tag, name, field⟩ := resolved
  cases field with
  | type type => exact renderType_shifts type (inlineOwner.type name type found)
  | node child =>
    have inlineChild := inlineOwner.member name _ found child (by simp [Field.members])
    exact renderType_shifts child.type (inlineChild.ownType child.type List.mem_cons_self)
  | _ => exact .error _

end Nodes

/-- A template is shifted if its segments are, also where it is rendered for two nodes. -/
theorem step_shifts_of_segments (renderer : Renderer) (overrides : OverrideTable) (node other : Node)
    (template : Template) (segments : ∀ line ∈ template.lines, ∀ segment ∈ line.segments, ∀ depth,
      Shifts renderer.target.indent more (renderer.segment overrides node (depth + more) segment)
        (renderer.segment overrides other depth segment)) :
    Shifts renderer.target.indent more (renderer.step overrides template node (depth + more))
      (renderer.step overrides template other depth) := by
  have line (line : Line) (listed : line ∈ template.lines) :
      SameOutcome (MovedLine renderer.target.indent more) (renderer.line overrides node (depth + more) line)
        (renderer.line overrides other depth line) := by
    rw [Renderer.line, Renderer.line]
    split
    · exact .ok .blank
    · rw [Nat.add_right_comm]
      have parts := SameOutcome.mapM line.segments fun segment member =>
        segments line listed segment member (depth + line.level)
      exact parts.bind fun moved texts related => .ok (.content _ _ _ _ (.join related))
  exact (SameOutcome.mapM template.lines line).bind fun moved lines related => .ok (layOut_shifted related)

section Templates

variable (overrides : OverrideTable) (terminator : Unbroken renderer.target.terminator)
  (sound : ∀ name override, overrides.get? name = some override → ∀ node : Node, node.Inline renderer.target.types →
    ∀ depth, override.ShiftsFor renderer more node depth)
include inline shifts terminator sound inlineNode

theorem directive_shifts (directive : Directive) (inlineDirective : (Segment.directive directive).Inline) :
    Shifts renderer.target.indent more (renderer.directive overrides node (depth + more) directive)
      (renderer.directive overrides node depth directive) := by
  cases directive with
  | placeholder path =>
    refine .bind_left _ fun resolved followed => ?_
    obtain ⟨owner, inlineOwner, found⟩ := inlineNode.resolve path resolved followed
    exact place_shifts inline shifts depth resolved owner inlineOwner found
  | join path mode =>
    refine .bind_left _ fun resolved followed => ?_
    obtain ⟨owner, inlineOwner, found⟩ := inlineNode.resolve path resolved followed
    exact join_shifts inline shifts depth terminator resolved owner inlineOwner found mode inlineDirective
  | type path =>
    refine .bind_left _ fun resolved followed => ?_
    obtain ⟨owner, inlineOwner, found⟩ := inlineNode.resolve path resolved followed
    exact typeOf_shifts resolved owner inlineOwner found
  | optional name =>
    rw [directive, directive]
    cases stored : node.attr? name with
    | none => exact .error _
    | some field =>
      cases given : renderer.target.optional? node.tag name with
      | none => exact .error _
      | some pair =>
        obtain ⟨present, fallback⟩ := inline.optionals _ _ _ given
        refine shifts _ ?_ node inlineNode depth
        split
        · exact fallback
        · exact present
  | override name =>
    rw [directive, directive]
    cases registered : overrides.get? name with
    | none => exact .error _
    | some override => exact sound name override registered node inlineNode depth

theorem step_shifts (template : Template) (inlineTemplate : template.Inline) :
    Shifts renderer.target.indent more (renderer.step overrides template node (depth + more))
      (renderer.step overrides template node depth) := by
  refine step_shifts_of_segments depth renderer overrides node node template fun line listed segment member inner => ?_
  have clean := inlineTemplate line listed segment member
  cases segment with
  | text value => exact .ok (.of_notMem clean)
  | directive body => exact directive_shifts inline shifts inlineNode inner overrides terminator sound body clean

end Templates

end Renderer

section Profiles

variable (profile : Profile) (declared : List String) (more : Nat)

/-- An override is shifted, as long as the renderers that it may be called with shift inline templates. -/
def Override.ShiftsIn (override : Override) : Prop :=
  ∀ fuel, (∀ less ≤ fuel, (Rules.rendererAt profile declared less).ShiftsBy more) →
    ∀ node : Node, node.Inline profile.types → ∀ depth,
      override.ShiftsFor (Rules.rendererAt profile declared fuel) more node depth

variable {profile} (inline : profile.toTarget.Inline) (terminator : Unbroken profile.terminator)
  (sound : ∀ name override, profile.overrides.get? name = some override → override.ShiftsIn profile declared more)
include inline terminator sound

theorem rendererAt_shifts (fuel : Nat) : (Rules.rendererAt profile declared fuel).ShiftsBy more := by
  -- An override may expand templates inside those that it asks for, so one step back is not enough for it.
  induction fuel using Nat.strongRecOn with
  | ind fuel ih =>
    intro template inlineTemplate node inlineNode depth
    cases fuel with
    | zero => exact .error _
    | succ fuel =>
      have overrides (name : String) (override : Override) (registered : profile.overrides.get? name = some override) :=
        sound name override registered fuel fun less le => ih less (Nat.lt_succ_of_le le)
      exact Renderer.step_shifts inline (ih fuel (Nat.lt_succ_self fuel)) inlineNode depth profile.overrides terminator
        overrides template inlineTemplate

end Profiles

end Retarget
