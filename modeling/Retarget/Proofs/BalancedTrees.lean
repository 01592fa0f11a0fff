import Retarget.Proofs.BalancedTemplates

/-! Balanced trees. A tree comes to a balanced text if its names are balanced, and if the templates and overrides of the
profile are: then no bracket and no literal goes on behind what is written for a node. -/
namespace Retarget
namespace CSharp

abbrev BalancedText (text : String) : Prop := Balanced text.toList

/-- The names and operators of a node are balanced. -/
def BalancedNames (node : Node) : Prop := ∀ name ∈ node.names, BalancedText name

/-- A renderer that expands templates to balanced texts. -/
structure Balances (renderer : Renderer) : Prop where
  tables : renderer.target.Holds fun found => found.passes isBalanced = true
  types : ∀ type, Ensures BalancedText (renderer.renderType type)
  terminator : BalancedText renderer.target.terminator
  expand : ∀ template ground node depth, node.Everywhere BalancedNames → ground.Holds node →
    isBalanced ground template = true → Ensures BalancedText (renderer.expand template node depth)

theorem balanced_lineBreak (indent : Indent) (depth : Nat) : BalancedText ("\n" ++ indent.margin depth) :=
  .append_texts _ _ ⟨_, rfl⟩ (balanced_margin indent depth)

theorem balanced_blankLine (indent : Indent) (depth : Nat) : BalancedText ("\n\n" ++ indent.margin depth) :=
  .append_texts _ _ ⟨_, rfl⟩ (balanced_margin indent depth)

namespace Balances

variable {renderer : Renderer} (balances : Balances renderer) {node : Node} (balanced : node.Everywhere BalancedNames)
  (depth : Nat)
include balances

theorem typeOf (resolved : Resolved) : Ensures BalancedText (renderer.typeOf resolved) := by
  rw [Renderer.typeOf]
  split
  · exact balances.types _
  · exact balances.types _
  · exact .error _

omit balances in
theorem separator (mode : JoinMode) (ground : Ground) (path : Path)
    (keeps : keepsBrackets ground (.join path mode) = true) : BalancedText (renderer.separator depth mode) := by
  cases mode with
  | separator text => exact of_decide_eq_true keeps
  | paragraphs => exact balanced_blankLine _ depth
  | _ => exact balanced_lineBreak _ depth

include balanced

theorem render : Ensures BalancedText (renderer.render node depth) := by
  intro text rendered
  obtain ⟨ground, template, holds, passes, rendered⟩ :=
    Renderer.exists_ground (fun entry stored => balances.tables.entries _ entry stored) rendered
  exact balances.expand template ground node depth balanced holds passes text rendered

omit balanced in
theorem renderBlock (nodes : List Node) (balanced : ∀ inner ∈ nodes, inner.Everywhere BalancedNames) (mode : JoinMode)
    (apart : BalancedText (renderer.separator depth mode)) :
    Ensures BalancedText (renderer.renderBlock nodes depth mode) := by
  refine .bind fun members mapped => .ok ?_
  refine Balanced.intercalate apart members (forall_mem_of_mapM mapped fun inner among => ?_)
  refine Ensures.bind fun text rendered => .ok ?_
  refine .append_texts _ _ (balances.render (balanced inner among) depth text rendered) ?_
  rw [Renderer.terminator]
  split
  · exact balances.terminator
  · exact .nil

theorem place {ground : Ground} (holds : ground.Holds node) (path : Path) (avoids : ground.avoidsQuoted path = true)
    (resolved : Resolved) (found : node.resolve path = .ok resolved) :
    Ensures BalancedText (renderer.place resolved depth) := by
  obtain ⟨owner, below, has⟩ := node.exists_owner_of_resolve path resolved found
  rw [Renderer.place]
  split
  · rename_i child isChild
    rw [isChild] at has
    exact balances.render ((balanced.below owner below).member _ _ has child List.mem_cons_self) depth
  · rename_i text isText
    obtain ⟨namer, below, named⟩ := ground.mem_names_of_resolve holds path avoids resolved found text isText
    exact .ok (balanced namer below text named)
  · exact .ok (balanced_toString_int _)
  · exact .ok (balanced_write _)
  · split <;> exact .ok ⟨_, rfl⟩
  · exact balances.types _
  · exact .error _
  · exact .error _

theorem join (path : Path) (mode : JoinMode) (apart : BalancedText (renderer.separator depth mode))
    (resolved : Resolved) (found : node.resolve path = .ok resolved) :
    Ensures BalancedText (renderer.join resolved mode depth) := by
  obtain ⟨owner, below, has⟩ := node.exists_owner_of_resolve path resolved found
  rw [Renderer.join]
  split
  · rename_i nodes members
    rw [members] at has
    exact balances.renderBlock depth nodes ((balanced.below owner below).member _ _ has) mode apart
  · exact .ok .nil
  · exact .error _

section Templates

variable {ground : Ground} (holds : ground.Holds node) (overrides : OverrideTable)
  (sound : ∀ name override, overrides.get? name = some override → keepsBrackets ground (.override name) = true →
    ∀ depth, Ensures (∃ pieces, Completes (.override name) · pieces) (override renderer node depth))
include holds sound

theorem directive (directive : Directive) (keeps : keepsBrackets ground directive = true) :
    Ensures (∃ pieces, Completes directive · pieces) (renderer.directive overrides node depth directive) := by
  cases directive with
  | placeholder path =>
    exact .bind fun resolved found => balances.place balanced depth holds path keeps resolved found
  | join path mode =>
    have apart : BalancedText (renderer.separator depth mode) := separator depth mode ground path keeps
    exact .bind fun resolved found => balances.join balanced depth path mode apart resolved found
  | type path => exact .bind fun resolved _ => balances.typeOf resolved
  | optional name =>
    rw [Renderer.directive]
    split
    · exact .error _
    · exact .error _
    · rename_i field pair _ stored
      have passes := Bool.and_eq_true_iff.mp (balances.tables.optionals _ name pair stored)
      refine balances.expand _ _ node depth balanced (Ground.holds_ofTag node) ?_
      split
      · exact passes.2
      · exact passes.1
  | override name =>
    rw [Renderer.directive]
    split
    · exact .error _
    · rename_i override registered
      exact sound name override registered keeps depth

/-- A line is scanned as its outline says. -/
theorem segments {segments : List Segment} {position last : Position} {parts : List Part}
    (outlined : outline ground position segments = some (last, parts)) {texts : List String}
    (mapped : segments.mapM (renderer.segment overrides node depth) = .ok texts) :
    ∃ row, scan position (String.join texts).toList = some (last, row) ∧
      Fills (fun directive text => renderer.directive overrides node depth directive = .ok text) parts row := by
  refine scan_outline (balances.directive balanced depth holds overrides sound) ?_ outlined
  refine ((mapM_eq_ok_iff ..).mp mapped).imp fun segment text rendered => ?_
  cases segment with
  | text value =>
    cases rendered
    rfl
  | directive body => exact rendered

theorem lines {template : List Line} {position last : Position} (inCode : position.context = .code)
    (outlined : outlineLines ground position template = some last) {lines : List RenderedLine}
    (mapped : List.Forall₂ (fun line rendered => renderer.line overrides node depth line = .ok rendered) template
      lines) :
    Leads position lines last := by
  induction mapped generalizing position with
  | nil =>
    cases outlined
    exact .nil _
  | @cons line rendered template lines came _ ih =>
    simp only [outlineLines, Option.bind_eq_bind, Option.bind_eq_some_iff] at outlined
    obtain ⟨⟨middle, parts⟩, here, outlined⟩ := outlined
    split at outlined
    case isFalse => cases outlined
    rename_i ends
    rw [Renderer.line] at came
    split at came
    · rename_i blank
      cases came
      rw [Line.isBlank, List.isEmpty_iff] at blank
      rw [blank] at here
      cases here
      exact .blank (ih inCode outlined)
    · obtain ⟨texts, joined, same⟩ := (bind_eq_ok_iff _ _ _).mp came
      cases same
      obtain ⟨row, scanned, _⟩ := balances.segments balanced _ holds overrides sound here joined
      exact .content _ _ scanned ends (ih ends outlined)

/-- A balanced template comes to balanced texts. -/
theorem step (template : Template) (passes : isBalanced ground template = true) :
    Ensures BalancedText (renderer.step overrides template node depth) := by
  refine .bind fun lines mapped => .ok ?_
  have leads := balances.lines balanced depth holds overrides sound rfl (of_decide_eq_true passes)
    ((mapM_eq_ok_iff ..).mp mapped)
  exact scan_layOut renderer.target.indent leads rfl

end Templates

end Balances

section Profiles

variable (profile : Profile) (declared : List String)

/-- An override writes complete texts, as long as the renderers that it may be called with expand templates to balanced
ones. -/
def KeepsBalance (name : String) (override : Override) : Prop :=
  ∀ fuel, (∀ less ≤ fuel, Balances (Rules.rendererAt profile declared less)) →
    ∀ ground node depth, ground.Holds node → keepsBrackets ground (.override name) = true →
      node.Everywhere BalancedNames → Ensures (∃ pieces, Completes (.override name) · pieces)
        (override (Rules.rendererAt profile declared fuel) node depth)

variable {profile declared}

/-- All renderers of a profile come to balanced texts, if its templates and overrides do. -/
theorem rendererAt_balances (tables : profile.toTarget.Holds fun found => found.passes isBalanced = true)
    (types : ∀ type, Ensures BalancedText (SemType.render profile.types declared type))
    (terminator : BalancedText profile.terminator)
    (sound : ∀ name override, profile.overrides.get? name = some override → KeepsBalance profile declared name override)
    (fuel : Nat) : Balances (Rules.rendererAt profile declared fuel) := by
  -- An override may expand templates inside those that it asks for, so one step back is not enough for it.
  induction fuel using Nat.strongRecOn with
  | ind fuel ih =>
    refine ⟨tables, types, terminator, fun template ground node depth balanced holds passes => ?_⟩
    cases fuel with
    | zero => exact .error _
    | succ fuel =>
      have below : ∀ less ≤ fuel, Balances (Rules.rendererAt profile declared less) :=
        fun less smaller => ih less (Nat.lt_succ_of_le smaller)
      refine (below fuel (Nat.le_refl fuel)).step balanced depth holds profile.overrides ?_ template passes
      exact fun name override registered keeps depth =>
        sound name override registered fuel below ground node depth holds keeps balanced

end Profiles

end CSharp
end Retarget
