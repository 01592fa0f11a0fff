import Mathlib.Data.List.MinMax
import Mathlib.Data.List.Perm.Subperm
import Mathlib.Data.Prod.Lex
import Mathlib.Logic.Relation
import Mathlib.Order.Nat
import Retarget.Proofs.UnendingRuns

/-! Rendering without overrides ends, unless it comes back to a template at the node that it renders it for. Children
are smaller than their nodes, so that only the pairs of optional attributes can lead back; where they do not, each
node takes its template and every pair at most once. -/
namespace Retarget

def Segment.optional? : Segment → Option String
  | .directive (.optional name) => some name
  | _ => none

/-- The optional attributes that a template asks for. -/
def Template.optionals (template : Template) : List String :=
  template.lines.flatMap fun line => line.segments.filterMap Segment.optional?

/-- The template of a pair that a field chooses. -/
def OptionalPair.choose (pair : OptionalPair) (field : Field Node) : Template :=
  if field.isEmpty then pair.fallback else pair.present

/-- A template that is rendered for a node. -/
structure Place where
  template : Template
  node : Node

namespace Profile

section Steps

variable (profile : Profile) (declared : List String)

/-- With enough steps, a segment of a template comes to a text for a node. -/
def SegmentSucceeds (node : Node) (segment : Segment) : Prop :=
  Succeeds fun fuel depth => (Rules.rendererAt profile declared fuel).segment profile.overrides node depth segment

def NodeSucceeds (node : Node) : Prop :=
  Succeeds fun fuel depth => (Rules.rendererAt profile declared fuel).render node depth

/-- Where a directive leads for a node: to a child, to a member of a sequence behind members that have a text, or to
the template for an optional attribute. -/
inductive Leads (node : Node) : Directive → Place → Prop
  | child {path : Path} {owner : Tag} {name : String} {child : Node} {template : Template} :
      node.resolve path = .ok ⟨owner, name, .node child⟩ → profile.templateFor child = .ok template →
        Leads node (.placeholder path) ⟨template, child⟩
  | member {path : Path} {mode : JoinMode} {owner : Tag} {name : String} {before after : List Node} {child : Node}
      {template : Template} :
      node.resolve path = .ok ⟨owner, name, .nodes (before ++ child :: after)⟩ →
        (∀ earlier ∈ before, profile.NodeSucceeds declared earlier) → profile.templateFor child = .ok template →
        Leads node (.join path mode) ⟨template, child⟩
  | pair {name : String} {field : Field Node} {pair : OptionalPair} :
      node.attr? name = some field → profile.optional? node.tag name = some pair →
        Leads node (.optional name) ⟨pair.choose field, node⟩

/-- A directive leads from one template to the next, and all that stands before it has a text. -/
def Calls (place next : Place) : Prop :=
  ∃ before line after earlier directive later, place.template.lines = before ++ line :: after ∧
    line.segments = earlier ++ .directive directive :: later ∧
    (∀ other ∈ before, ∀ segment ∈ other.segments, profile.SegmentSucceeds declared place.node segment) ∧
    (∀ segment ∈ earlier, profile.SegmentSucceeds declared place.node segment) ∧
    profile.Leads declared place.node directive next

/-- Rendering a node leads to a template that leads back to itself, for the same node. -/
def Recurs (node : Node) : Prop :=
  ∃ template place, profile.templateFor node = .ok template ∧
    Relation.ReflTransGen (profile.Calls declared) ⟨template, node⟩ place ∧
    Relation.TransGen (profile.Calls declared) place place

/-- So many steps do not suffice for a place. -/
def RunsOut (fuel : Nat) (place : Place) : Prop :=
  ∃ depth, IsUnending ((Rules.rendererAt profile declared fuel).expand place.template place.node depth)

variable {profile declared} (plain : ∀ name, profile.overrides.get? name = none)
include plain

theorem runs_match (fuel extra : Nat) :
    (Rules.rendererAt profile declared fuel).Matches (.realigned profile.indent profile.indent) GenerateError.TooFewSteps
      (Rules.rendererAt profile declared (fuel + extra)) := by
  refine runsMatch Likeness.types_self (.inr fun tag => ⟨tag, rfl⟩) (fun name override registered => ?_) fuel
  rw [plain] at registered
  cases registered

theorem node_coherent (node : Node) :
    Coherent fun fuel depth => (Rules.rendererAt profile declared fuel).render node depth :=
  fun fuel extra _ _ => (runs_match plain fuel extra).render trivial node

theorem segment_coherent (node : Node) (segment : Segment) :
    Coherent fun fuel depth =>
      (Rules.rendererAt profile declared fuel).segment profile.overrides node depth segment := by
  intro fuel extra depth other
  refine (runs_match plain fuel extra).segment trivial profile.overrides (fun name override registered => ?_) node
    segment
  rw [plain] at registered
  cases registered

theorem expand_coherent (template : Template) (node : Node) :
    Coherent fun fuel depth => (Rules.rendererAt profile declared fuel).expand template node depth :=
  fun fuel extra depth other => (runs_match plain fuel extra).expand template node depth other trivial

variable {fuel : Nat}

theorem RunsOut.anyDepth {place : Place} (out : profile.RunsOut declared fuel place) (depth : Nat) :
    IsUnending ((Rules.rendererAt profile declared fuel).expand place.template place.node depth) :=
  have ⟨_, unending⟩ := out
  (expand_coherent plain place.template place.node).isUnending_of_le (Nat.le_refl fuel) unending depth

theorem runsOut_of_le {less : Nat} (le : less ≤ fuel) {place : Place} (out : profile.RunsOut declared fuel place) :
    profile.RunsOut declared less place :=
  have ⟨_, unending⟩ := out
  ⟨0, (expand_coherent plain place.template place.node).isUnending_of_le le unending 0⟩

theorem isUnending_render_iff (node : Node) (depth : Nat) :
    IsUnending ((Rules.rendererAt profile declared fuel).render node depth) ↔
      ∃ template, profile.templateFor node = .ok template ∧ profile.RunsOut declared fuel ⟨template, node⟩ := by
  rw [Renderer.isUnending_render_iff]
  constructor
  · exact fun ⟨template, chosen, unending⟩ => ⟨template, chosen, depth, unending⟩
  · exact fun ⟨template, chosen, out⟩ => ⟨template, chosen, RunsOut.anyDepth plain out depth⟩

/-- The steps run out at a directive only if they do at a template that it leads to. -/
theorem exists_leads_of_isUnending (node : Node) (depth : Nat) (directive : Directive)
    (unending :
      IsUnending ((Rules.rendererAt profile declared fuel).directive profile.overrides node depth directive)) :
    ∃ next, profile.Leads declared node directive next ∧ profile.RunsOut declared fuel next := by
  cases directive with
  | placeholder path =>
    rw [Renderer.directive, isUnending_bind_iff, or_iff_right (not_isUnending_resolve _ _)] at unending
    obtain ⟨⟨owner, name, field⟩, resolved, unending⟩ := unending
    cases field with
    | node child =>
      obtain ⟨template, chosen, out⟩ := (isUnending_render_iff plain child depth).mp unending
      exact ⟨_, .child resolved chosen, out⟩
    | type type => exact absurd unending (not_isUnending_renderType _ type)
    | _ =>
      obtain ⟨tag, same⟩ := unending
      cases same
  | join path mode =>
    rw [Renderer.directive, isUnending_bind_iff, or_iff_right (not_isUnending_resolve _ _)] at unending
    obtain ⟨⟨owner, name, field⟩, resolved, unending⟩ := unending
    cases field with
    | nodes nodes =>
      obtain ⟨before, child, after, rfl, texts, unending⟩ :=
        (Renderer.isUnending_renderBlock_iff _ nodes depth mode).mp unending
      obtain ⟨template, chosen, out⟩ := (isUnending_render_iff plain child depth).mp unending
      refine ⟨_, .member resolved (fun earlier member => ?_) chosen, out⟩
      obtain ⟨text, rendered⟩ := texts earlier member
      exact ⟨fuel, depth, text, rendered⟩
    | _ =>
      obtain ⟨tag, same⟩ := unending
      cases same
  | type path =>
    rw [Renderer.directive, isUnending_bind_iff, or_iff_right (not_isUnending_resolve _ _)] at unending
    obtain ⟨⟨owner, name, field⟩, resolved, unending⟩ := unending
    cases field with
    | node child => exact absurd unending (not_isUnending_renderType _ _)
    | type type => exact absurd unending (not_isUnending_renderType _ _)
    | _ =>
      obtain ⟨tag, same⟩ := unending
      cases same
  | optional name =>
    rw [Renderer.directive] at unending
    split at unending
    · obtain ⟨tag, same⟩ := unending
      cases same
    · obtain ⟨tag, same⟩ := unending
      cases same
    · rename_i field pair stored given
      exact ⟨_, .pair stored given, depth, unending⟩
  | override name =>
    rw [Renderer.directive, plain] at unending
    obtain ⟨tag, same⟩ := unending
    cases same

/-- The steps run out at a directive if they do at a template that it leads to. -/
theorem isUnending_of_leads {node : Node} {directive : Directive} {next : Place}
    (leads : profile.Leads declared node directive next) (out : profile.RunsOut declared fuel next) (depth : Nat) :
    IsUnending ((Rules.rendererAt profile declared fuel).directive profile.overrides node depth directive) := by
  cases leads with
  | @child path owner name child template resolved chosen =>
    rw [Renderer.directive, resolved]
    exact (isUnending_render_iff plain child depth).mpr ⟨template, chosen, out⟩
  | @member path mode owner name before after child template resolved texts chosen =>
    rw [Renderer.directive, resolved]
    have unending := (isUnending_render_iff plain child depth).mpr ⟨template, chosen, out⟩
    refine (Renderer.isUnending_renderBlock_iff _ _ depth mode).mpr ?_
    exact exists_first_isUnending _ before child after (fun earlier member =>
      (node_coherent plain earlier).ok_of_succeeds (texts earlier member) fuel depth) unending
  | @pair name field pair stored given =>
    rw [Renderer.directive, stored]
    have found : (Rules.rendererAt profile declared fuel).target.optional? node.tag name = some pair := given
    rw [found]
    exact RunsOut.anyDepth plain out depth

/-- One more step carries over to what a place calls. -/
theorem runsOut_succ_iff (place : Place) :
    profile.RunsOut declared (fuel + 1) place ↔
      ∃ next, profile.Calls declared place next ∧ profile.RunsOut declared fuel next := by
  have stepped (depth : Nat) : (Rules.rendererAt profile declared (fuel + 1)).expand place.template place.node depth =
      (Rules.rendererAt profile declared fuel).step profile.overrides place.template place.node depth := rfl
  constructor
  · rintro ⟨depth, unending⟩
    rw [stepped, Renderer.isUnending_step_iff] at unending
    obtain ⟨before, line, after, lines, linesEnd, unending⟩ := unending
    obtain ⟨earlier, segment, later, segments, segmentsEnd, unending⟩ :=
      (Renderer.isUnending_line_iff _ _ _ _ line).mp unending
    cases segment with
    | text value => exact absurd unending (not_isUnending_ok value)
    | directive directive =>
      obtain ⟨next, leads, out⟩ := exists_leads_of_isUnending plain _ _ directive unending
      refine ⟨next, ⟨before, line, after, earlier, directive, later, lines, segments, ?_, ?_, leads⟩, out⟩
      · intro other member segment inside
        obtain ⟨text, rendered⟩ := (Renderer.line_ok_iff _ _ _ _ other).mp (linesEnd other member) segment inside
        exact ⟨fuel, _, text, rendered⟩
      · intro segment member
        obtain ⟨text, rendered⟩ := segmentsEnd segment member
        exact ⟨fuel, _, text, rendered⟩
  · rintro ⟨next, ⟨before, line, after, earlier, directive, later, lines, segments, linesEnd, segmentsEnd, leads⟩, out⟩
    have ended (segment : Segment) (succeeds : profile.SegmentSucceeds declared place.node segment) (depth : Nat) :=
      (segment_coherent plain place.node segment).ok_of_succeeds succeeds fuel depth
    refine ⟨0, ?_⟩
    rw [stepped, Renderer.isUnending_step_iff, lines]
    refine exists_first_isUnending _ before line after (fun other member => ?_) ?_
    · rw [Renderer.line_ok_iff, Renderer.isUnending_line_iff]
      by_cases texts : ∀ segment ∈ other.segments, ∃ text, (Rules.rendererAt profile declared fuel).segment
          profile.overrides place.node (0 + other.level) segment = .ok text
      · exact .inl texts
      · push Not at texts
        obtain ⟨segment, inside, fails⟩ := texts
        obtain ⟨front, behind, split⟩ := List.append_of_mem inside
        have unending := (ended segment (linesEnd other member segment inside) (0 + other.level)).resolve_left
          fun ⟨text, rendered⟩ => fails text rendered
        rw [split]
        refine .inr (exists_first_isUnending _ front segment behind (fun sooner inFront => ?_) unending)
        exact ended sooner (linesEnd other member sooner (split ▸ List.mem_append_left _ inFront)) _
    · rw [Renderer.isUnending_line_iff, segments]
      refine exists_first_isUnending _ earlier _ later (fun segment member => ?_)
        (isUnending_of_leads plain leads out _)
      exact ended segment (segmentsEnd segment member) _

/-- Steps run out as long as there are calls. -/
theorem runsOut_iff_exists_calls (place : Place) :
    profile.RunsOut declared fuel place ↔
      ∃ places, places.length = fuel ∧ List.IsChain (profile.Calls declared) (place :: places) := by
  induction fuel generalizing place with
  | zero => exact ⟨fun _ => ⟨[], rfl, .singleton place⟩, fun _ => ⟨0, place.node.tag, rfl⟩⟩
  | succ fuel ih =>
    rw [runsOut_succ_iff plain]
    constructor
    · rintro ⟨next, calls, out⟩
      obtain ⟨places, length, chain⟩ := (ih next).mp out
      exact ⟨next :: places, by rw [List.length_cons, length], .cons_cons calls chain⟩
    · rintro ⟨places, length, chain⟩
      cases places with
      | nil => cases length
      | cons next places =>
        obtain ⟨calls, chain⟩ := List.isChain_cons_cons.mp chain
        exact ⟨next, calls, (ih next).mpr ⟨places, Nat.succ.inj length, chain⟩⟩

end Steps

section Bounds

variable (profile : Profile) {declared : List String}

/-- The templates that a node can be rendered with: that of its entry, and one for every optional attribute. -/
def placesOf (node : Node) : List Place :=
  (profile.templateFor node).toOption.toList.map (⟨·, node⟩) ++
    profile.optionals.entries.map fun entry => ⟨entry.2.choose ((node.attr? entry.1.2).getD .absent), node⟩

def placesIn (tree : Node) : List Place := tree.walk.flatMap profile.placesOf

theorem length_placesOf_le (node : Node) : (profile.placesOf node).length ≤ profile.optionals.size + 1 := by
  have entries : (profile.templateFor node).toOption.toList.length ≤ 1 := by
    cases (profile.templateFor node).toOption <;> simp
  rw [placesOf, List.length_append, List.length_map, List.length_map, Table.size]
  omega

theorem length_placesIn_le (tree : Node) :
    (profile.placesIn tree).length ≤ tree.size * (profile.optionals.size + 1) := by
  rw [placesIn, ← tree.length_walk]
  induction tree.walk with
  | nil => simp
  | cons node rest ih =>
    rw [List.flatMap_cons, List.length_append, List.length_cons, Nat.succ_mul]
    have here := profile.length_placesOf_le node
    omega

variable {profile}

theorem mem_placesIn {tree : Node} {place : Place} :
    place ∈ profile.placesIn tree ↔ ∃ node ∈ tree.walk, place ∈ profile.placesOf node := List.mem_flatMap

theorem node_eq_of_mem_placesOf {node : Node} {place : Place} (member : place ∈ profile.placesOf node) :
    place.node = node := by
  rw [placesOf, List.mem_append, List.mem_map, List.mem_map] at member
  rcases member with ⟨_, _, rfl⟩ | ⟨_, _, rfl⟩ <;> rfl

theorem mem_placesOf_entry {node : Node} {template : Template} (chosen : profile.templateFor node = .ok template) :
    ⟨template, node⟩ ∈ profile.placesOf node := by
  rw [placesOf, chosen]
  exact List.mem_cons_self

theorem Leads.below_or_pair {node : Node} {directive : Directive} {next : Place}
    (leads : profile.Leads declared node directive next) :
    (∃ owner ∈ node.walk, next.node ∈ owner.children ∧ profile.templateFor next.node = .ok next.template) ∨
      ∃ name field pair, directive = .optional name ∧ node.attr? name = some field ∧
        profile.optional? node.tag name = some pair ∧ next = ⟨pair.choose field, node⟩ := by
  cases leads with
  | child found chosen =>
    obtain ⟨owner, inside, has⟩ := node.exists_owner_of_resolve _ _ found
    exact .inl ⟨owner, inside, owner.mem_children_of_attr? _ _ has _ (List.mem_singleton_self _), chosen⟩
  | member found _ chosen =>
    obtain ⟨owner, inside, has⟩ := node.exists_owner_of_resolve _ _ found
    refine .inl ⟨owner, inside, owner.mem_children_of_attr? _ _ has _ ?_, chosen⟩
    exact List.mem_append_right _ List.mem_cons_self
  | pair stored given => exact .inr ⟨_, _, _, rfl, stored, given, rfl⟩

theorem mem_placesIn_of_leads {node : Node} {directive : Directive} {next : Place}
    (leads : profile.Leads declared node directive next) : next ∈ profile.placesIn node := by
  rcases leads.below_or_pair with ⟨owner, inside, isChild, chosen⟩ | ⟨name, field, pair, _, stored, given, rfl⟩
  · have descends := Node.mem_walk_trans inside (Node.mem_walk_of_mem_children isChild next.node.mem_walk_self)
    exact mem_placesIn.mpr ⟨next.node, descends, mem_placesOf_entry chosen⟩
  · have listed := profile.optionals.mem_entries_of_get? (node.tag, name) pair given
    refine mem_placesIn.mpr ⟨node, node.mem_walk_self, List.mem_append_right _ (List.mem_map.mpr ⟨_, listed, ?_⟩)⟩
    rw [stored, Option.getD_some]

theorem Calls.mem_placesIn {place next : Place} (calls : profile.Calls declared place next) :
    next ∈ profile.placesIn place.node :=
  have ⟨_, _, _, _, _, _, _, _, _, _, leads⟩ := calls
  mem_placesIn_of_leads leads

/-- All that a place calls, directly or not, is among the templates of its tree. -/
theorem mem_placesIn_of_calls {place last : Place} (path : Relation.TransGen (profile.Calls declared) place last) :
    last ∈ profile.placesIn place.node := by
  induction path with
  | single calls => exact calls.mem_placesIn
  | tail _ calls ih =>
    obtain ⟨middle, below, listed⟩ := mem_placesIn.mp ih
    obtain ⟨lowest, lower, last⟩ := mem_placesIn.mp calls.mem_placesIn
    rw [node_eq_of_mem_placesOf listed] at lower
    exact mem_placesIn.mpr ⟨lowest, Node.mem_walk_trans below lower, last⟩

/-- Calls that never come back to a place are no more than there are templates in the tree. -/
theorem length_le_of_isChain {place : Place} {places : List Place}
    (chain : List.IsChain (profile.Calls declared) (place :: places))
    (acyclic : ∀ last, Relation.ReflTransGen (profile.Calls declared) place last →
      ¬Relation.TransGen (profile.Calls declared) last last) :
    places.length ≤ (profile.placesIn place.node).length := by
  have ordered := List.isChain_iff_pairwise.mp (chain.imp fun _ _ => Relation.TransGen.single)
  obtain ⟨reached, ordered⟩ := List.pairwise_cons.mp ordered
  have distinct : places.Nodup := ordered.imp_of_mem fun {first second} inside _ path same => by
    subst same
    exact acyclic first (reached first inside).to_reflTransGen path
  exact (distinct.subperm fun last inside => mem_placesIn_of_calls (reached last inside)).length_le

end Bounds

section Endings

variable (profile : Profile) (declared : List String) (node : Node) (depth : Nat)

/-- Rendering comes to a result: enough steps have it, and any more of them do not change it. -/
def ComesTo (result : Except GenerateError String) : Prop :=
  ¬IsUnending result ∧
    ∃ least, ∀ fuel, least ≤ fuel → (Rules.rendererAt profile declared fuel).render node depth = result

def Ends : Prop := ∃ result, profile.ComesTo declared node depth result

variable {profile declared node depth} in
theorem ComesTo.unique {first second : Except GenerateError String} (one : profile.ComesTo declared node depth first)
    (other : profile.ComesTo declared node depth second) : first = second := by
  obtain ⟨_, least, settled⟩ := one
  obtain ⟨_, enough, settles⟩ := other
  rw [← settled (max least enough) (Nat.le_max_left ..), settles _ (Nat.le_max_right ..)]

variable {profile declared node depth} (plain : ∀ name, profile.overrides.get? name = none)
include plain

/-- A run that is not cut short has the result of every longer run. -/
theorem comesTo_of_not_isUnending {fuel : Nat}
    (ended : ¬IsUnending ((Rules.rendererAt profile declared fuel).render node depth)) :
    profile.ComesTo declared node depth ((Rules.rendererAt profile declared fuel).render node depth) := by
  refine ⟨ended, fuel, fun more le => ?_⟩
  obtain ⟨extra, rfl⟩ := Nat.exists_eq_add_of_le le
  have sound (name : String) (override : Override) (found : profile.overrides.get? name = some override) :
      override.MatchesIn (.same profile.indent) GenerateError.TooFewSteps declared declared extra := by
    rw [plain] at found
    cases found
  have near : (Likeness.same profile.indent).depths depth depth := rfl
  have follows := (runsMatch Likeness.types_self (.inr fun tag => ⟨tag, rfl⟩) sound fuel).render near node
  change Follows _ _ _ ((Rules.rendererAt profile declared (fuel + extra)).render node depth) at follows
  generalize (Rules.rendererAt profile declared fuel).render node depth = result at ended follows ⊢
  generalize (Rules.rendererAt profile declared (fuel + extra)).render node depth = other at follows ⊢
  cases follows with
  | ok same => exact congrArg Except.ok (Eq.symm same)
  | error => rfl
  | cut may =>
    obtain ⟨tag, rfl⟩ := may
    exact absurd ⟨tag, rfl⟩ ended

theorem runsOut_of_path {fuel : Nat} {place last : Place}
    (path : Relation.ReflTransGen (profile.Calls declared) place last) (out : profile.RunsOut declared fuel last) :
    profile.RunsOut declared fuel place := by
  induction path using Relation.ReflTransGen.head_induction_on with
  | refl => exact out
  | head calls _ ih =>
    exact runsOut_of_le plain (Nat.le_succ fuel) ((runsOut_succ_iff plain _).mpr ⟨_, calls, ih⟩)

theorem runsOut_of_cycle {place : Place} (cycle : Relation.TransGen (profile.Calls declared) place place) (fuel : Nat) :
    profile.RunsOut declared fuel place := by
  obtain ⟨next, calls, back⟩ := Relation.TransGen.head'_iff.mp cycle
  induction fuel with
  | zero => exact ⟨0, place.node.tag, rfl⟩
  | succ fuel ih => exact (runsOut_succ_iff plain place).mpr ⟨next, calls, runsOut_of_path plain back ih⟩

theorem isUnending_of_recurs (recurs : profile.Recurs declared node) (fuel : Nat) :
    IsUnending ((Rules.rendererAt profile declared fuel).render node depth) := by
  obtain ⟨template, place, chosen, path, cycle⟩ := recurs
  exact (isUnending_render_iff plain node depth).mpr
    ⟨template, chosen, runsOut_of_path plain path (runsOut_of_cycle plain cycle fuel)⟩

/-- The steps that rendering is given suffice if any do. -/
theorem not_isUnending_of_not_recurs (onward : ¬profile.Recurs declared node) :
    ¬IsUnending (profile.render declared node depth) := by
  intro unending
  obtain ⟨template, chosen, out⟩ := (isUnending_render_iff plain node depth).mp unending
  obtain ⟨places, length, chain⟩ := (runsOut_iff_exists_calls plain _).mp out
  have bound := length_le_of_isChain chain fun last path cycle => onward ⟨template, last, chosen, path, cycle⟩
  have inTree := Nat.le_trans bound (profile.length_placesIn_le node)
  have steps : node.size * (profile.optionals.size + 1) < profile.nesting node.size := by
    have wider : profile.optionals.size + 1 ≤ profile.optionals.size + profile.overrides.size + 1 := by omega
    have wide := Nat.mul_le_mul_left node.size wider
    rw [nesting, Nat.succ_mul]
    omega
  omega

theorem ends_iff : profile.Ends declared node depth ↔ ¬profile.Recurs declared node := by
  constructor
  · rintro ⟨_, ended, least, stays⟩ recurs
    rw [← stays least (Nat.le_refl least)] at ended
    exact ended (isUnending_of_recurs plain recurs least)
  · exact fun onward => ⟨_, comesTo_of_not_isUnending plain (not_isUnending_of_not_recurs plain onward)⟩

end Endings

section Ranks

/-- The templates of optional attributes ask only for optional attributes of lower rank. -/
def RankedBy (profile : Profile) (rank : Tag → String → Nat) : Prop :=
  ∀ tag name pair, profile.optional? tag name = some pair →
    ∀ other ∈ pair.present.optionals ++ pair.fallback.optionals, rank tag other < rank tag name

variable {profile : Profile} {declared : List String} {rank : Tag → String → Nat}

/-- How far pairs can follow one another from a template. -/
def height (rank : Tag → String → Nat) (place : Place) : Nat :=
  (place.template.optionals.map fun name => rank place.node.tag name + 1).foldr max 0

theorem Calls.lower (ranked : profile.RankedBy rank) {place next : Place} (calls : profile.Calls declared place next) :
    toLex (next.node.size, height rank next) < toLex (place.node.size, height rank place) := by
  obtain ⟨before, line, after, earlier, directive, later, lines, segments, _, _, leads⟩ := calls
  rw [Prod.Lex.toLex_lt_toLex]
  rcases leads.below_or_pair with ⟨owner, inside, isChild, _⟩ | ⟨name, field, pair, rfl, _, given, rfl⟩
  · have smaller := owner.size_lt_of_mem_children next.node isChild
    exact .inl (Nat.lt_of_lt_of_le smaller (Node.size_le_of_mem_walk inside))
  · have asked : name ∈ place.template.optionals := by
      rw [Template.optionals, lines]
      refine List.mem_flatMap.mpr ⟨line, List.mem_append_right _ List.mem_cons_self, ?_⟩
      rw [segments]
      exact List.mem_filterMap.mpr ⟨_, List.mem_append_right _ List.mem_cons_self, rfl⟩
    have above : rank place.node.tag name + 1 ≤ height rank place :=
      List.le_max_of_le (List.mem_map_of_mem asked) (Nat.le_refl _)
    have below : height rank ⟨pair.choose field, place.node⟩ ≤ rank place.node.tag name := by
      refine List.max_le_of_forall_le _ _ (List.forall_mem_map.mpr fun other asked => ranked _ name pair given other ?_)
      rw [OptionalPair.choose] at asked
      split at asked
      · exact List.mem_append_right _ asked
      · exact List.mem_append_left _ asked
    exact .inr ⟨rfl, by dsimp only; omega⟩

/-- Where pairs can be ranked, no node leads back to itself. -/
theorem not_recurs_of_rankedBy (ranked : profile.RankedBy rank) (node : Node) : ¬profile.Recurs declared node := by
  rintro ⟨_, place, _, _, cycle⟩
  have lowered : Relation.TransGen (· > ·) (toLex (place.node.size, height rank place))
      (toLex (place.node.size, height rank place)) :=
    cycle.lift (fun place => toLex (place.node.size, height rank place)) fun _ _ calls => calls.lower ranked
  rw [Relation.transGen_eq_self] at lowered
  exact lt_irrefl _ lowered

end Ranks

section Registrations

/-- A profile that no override is registered for has none. -/
theorem get?_overrides_of_build (name extension : String) (registrations : List Registration)
    (plain : ∀ name function, Registration.override name function ∉ registrations) (built : Profile)
    (builds : Profile.build name extension registrations = .ok built) (called : String) :
    built.overrides.get? called = none := by
  rw [build_eq, map_eq_ok_iff] at builds
  obtain ⟨parsed, parses, rfl⟩ := builds
  refine Option.eq_none_iff_forall_ne_some.mpr fun function found => ?_
  obtain ⟨body, member, isOverride⟩ := List.mem_filterMap.mp (Table.mem_of_get?_ofList _ called function found)
  obtain ⟨registration, listed, parsesTo⟩ := exists_registration parses body member
  rw [(registration.agrees_of_parsed body parsesTo).override] at isOverride
  cases registration with
  | override name body => exact plain name body listed
  | _ => cases isOverride

/-- Rendering with a profile of templates, switches and optional pairs comes to a result exactly if the node does not
lead to a template that leads back to itself for the same node; then the steps that rendering is given suffice. -/
theorem rendering_ends_iff (name extension : String) (registrations : List Registration)
    (plain : ∀ name function, Registration.override name function ∉ registrations) (built : Profile)
    (builds : Profile.build name extension registrations = .ok built) (declared : List String) (node : Node)
    (depth : Nat) :
    (built.Ends declared node depth ↔ ¬built.Recurs declared node) ∧
      (built.Ends declared node depth → built.ComesTo declared node depth (built.render declared node depth)) := by
  have none := get?_overrides_of_build name extension registrations plain built builds
  refine ⟨ends_iff none, fun ends => ?_⟩
  have onward := (ends_iff none).mp ends
  exact comesTo_of_not_isUnending none (not_isUnending_of_not_recurs none onward)

/-- Locals by name, those without one by a word. -/
def namedLocals : List Registration :=
  [.template .localVar "%<.name>", .optional .localVar "name" "%<name>" "nameless"]

theorem nameless_local_ends :
    (∀ name function, Registration.override name function ∉ namedLocals) ∧
      ∃ built, Profile.build "locals" "txt" namedLocals = .ok built ∧ built.Ends [] (.localVar "" .void) 0 ∧
        built.ComesTo [] (.localVar "" .void) 0 (built.render [] (.localVar "" .void) 0) := by
  have plain : ∀ name function, Registration.override name function ∉ namedLocals := by simp [namedLocals]
  obtain ⟨built, builds, optionals⟩ : ∃ built, Profile.build "locals" "txt" namedLocals = .ok built ∧
      built.optionals.entries = [((.localVar, "name"), ⟨⟨[⟨0, [.directive (.placeholder ⟨"name", []⟩)]⟩]⟩,
        ⟨[⟨0, [.text "nameless"]⟩]⟩⟩)] := ⟨_, rfl, rfl⟩
  have ranked : built.RankedBy fun _ _ => 0 := by
    intro tag name pair given other asked
    have listed := built.optionals.mem_entries_of_get? (tag, name) pair given
    rw [optionals, List.mem_singleton] at listed
    cases listed
    cases asked
  obtain ⟨endsIff, suffice⟩ :=
    rendering_ends_iff "locals" "txt" namedLocals plain built builds [] (.localVar "" .void) 0
  have ends := endsIff.mpr (not_recurs_of_rankedBy ranked _)
  exact ⟨plain, built, builds, ends, suffice ends⟩

/-- Locals whose pair asks for the pair again. -/
def selfAskingLocals : List Registration :=
  [.template .localVar "%<.name>", .optional .localVar "name" "%<.name>" ""]

theorem selfAsking_local_never_ends :
    (∀ name function, Registration.override name function ∉ selfAskingLocals) ∧
      ∃ built, Profile.build "locals" "txt" selfAskingLocals = .ok built ∧
        ¬built.Ends [] (.localVar "x" .void) 0 := by
  have plain : ∀ name function, Registration.override name function ∉ selfAskingLocals := by simp [selfAskingLocals]
  let asking : Template := ⟨[⟨0, [.directive (.optional "name")]⟩]⟩
  obtain ⟨built, builds, chosen, given⟩ : ∃ built, Profile.build "locals" "txt" selfAskingLocals = .ok built ∧
      built.templateFor (.localVar "x" .void) = .ok asking ∧
      built.optional? .localVar "name" = some ⟨asking, ⟨[]⟩⟩ := ⟨_, rfl, rfl, rfl⟩
  have none := get?_overrides_of_build "locals" "txt" selfAskingLocals plain built builds
  have leads : built.Leads [] (.localVar "x" .void) (.optional "name")
      ⟨OptionalPair.choose ⟨asking, ⟨[]⟩⟩ (.text "x"), .localVar "x" .void⟩ := .pair rfl given
  have calls : built.Calls [] ⟨asking, .localVar "x" .void⟩ ⟨asking, .localVar "x" .void⟩ :=
    ⟨[], _, [], [], _, [], rfl, rfl, nofun, nofun, leads⟩
  exact ⟨plain, built, builds, fun ends => (ends_iff none).mp ends ⟨_, _, chosen, .refl, .single calls⟩⟩

end Registrations

end Profile

end Retarget
