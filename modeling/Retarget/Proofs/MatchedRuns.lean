import Mathlib.Data.List.Forall2
import Retarget.Profile
import Retarget.Proofs.WritingTrees

/-! Two runs of rendering. Two renderers that differ in their indentation and in the steps that they have left come to
texts that are alike, or fail in the same way, if this holds of the overrides that their templates call. What "alike"
means is a relation of texts that is kept when texts are put together and laid out. -/
namespace Retarget

section Outcomes

/-- Related results, or the same error. There are errors that cut the first run off; the second may then come to
anything. -/
inductive Follows (cut : GenerateError → Prop) (R : α → β → Prop) :
    Except GenerateError α → Except GenerateError β → Prop
  | ok {a : α} {b : β} : R a b → Follows cut R (.ok a) (.ok b)
  | error (cause : GenerateError) : Follows cut R (.error cause) (.error cause)
  | cut {cause : GenerateError} (may : cut cause) (other : Except GenerateError β) :
      Follows cut R (.error cause) other

/-- A run fails so if it has too few steps. -/
def GenerateError.TooFewSteps (cause : GenerateError) : Prop := ∃ tag, cause = .unending tag

namespace Follows

variable {cut : GenerateError → Prop} {R : α → β → Prop}

theorem of_eq {result other : Except GenerateError α} {R : α → α → Prop} (refl : ∀ a, R a a) (same : result = other) :
    Follows cut R result other := by
  subst same
  cases result with
  | ok a => exact .ok (refl a)
  | error cause => exact .error cause

theorem bind {S : γ → δ → Prop} {first : Except GenerateError α} {other : Except GenerateError β}
    {next : α → Except GenerateError γ} {following : β → Except GenerateError δ} (follows : Follows cut R first other)
    (continued : ∀ a b, R a b → Follows cut S (next a) (following b)) :
    Follows cut S (first >>= next) (other >>= following) := by
  cases follows with
  | ok related => exact continued _ _ related
  | error cause => exact .error cause
  | cut may other => exact .cut may _

/-- What is done alike first. -/
theorem bind_left {S : γ → δ → Prop} (first : Except GenerateError α) {next : α → Except GenerateError γ}
    {following : α → Except GenerateError δ} (continued : ∀ a, Follows cut S (next a) (following a)) :
    Follows cut S (first >>= next) (first >>= following) := by
  cases first with
  | ok a => exact continued a
  | error cause => exact .error cause

theorem mapM {f : α → Except GenerateError β} {g : α → Except GenerateError γ} {S : β → γ → Prop} (xs : List α)
    (follows : ∀ x ∈ xs, Follows cut S (f x) (g x)) : Follows cut (List.Forall₂ S) (xs.mapM f) (xs.mapM g) := by
  induction xs with
  | nil => exact .ok .nil
  | cons x xs ih =>
    rw [List.forall_mem_cons] at follows
    rw [List.mapM_cons, List.mapM_cons]
    exact follows.1.bind fun y z here => (ih follows.2).bind fun ys zs others => .ok (.cons here others)

end Follows

end Outcomes

/-- A line of a template in two runs. -/
inductive LikeLine (texts : String → String → Prop) (depths : Nat → Nat → Prop) : RenderedLine → RenderedLine → Prop
  | blank : LikeLine texts depths .blank .blank
  | content {depth other : Nat} (hasDirective : Bool) {text following : String} :
      depths depth other → texts text following →
        LikeLine texts depths (.content depth hasDirective text) (.content other hasDirective following)

/-- When texts under two indentations are alike, for depths that go together. -/
structure Likeness (indent otherIndent : Indent) where
  texts : String → String → Prop
  depths : Nat → Nat → Prop
  refl : ∀ text, texts text text
  append : ∀ {text other rest others}, texts text other → texts rest others → texts (text ++ rest) (other ++ others)
  deeper : ∀ {depth other} more, depths depth other → depths (depth + more) (other + more)
  lineBreak : ∀ {depth other}, depths depth other →
    texts ("\n" ++ indent.margin depth) ("\n" ++ otherIndent.margin other)
  blankLine : ∀ {depth other}, depths depth other →
    texts ("\n\n" ++ indent.margin depth) ("\n\n" ++ otherIndent.margin other)
  layOut : ∀ {lines others}, List.Forall₂ (LikeLine texts depths) lines others →
    texts (layOut indent lines) (layOut otherIndent others)

namespace Likeness

variable {indent otherIndent : Indent} (like : Likeness indent otherIndent)

theorem join {pieces texts : List String} (related : List.Forall₂ like.texts pieces texts) :
    like.texts (String.join pieces) (String.join texts) := by
  induction related with
  | nil => exact like.refl ""
  | cons first _ ih =>
    rw [String.join_cons, String.join_cons]
    exact like.append first ih

theorem intercalate {separator other : String} {pieces texts : List String} (separators : like.texts separator other)
    (related : List.Forall₂ like.texts pieces texts) :
    like.texts (separator.intercalate pieces) (other.intercalate texts) := by
  induction related with
  | nil => exact like.refl ""
  | cons first rest ih =>
    cases rest with
    | nil => simpa using first
    | cons second rest =>
      rw [String.intercalate_cons_cons, String.intercalate_cons_cons]
      exact like.append (like.append first separators) ih

/-- The same text at the same depth. -/
def same (indent : Indent) : Likeness indent indent where
  texts := Eq
  depths := Eq
  refl _ := rfl
  append first second := by rw [first, second]
  deeper more here := by rw [here]
  lineBreak here := by rw [here]
  blankLine here := by rw [here]
  layOut := by
    intro lines others related
    congr 1
    induction related with
    | nil => rfl
    | cons here _ ih =>
      rw [ih]
      cases here with
      | blank => rfl
      | content hasDirective sameDepth sameText => rw [sameDepth, sameText]

end Likeness

section Renderers

variable {indent otherIndent : Indent} (like : Likeness indent otherIndent) (cut : GenerateError → Prop)

/-- An override writes alike for a node in two runs. -/
def Override.Matches (override : Override) (first second : Renderer) : Prop :=
  ∀ node depth other, like.depths depth other →
    Follows cut like.texts (override first node depth) (override second node other)

/-- Two renderers with one target but for its indentation, whose templates come out alike. -/
structure Renderer.Matches (first second : Renderer) : Prop where
  indent : first.target.indent = indent
  target : second.target = { first.target with indent := otherIndent }
  types : ∀ type, Follows cut like.texts (first.renderType type) (second.renderType type)
  expand : ∀ template node depth other, like.depths depth other →
    Follows cut like.texts (first.expand template node depth) (second.expand template node other)

namespace Renderer

variable {like cut} {first second : Renderer}

section Nodes

variable (run : first.Matches like cut second) {depth other : Nat} (near : like.depths depth other)
include run

theorem Matches.terminator_eq (mode : JoinMode) (node : Node) :
    first.terminator mode node = second.terminator mode node := by
  rw [terminator, terminator, run.target]

include near

theorem Matches.render (node : Node) : Follows cut like.texts (first.render node depth) (second.render node other) := by
  have entry : second.target.entry? node.tag = first.target.entry? node.tag := by
    rw [run.target]
    rfl
  rw [Renderer.render, Renderer.render, entry]
  cases first.target.entry? node.tag with
  | none => exact .error _
  | some entry =>
    cases entry with
    | template template => exact run.expand template node depth other near
    | switch switch =>
      refine .bind_left _ fun resolved => .bind_left _ fun key => ?_
      cases switch.select? key with
      | none => exact .error _
      | some template => exact run.expand template node depth other near

theorem Matches.separator (mode : JoinMode) :
    like.texts (first.separator depth mode) (second.separator other mode) := by
  have indented : second.target.indent = otherIndent := by rw [run.target]
  cases mode with
  | separator text => exact like.refl text
  | paragraphs =>
    simp only [Renderer.separator, Renderer.indent, run.indent, indented]
    exact like.blankLine near
  | _ =>
    simp only [Renderer.separator, Renderer.indent, run.indent, indented]
    exact like.lineBreak near

theorem Matches.renderBlock (nodes : List Node) (mode : JoinMode) :
    Follows cut like.texts (first.renderBlock nodes depth mode) (second.renderBlock nodes other mode) := by
  refine Follows.bind (Follows.mapM nodes fun inner _ => ?_) fun texts others related =>
    .ok (like.intercalate (run.separator near mode) related)
  rw [run.terminator_eq]
  exact (run.render near inner).bind fun _ _ same => .ok (like.append same (like.refl _))

theorem Matches.place (resolved : Resolved) :
    Follows cut like.texts (first.place resolved depth) (second.place resolved other) := by
  obtain ⟨tag, name, field⟩ := resolved
  cases field with
  | node child => exact run.render near child
  | type type => exact run.types type
  | _ => exact .of_eq like.refl rfl

theorem Matches.join (resolved : Resolved) (mode : JoinMode) :
    Follows cut like.texts (first.join resolved mode depth) (second.join resolved mode other) := by
  obtain ⟨tag, name, field⟩ := resolved
  cases field with
  | nodes nodes => exact run.renderBlock near nodes mode
  | _ => exact .of_eq like.refl rfl

omit near in
theorem Matches.typeOf (resolved : Resolved) :
    Follows cut like.texts (first.typeOf resolved) (second.typeOf resolved) := by
  obtain ⟨tag, name, field⟩ := resolved
  cases field with
  | type type => exact run.types type
  | node child => exact run.types child.type
  | _ => exact .error _

theorem Matches.directive (overrides : OverrideTable)
    (sound : ∀ name override, overrides.get? name = some override → override.Matches like cut first second)
    (node : Node) (directive : Directive) :
    Follows cut like.texts (first.directive overrides node depth directive)
      (second.directive overrides node other directive) := by
  cases directive with
  | placeholder path => exact .bind_left _ fun resolved => run.place near resolved
  | join path mode => exact .bind_left _ fun resolved => run.join near resolved mode
  | type path => exact .bind_left _ fun resolved => run.typeOf resolved
  | optional name =>
    have given : second.target.optional? node.tag name = first.target.optional? node.tag name := by
      rw [run.target]
      rfl
    rw [Renderer.directive, Renderer.directive, given]
    cases node.attr? name with
    | none => exact .error _
    | some field =>
      cases first.target.optional? node.tag name with
      | none => exact .error _
      | some pair => exact run.expand _ node depth other near
  | override name =>
    rw [Renderer.directive, Renderer.directive]
    cases registered : overrides.get? name with
    | none => exact .error _
    | some override => exact sound name override registered node depth other near

theorem Matches.segment (overrides : OverrideTable)
    (sound : ∀ name override, overrides.get? name = some override → override.Matches like cut first second)
    (node : Node) (segment : Segment) :
    Follows cut like.texts (first.segment overrides node depth segment)
      (second.segment overrides node other segment) := by
  cases segment with
  | text value => exact .ok (like.refl value)
  | directive body => exact run.directive near overrides sound node body

end Nodes

variable (like) in
/-- A template comes out alike if its segments do, also where it is rendered for two nodes. -/
theorem step_follows_of_segments (indents : first.target.indent = indent ∧ second.target.indent = otherIndent)
    (overrides : OverrideTable) (node following : Node) (template : Template)
    (segments : ∀ line ∈ template.lines, ∀ segment ∈ line.segments, ∀ depth other, like.depths depth other →
      Follows cut like.texts (first.segment overrides node depth segment)
        (second.segment overrides following other segment))
    {depth other : Nat} (near : like.depths depth other) :
    Follows cut like.texts (first.step overrides template node depth)
      (second.step overrides template following other) := by
  have line (line : Line) (listed : line ∈ template.lines) :
      Follows cut (LikeLine like.texts like.depths) (first.line overrides node depth line)
        (second.line overrides following other line) := by
    rw [Renderer.line, Renderer.line]
    split
    · exact .ok .blank
    · have deeper := like.deeper line.level near
      have parts := Follows.mapM line.segments fun segment member => segments line listed segment member _ _ deeper
      exact parts.bind fun _ _ related => .ok (.content _ deeper (like.join related))
  obtain ⟨rfl, rfl⟩ := indents
  exact (Follows.mapM template.lines line).bind fun _ _ related => .ok (like.layOut related)

theorem Matches.step (run : first.Matches like cut second) (overrides : OverrideTable)
    (sound : ∀ name override, overrides.get? name = some override → override.Matches like cut first second)
    (template : Template) (node : Node) {depth other : Nat} (near : like.depths depth other) :
    Follows cut like.texts (first.step overrides template node depth) (second.step overrides template node other) := by
  have indents : first.target.indent = indent ∧ second.target.indent = otherIndent :=
    ⟨run.indent, by rw [run.target]⟩
  exact step_follows_of_segments like indents overrides node node template
    (fun _ _ segment _ _ _ deeper => run.segment deeper overrides sound node segment) near

end Renderer

end Renderers

section Profiles

/-- A profile with another indentation. -/
def Profile.reindented (profile : Profile) (indent : Indent) : Profile := { profile with indent := indent }

variable {profile : Profile} {indent : Indent} (like : Likeness profile.indent indent) (cut : GenerateError → Prop)
  (declared others : List String) (extra : Nat)

/-- Types are written alike, whichever of two lists of names is declared. -/
abbrev Likeness.Types : Prop :=
  ∀ type : SemType, Follows cut like.texts (type.render profile.types declared) (type.render profile.types others)

/-- The run with so many steps, and the one with some more of them under the other indentation. -/
abbrev RunsMatch (fuel : Nat) : Prop :=
  (Rules.rendererAt profile declared fuel).Matches like cut
    (Rules.rendererAt (profile.reindented indent) others (fuel + extra))

/-- An override writes alike in two runs, as long as the renderers that it may be called with match. -/
def Override.MatchesIn (override : Override) : Prop :=
  ∀ fuel, (∀ less ≤ fuel, RunsMatch like cut declared others extra less) →
    override.Matches like cut (Rules.rendererAt profile declared fuel)
      (Rules.rendererAt (profile.reindented indent) others (fuel + extra))

variable {like cut declared others extra}

theorem Likeness.types_self : like.Types cut declared declared := fun _ => .of_eq like.refl rfl

/-- Runs match if no step is added, or if a run that has too few of them is cut off. -/
theorem runsMatch (types : like.Types cut declared others) (cuts : extra = 0 ∨ ∀ tag, cut (.unending tag))
    (sound : ∀ name override, profile.overrides.get? name = some override →
      override.MatchesIn like cut declared others extra) (fuel : Nat) :
    RunsMatch like cut declared others extra fuel := by
  -- An override may expand templates inside those that it asks for, so one step back is not enough for it.
  induction fuel using Nat.strongRecOn with
  | ind fuel ih =>
    refine ⟨rfl, rfl, types, fun template node depth other near => ?_⟩
    cases fuel with
    | zero =>
      rcases cuts with rfl | may
      · exact .error _
      · exact .cut (may node.tag) _
    | succ fuel =>
      have overrides (name : String) (override : Override) (registered : profile.overrides.get? name = some override) :=
        sound name override registered fuel fun less le => ih less (Nat.lt_succ_of_le le)
      rw [Nat.add_right_comm]
      exact (ih fuel (Nat.lt_succ_self fuel)).step profile.overrides overrides template node near

end Profiles

end Retarget
