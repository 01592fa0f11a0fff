import Retarget.Proofs.MatchedRuns
import Retarget.Proofs.OverrideShifts

/-! Overrides in two runs. The overrides of the C# target write alike whenever what they ask for does, so that any two
runs of its profile match. -/
namespace Retarget

theorem Likeness.enclose {indent otherIndent : Indent} (like : Likeness indent otherIndent) (front back : String)
    {text other : String} (same : like.texts text other) :
    like.texts (front ++ text ++ back) (front ++ other ++ back) :=
  like.append (like.append (like.refl front) same) (like.refl back)

namespace CSharp

section Overrides

variable {indent otherIndent : Indent} (like : Likeness indent otherIndent) {cut : GenerateError → Prop} {first second : Renderer}

theorem matches_of_eq (override : Override) (same : ∀ node depth other,
    override first node depth = override second node other) : override.Matches like cut first second :=
  fun node depth other _ => .of_eq like.refl (same node depth other)

theorem parenthesize_alike {text other : String} (wrap : Bool) (same : like.texts text other) :
    like.texts (parenthesize wrap text) (parenthesize wrap other) := by
  cases wrap with
  | false => exact same
  | true => exact like.enclose "(" ")" same

variable {like} (run : first.Matches like cut second)
include run

theorem params_matches : params.Matches like cut first second := by
  intro node depth other near
  refine .bind_left _ fun nodes => Follows.bind (Follows.mapM nodes fun param _ => ?_) fun _ _ related =>
    .ok (like.intercalate (like.refl ", ") related)
  refine (run.types param.type).bind fun _ _ typed => (run.render near param).bind fun _ _ named => .ok ?_
  exact like.append (like.append typed (like.refl " ")) named

theorem anonymousBody_matches : anonymousBody.Matches like cut first second := by
  intro node depth other near
  refine .bind_left _ fun block => ?_
  split
  · exact (run.render near _).bind fun _ _ same => .ok (like.append (like.refl " ") same)
  · split
    · exact .of_eq like.refl rfl
    · have deeper := like.deeper 1 near
      refine (run.renderBlock deeper block .statements).bind fun _ _ same => .ok ?_
      have indents : second.target.indent = otherIndent := by rw [run.target]
      have brace : "\x7b\n" = "\x7b" ++ "\n" := rfl
      have opening := like.append (like.lineBreak near) (like.refl "\x7b")
      have inner := like.append (like.lineBreak deeper) same
      have closing := like.append (like.lineBreak near) (like.refl "\x7d")
      have whole := like.append (like.append opening inner) closing
      simpa [brace, Renderer.indent, run.indent, indents, String.append_assoc, -String.reduceAppend] using whole

theorem definitionsOf_matches (tag : Tag) : (definitionsOf tag).Matches like cut first second := by
  intro node depth other near
  have indents : second.target.indent = otherIndent := by rw [run.target]
  refine .bind_left _ fun nodes => Follows.bind (Follows.mapM _ fun inner _ => run.render near inner)
    fun _ _ related => .ok ?_
  rw [Renderer.indent, Renderer.indent, run.indent, indents]
  exact like.intercalate (like.blankLine near) related

theorem itemVariable_matches : itemVariable.Matches like cut first second := by
  intro node depth other near
  refine .bind_left _ fun iterators => .bind_left _ fun key => ?_
  exact (run.render near key).bind fun _ _ same => .ok (like.enclose "_" "Item" same)

theorem libraryCall_follows (entry : Option LibraryEntry) (name : String) (node : Node) {depth other : Nat}
    (near : like.depths depth other) :
    Follows cut like.texts (libraryCall first entry name node depth) (libraryCall second entry name node other) := by
  cases entry with
  | none => exact .error _
  | some entry => exact run.expand entry.template node depth other near

theorem standardCall_matches : standardCall.Matches like cut first second := by
  intro node depth other near
  refine .bind_left _ fun space => .bind_left _ fun function => ?_
  rw [run.target]
  exact libraryCall_follows run _ _ node near

theorem standardMethodCall_matches : standardMethodCall.Matches like cut first second := by
  intro node depth other near
  refine .bind_left _ fun receiver => .bind_left _ fun message => ?_
  rw [run.target]
  exact libraryCall_follows run _ _ node near

theorem operand_matches (side : Side) : (operand side).Matches like cut first second := by
  intro node depth other near
  refine .bind_left _ fun value => ?_
  exact (run.render near value).bind fun _ _ same => .ok (parenthesize_alike like _ same)

theorem unaryOperand_matches : unaryOperand.Matches like cut first second := by
  intro node depth other near
  refine .bind_left _ fun value => ?_
  exact (run.render near value).bind fun _ _ same => .ok (parenthesize_alike like _ same)

theorem zipCounter_matches : zipCounter.Matches like cut first second := by
  intro node depth other near
  refine .bind_left _ fun parts => ?_
  exact (run.render near parts.iterator).bind fun _ _ same => .ok (like.enclose "_" "Index" same)

theorem firstSequence_matches : firstSequence.Matches like cut first second := by
  intro node depth other near
  exact .bind_left _ fun parts => run.render near parts.sequence

end Overrides

section LockStep

variable {settings : LanguageSettings} {built : Profile} (basics : Basics settings built) {indent : Indent}
  {like : Likeness built.indent indent} {cut : GenerateError → Prop} {declared others : List String}
  {fuel extra depth other : Nat} (near : like.depths depth other) (cuts : extra = 0 ∨ ∀ tag, cut (.unending tag))
include near cuts

/-- A node with a template comes out alike if the segments of the template do, and so do two such nodes. -/
theorem render_follows_of_segments (template : Template) (node following : Node) (same : node.tag = following.tag)
    (entry : built.entries.get? following.tag = some (.template template))
    (segments : ∀ less < fuel, ∀ line ∈ template.lines, ∀ segment ∈ line.segments, ∀ depth other,
      like.depths depth other → Follows cut like.texts
        ((Rules.rendererAt built declared less).segment built.overrides node depth segment)
        ((Rules.rendererAt (built.reindented indent) others (less + extra)).segment built.overrides following other
          segment)) :
    Follows cut like.texts ((Rules.rendererAt built declared fuel).render node depth)
      ((Rules.rendererAt (built.reindented indent) others (fuel + extra)).render following other) := by
  have found : (Rules.rendererAt built declared fuel).target.entry? following.tag = some (.template template) := entry
  have alsoFound : (Rules.rendererAt (built.reindented indent) others (fuel + extra)).target.entry? following.tag =
      some (.template template) := entry
  rw [Renderer.render, Renderer.render, same, found, alsoFound]
  cases fuel with
  | zero =>
    have failed (profile : Profile) (node : Node) (depth : Nat) :
        (Rules.rendererAt profile declared 0).expand template node depth = .error (.unending node.tag) := rfl
    rcases cuts with rfl | may
    · simp only [failed, same]
      exact .error _
    · simp only [failed]
      exact .cut (may node.tag) _
  | succ fuel =>
    rw [Nat.add_right_comm]
    exact Renderer.step_follows_of_segments like ⟨rfl, rfl⟩ built.overrides node following template
      (fun line listed segment member => segments fuel (Nat.lt_succ_self fuel) line listed segment member) near

include basics

/-- The name of a counter is made of rendered text, which may differ in two runs. -/
theorem localVar_follows (text following : String) (type : SemType) (same : like.texts text following) :
    Follows cut like.texts ((Rules.rendererAt built declared fuel).render (.localVar text type) depth)
      ((Rules.rendererAt (built.reindented indent) others (fuel + extra)).render (.localVar following type)
        other) := by
  refine render_follows_of_segments near cuts (attributeTemplate "name") (.localVar text type)
    (.localVar following type) rfl (entry_localVar basics) fun less _ => ?_
  simp only [attributeTemplate, List.forall_mem_cons]
  refine ⟨⟨fun inner outer _ => ?_, List.forall_mem_nil _⟩, List.forall_mem_nil _⟩
  have placed (renderer : Renderer) (name : String) (depth : Nat) :=
    Renderer.segment_placeholder built.overrides renderer (.localVar name type) depth "name" _ rfl
  rw [placed, placed]
  exact .ok same

variable (runs : ∀ less ≤ fuel, RunsMatch like cut declared others extra less)
include runs

theorem index_follows (sequence : Node) (text following : String) (same : like.texts text following)
    (own type : SemType) :
    Follows cut like.texts
      ((Rules.rendererAt built declared fuel).render (.index sequence (.localVar text own) type) depth)
      ((Rules.rendererAt (built.reindented indent) others (fuel + extra)).render
        (.index sequence (.localVar following own) type) other) := by
  refine render_follows_of_segments near cuts indexTemplate (.index sequence (.localVar text own) type)
    (.index sequence (.localVar following own) type) rfl (entry_index basics) fun less smaller => ?_
  have sequenceAt (renderer : Renderer) (name : String) (depth : Nat) :=
    Renderer.segment_placeholder built.overrides renderer (.index sequence (.localVar name own) type) depth "sequence"
      _ rfl
  have indexAt (renderer : Renderer) (name : String) (depth : Nat) :=
    Renderer.segment_placeholder built.overrides renderer (.index sequence (.localVar name own) type) depth "index" _
      rfl
  simp only [indexTemplate, List.forall_mem_cons]
  refine ⟨⟨fun inner outer near => ?_, fun _ _ _ => .ok (like.refl _), fun inner outer near => ?_,
    fun _ _ _ => .ok (like.refl _), List.forall_mem_nil _⟩, List.forall_mem_nil _⟩
  · rw [sequenceAt, sequenceAt]
    exact (runs less (Nat.le_of_lt smaller)).render near sequence
  · rw [indexAt, indexAt]
    exact localVar_follows basics near cuts text following own same

omit near in
theorem zipIterators_matches :
    zipIterators.Matches like cut (Rules.rendererAt built declared fuel)
      (Rules.rendererAt (built.reindented indent) others (fuel + extra)) := by
  intro node depth other near
  have run := runs fuel (Nat.le_refl fuel)
  refine .bind_left _ fun parts => ?_
  refine (zipCounter_matches run node depth other near).bind fun text following counted => ?_
  refine Follows.bind (Follows.mapM _ fun pair _ => ?_) fun _ _ related =>
    .ok (like.intercalate (like.lineBreak near) related)
  obtain ⟨iterator, sequence⟩ := pair
  refine (run.render near iterator).bind fun _ _ named => ?_
  have elements := index_follows basics near cuts runs sequence text following counted (.named "Int") iterator.type
  exact elements.bind fun _ _ element =>
    .ok (like.append (like.append (like.enclose "var " " = " named) element) (like.refl ";"))

end LockStep

section Built

variable {settings : LanguageSettings} {built : Profile} (basics : Basics settings built) {indent : Indent}
  (like : Likeness built.indent indent) {cut : GenerateError → Prop} (declared others : List String) {extra : Nat}
  (cuts : extra = 0 ∨ ∀ tag, cut (.unending tag))
include basics cuts

theorem overrides_match : ∀ rule ∈ rules.overrides, rule.function.MatchesIn like cut declared others extra := by
  simp only [rules, List.forall_mem_cons]
  refine ⟨?_, ?_, ?_, ?_, ?_, ?_, ?_, ?_, ?_, ?_, ?_, ?_, ?_, ?_, ?_, ?_, List.forall_mem_nil _⟩
  all_goals
    intro fuel runs
    have run := runs fuel (Nat.le_refl fuel)
  · exact params_matches run
  · exact anonymousBody_matches run
  · exact matches_of_eq like base fun _ _ _ => rfl
  · exact definitionsOf_matches run .classDefinition
  · exact definitionsOf_matches run .functionDefinition
  · exact itemVariable_matches run
  · exact zipCounter_matches run
  · exact firstSequence_matches run
  · exact zipIterators_matches basics cuts runs
  · exact matches_of_eq like stringLiteral fun _ _ _ => rfl
  · exact matches_of_eq like verbatimString fun _ _ _ => rfl
  · exact standardCall_matches run
  · exact standardMethodCall_matches run
  · exact operand_matches run .left
  · exact operand_matches run .right
  · exact unaryOperand_matches run

/-- Two runs of the C# profile match, whatever is alike in them. -/
theorem runs_match (types : like.Types cut declared others) (fuel : Nat) :
    RunsMatch like cut declared others extra fuel := by
  refine runsMatch types cuts (fun name override found => ?_) fuel
  obtain ⟨rule, listed, _, rfl⟩ := basics.noOthers name override found
  exact overrides_match basics like declared others cuts rule listed

omit cuts others in
/-- More steps do not change a text. -/
theorem render_of_le {fuel more : Nat} (le : fuel ≤ more) (node : Node) (depth : Nat) {text : String}
    (rendered : (Rules.rendererAt built declared fuel).render node depth = .ok text) :
    (Rules.rendererAt built declared more).render node depth = .ok text := by
  obtain ⟨extra, rfl⟩ := Nat.exists_eq_add_of_le le
  have near : (Likeness.same built.indent).depths depth depth := rfl
  have run : RunsMatch (.same built.indent) GenerateError.TooFewSteps declared declared extra fuel :=
    runs_match basics _ _ _ (.inr fun tag => ⟨tag, rfl⟩) Likeness.types_self _
  have follows := run.render near node
  rw [rendered] at follows
  change Follows _ _ _ ((Rules.rendererAt built declared (fuel + extra)).render node depth) at follows
  generalize (Rules.rendererAt built declared (fuel + extra)).render node depth = other at follows ⊢
  cases follows with
  | ok same => exact congrArg Except.ok (Eq.symm same)

end Built

end CSharp
end Retarget
