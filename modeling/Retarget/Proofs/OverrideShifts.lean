import Retarget.Proofs.DepthShift
import Retarget.Proofs.OperatorTrees
import Retarget.Proofs.ProfileFits

/-! Overrides at different depths. The overrides of the C# target write at a greater depth what they write at a
smaller one, behind a wider margin; so depth only shifts what the profile renders. -/
namespace Retarget
namespace CSharp

/-- Where the iterators and sequences of a lock-step loop come from. -/
theorem exists_of_zipParts (node : Node) (parts : ZipParts) (found : zipParts node = .ok parts) :
    (∃ iterators, node.childAt "iterators" = .ok iterators ∧
      iterators.sequenceAt "iterators" = .ok (parts.iterator :: parts.iterators)) ∧
    ∃ sequences, node.childAt "sequences" = .ok sequences ∧
      sequences.sequenceAt "sequences" = .ok (parts.sequence :: parts.sequences) := by
  simp only [zipParts, bind_eq_ok_iff] at found
  obtain ⟨outer, first, iterators, ofIterators, other, second, sequences, ofSequences, paired⟩ := found
  split at paired
  · split at paired <;> cases paired
    exact ⟨⟨outer, first, ofIterators⟩, other, second, ofSequences⟩
  · cases paired

/-- What holds everywhere in a lock-step loop holds everywhere in its iterators and sequences. -/
theorem everywhere_zipParts {P : Node → Prop} {node : Node} (all : node.Everywhere P) (parts : ZipParts)
    (found : zipParts node = .ok parts) :
    (∀ iterator ∈ parts.iterator :: parts.iterators, iterator.Everywhere P) ∧
      ∀ sequence ∈ parts.sequence :: parts.sequences, sequence.Everywhere P := by
  obtain ⟨⟨iterators, first, ofIterators⟩, sequences, second, ofSequences⟩ := exists_of_zipParts node parts found
  exact ⟨(all.childAt "iterators" iterators first).sequenceAt "iterators" _ ofIterators,
    (all.childAt "sequences" sequences second).sequenceAt "sequences" _ ofSequences⟩

theorem inline_zipParts {types : TypeTable} {node : Node} (inline : node.Inline types) (parts : ZipParts)
    (found : zipParts node = .ok parts) :
    (∀ iterator ∈ parts.iterator :: parts.iterators, iterator.Inline types) ∧
      ∀ sequence ∈ parts.sequence :: parts.sequences, sequence.Inline types :=
  everywhere_zipParts inline parts found

section Literals

theorem notMem_escape (c : Char) : '\n' ∉ escape c := by
  unfold escape
  split_ifs <;> simp_all [eq_comm]

theorem notMem_quote (value : List Char) : '\n' ∉ quote value := by
  simp [quote, notMem_escape]

theorem notMem_quoteVerbatim (value : List Char) (clean : '\n' ∉ value) : '\n' ∉ quoteVerbatim value := by
  have doubled (c : Char) (listed : c ∈ value) : '\n' ∉ if c = '"' then ['"', '"'] else [c] := by
    split
    · decide
    · rintro feed
      exact clean (List.mem_singleton.mp feed ▸ listed)
  simpa [quoteVerbatim] using doubled

end Literals

section Overrides

variable (renderer : Renderer) {more : Nat} (inline : renderer.target.Inline) (shifts : renderer.ShiftsBy more)
  {node : Node} (inlineNode : node.Inline renderer.target.types) (depth : Nat)
include inlineNode

section Texts

theorem base_shifts : base.ShiftsFor renderer more node depth := by
  refine .bind_left _ fun text found => .ok (.of_notMem ?_)
  have clean := inlineNode.textAt "base" text found
  exact (unbroken_append _ _).mpr ⟨by decide, clean⟩

omit inlineNode in
theorem stringLiteral_shifts : stringLiteral.ShiftsFor renderer more node depth := by
  refine .bind_left _ fun text _ => .ok (.of_notMem ?_)
  rw [String.toList_ofList]
  exact notMem_quote text.toList

theorem verbatimString_shifts : verbatimString.ShiftsFor renderer more node depth := by
  refine .bind_left _ fun text found => .ok (.of_notMem ?_)
  rw [String.toList_ofList]
  exact notMem_quoteVerbatim _ (inlineNode.textAt "value" text found)

end Texts

section Nodes

include inline shifts

theorem params_shifts : params.ShiftsFor renderer more node depth := by
  refine .bind_left _ fun nodes found => ?_
  have inlineNodes := inlineNode.sequenceAt "params" nodes found
  refine SameOutcome.bind (SameOutcome.mapM nodes fun param member => ?_) fun moved texts related =>
    .ok (Shifted.intercalate (.of_notMem (by decide)) related)
  have inlineParam := inlineNodes param member
  refine .bind_left _ fun type written => (Renderer.render_shifts inline shifts inlineParam depth).bind fun _ _ named =>
    .ok (Shifted.append (.of_notMem ?_) named)
  have clean := param.type.unbroken_render _ _ (inlineParam.ownType _ List.mem_cons_self) type written
  exact (unbroken_append _ _).mpr ⟨clean, by decide⟩

theorem anonymousBody_shifts (terminator : Unbroken renderer.target.terminator) :
    anonymousBody.ShiftsFor renderer more node depth := by
  refine .bind_left _ fun block found => ?_
  have inlineNodes := inlineNode.sequenceAt "block" block found
  split
  · rename_i value single
    obtain ⟨inner, rfl, returned, _⟩ := eq_singleton_of_singleReturn? block value single
    have inlineValue := (inlineNodes inner List.mem_cons_self).child value returned
    exact (Renderer.render_shifts inline shifts inlineValue depth).bind fun _ _ shifted =>
      .ok (Shifted.append (.of_notMem (by decide)) shifted)
  · split
    · exact .ok (.of_notMem (by decide))
    · rw [Nat.add_right_comm depth more 1]
      have written := Renderer.renderBlock_shifts inline shifts (depth + 1) terminator block inlineNodes .statements
        trivial
      refine written.bind fun moved text shifted => .ok ?_
      have brace : "\x7b\n" = "\x7b" ++ "\n" := rfl
      have opening : Shifted renderer.target.indent more "\x7b" "\x7b" := .of_notMem (by decide)
      have closing : Shifted renderer.target.indent more "\x7d" "\x7d" := .of_notMem (by decide)
      have first := (Shifted.lineBreak depth).append opening
      have inner := (Shifted.lineBreak (depth + 1)).append shifted
      have last := (Shifted.lineBreak depth).append closing
      simpa [brace, Renderer.indent, String.append_assoc, -String.reduceAppend] using (first.append inner).append last

theorem definitionsOf_shifts (tag : Tag) : (definitionsOf tag).ShiftsFor renderer more node depth := by
  refine .bind_left _ fun nodes found => ?_
  have inlineNodes := inlineNode.sequenceAt "definitions" nodes found
  refine SameOutcome.bind (SameOutcome.mapM _ fun inner member => ?_) fun moved texts related =>
    .ok (Shifted.intercalate (.blankLine depth) related)
  exact Renderer.render_shifts inline shifts (inlineNodes inner (List.mem_filter.mp member).1) depth

theorem itemVariable_shifts : itemVariable.ShiftsFor renderer more node depth := by
  refine .bind_left _ fun iterators found => .bind_left _ fun key stored => ?_
  have inlineKey := (inlineNode.childAt "iterators" iterators found).childAt "key" key stored
  exact (Renderer.render_shifts inline shifts inlineKey depth).bind fun _ _ shifted =>
    .ok (shifted.enclose _ _ (by decide) (by decide))

omit inline in
theorem libraryCall_shifts (entry : Option LibraryEntry) (name : String)
    (inlineEntry : ∀ found, entry = some found → found.template.Inline) :
    Shifts renderer.target.indent more (libraryCall renderer entry name node (depth + more))
      (libraryCall renderer entry name node depth) := by
  cases entry with
  | none => exact .error _
  | some entry => exact shifts entry.template (inlineEntry entry rfl) node inlineNode depth

theorem standardCall_shifts : standardCall.ShiftsFor renderer more node depth := by
  refine .bind_left _ fun space _ => .bind_left _ fun function _ => ?_
  exact libraryCall_shifts renderer shifts inlineNode depth _ _ (inline.functions space function)

theorem standardMethodCall_shifts : standardMethodCall.ShiftsFor renderer more node depth := by
  refine .bind_left _ fun receiver _ => .bind_left _ fun message _ => ?_
  exact libraryCall_shifts renderer shifts inlineNode depth _ _ (inline.methods _ message)

omit inline shifts inlineNode in
theorem parenthesize_shifted {indent : Indent} {moved text : String} (wrap : Bool)
    (shifted : Shifted indent more moved text) :
    Shifted indent more (parenthesize wrap moved) (parenthesize wrap text) := by
  cases wrap with
  | false => exact shifted
  | true => exact shifted.enclose _ _ (by decide) (by decide)

theorem operand_shifts (side : Side) : (operand side).ShiftsFor renderer more node depth := by
  refine .bind_left _ fun value found => ?_
  have inlineValue := inlineNode.childAt side.name value found
  exact (Renderer.render_shifts inline shifts inlineValue depth).bind fun _ _ shifted =>
    .ok (parenthesize_shifted _ shifted)

theorem unaryOperand_shifts : unaryOperand.ShiftsFor renderer more node depth := by
  refine .bind_left _ fun value found => ?_
  have inlineValue := inlineNode.childAt "value" value found
  exact (Renderer.render_shifts inline shifts inlineValue depth).bind fun _ _ shifted =>
    .ok (parenthesize_shifted _ shifted)

theorem zipCounter_shifts : zipCounter.ShiftsFor renderer more node depth := by
  refine .bind_left _ fun parts found => ?_
  have inlineIterator := (inline_zipParts inlineNode parts found).1 parts.iterator List.mem_cons_self
  exact (Renderer.render_shifts inline shifts inlineIterator depth).bind fun _ _ shifted =>
    .ok (shifted.enclose _ _ (by decide) (by decide))

theorem firstSequence_shifts : firstSequence.ShiftsFor renderer more node depth := by
  refine .bind_left _ fun parts found => ?_
  have inlineSequence := (inline_zipParts inlineNode parts found).2 parts.sequence List.mem_cons_self
  exact Renderer.render_shifts inline shifts inlineSequence depth

end Nodes

end Overrides

section LockStep

/-- The template of an element of a sequence. -/
def indexTemplate : Template :=
  ⟨[⟨0, [.directive (.placeholder ⟨"sequence", []⟩), .text "[", .directive (.placeholder ⟨"index", []⟩), .text "]"]⟩]⟩

variable {settings : LanguageSettings} {built : Profile} (basics : Basics settings built)
include basics

theorem entry_index : built.entries.get? .index = some (.template indexTemplate) :=
  basics.templates .index "%<sequence>[%<index>]" _ rfl ((Template.parse_ofList _ _).trans (by decide))

omit basics in
/-- A node with a template is shifted if the segments of the template are, and so are two such nodes. -/
theorem render_shifts_of_segments {declared : List String} {more fuel : Nat} (template : Template) (node other : Node)
    (same : node.tag = other.tag) (entry : built.entries.get? other.tag = some (.template template))
    (segments : ∀ less < fuel, ∀ line ∈ template.lines, ∀ segment ∈ line.segments, ∀ depth,
      Shifts built.indent more
        ((Rules.rendererAt built declared less).segment built.overrides node (depth + more) segment)
        ((Rules.rendererAt built declared less).segment built.overrides other depth segment)) (depth : Nat) :
    Shifts built.indent more ((Rules.rendererAt built declared fuel).render node (depth + more))
      ((Rules.rendererAt built declared fuel).render other depth) := by
  have found : (Rules.rendererAt built declared fuel).target.entry? other.tag = some (.template template) := entry
  rw [Renderer.render, Renderer.render, same, found]
  cases fuel with
  | zero =>
    have failed (node : Node) (depth : Nat) :
        (Rules.rendererAt built declared 0).expand template node depth = .error (.unending node.tag) := rfl
    simp only [failed, same]
    exact .error _
  | succ fuel =>
    exact Renderer.step_shifts_of_segments depth (Rules.rendererAt built declared fuel) built.overrides node other
      template (segments fuel (Nat.lt_succ_self fuel))

variable (inline : built.toTarget.Inline) {declared : List String} {more : Nat} {fuel : Nat}
  (shifts : ∀ less ≤ fuel, (Rules.rendererAt built declared less).ShiftsBy more) (depth : Nat)

/-- The name of a counter is made of rendered text, so that it may be a shifted text itself. -/
theorem localVar_shifts (moved text : String) (type : SemType) (shifted : Shifted built.indent more moved text) :
    Shifts built.indent more ((Rules.rendererAt built declared fuel).render (.localVar moved type) (depth + more))
      ((Rules.rendererAt built declared fuel).render (.localVar text type) depth) := by
  refine render_shifts_of_segments (attributeTemplate "name") (.localVar moved type) (.localVar text type) rfl
    (entry_localVar basics) (fun less _ => ?_) depth
  simp only [attributeTemplate, List.forall_mem_cons]
  refine ⟨⟨fun inner => ?_, List.forall_mem_nil _⟩, List.forall_mem_nil _⟩
  have placed (name : String) (depth : Nat) :=
    Renderer.segment_placeholder built.overrides (Rules.rendererAt built declared less) (.localVar name type) depth
      "name" _ rfl
  rw [placed, placed]
  exact .ok shifted

include inline shifts

theorem index_shifts (sequence : Node) (inlineSequence : sequence.Inline built.types) (moved text : String)
    (shifted : Shifted built.indent more moved text) (own type : SemType) :
    Shifts built.indent more
      ((Rules.rendererAt built declared fuel).render (.index sequence (.localVar moved own) type) (depth + more))
      ((Rules.rendererAt built declared fuel).render (.index sequence (.localVar text own) type) depth) := by
  refine render_shifts_of_segments indexTemplate (.index sequence (.localVar moved own) type)
    (.index sequence (.localVar text own) type) rfl (entry_index basics) (fun less smaller => ?_) depth
  have sequenceAt (name : String) (depth : Nat) := Renderer.segment_placeholder built.overrides
    (Rules.rendererAt built declared less) (.index sequence (.localVar name own) type) depth "sequence" _ rfl
  have indexAt (name : String) (depth : Nat) := Renderer.segment_placeholder built.overrides
    (Rules.rendererAt built declared less) (.index sequence (.localVar name own) type) depth "index" _ rfl
  simp only [indexTemplate, List.forall_mem_cons]
  refine ⟨⟨fun inner => ?_, fun _ => .ok (.of_notMem (by decide)), fun inner => ?_,
    fun _ => .ok (.of_notMem (by decide)), List.forall_mem_nil _⟩, List.forall_mem_nil _⟩
  · rw [sequenceAt, sequenceAt]
    exact Renderer.render_shifts inline (shifts less (Nat.le_of_lt smaller)) inlineSequence inner
  · rw [indexAt, indexAt]
    exact localVar_shifts basics inner moved text own shifted

variable {node : Node} (inlineNode : node.Inline built.types)
include inlineNode

theorem zipIterators_shifts :
    zipIterators.ShiftsFor (Rules.rendererAt built declared fuel) more node depth := by
  have same := shifts fuel (Nat.le_refl fuel)
  refine .bind_left _ fun parts found => ?_
  obtain ⟨inlineIterators, inlineSequences⟩ := inline_zipParts inlineNode parts found
  have counted := zipCounter_shifts (Rules.rendererAt built declared fuel) inline same inlineNode depth
  refine counted.bind fun moved counter shifted => ?_
  refine SameOutcome.bind (SameOutcome.mapM _ fun pair member => ?_) fun _ _ related =>
    .ok (Shifted.intercalate (.lineBreak depth) related)
  obtain ⟨iterator, sequence⟩ := pair
  obtain ⟨ofIterators, ofSequences⟩ := List.of_mem_zip member
  refine (Renderer.render_shifts inline same (inlineIterators iterator ofIterators) depth).bind fun _ _ named => ?_
  have elements := index_shifts basics inline shifts depth sequence (inlineSequences sequence ofSequences) moved counter
    shifted (.named "Int") iterator.type
  refine elements.bind fun _ _ element => ?_
  have before := named.enclose "var " " = " (by decide) (by decide)
  exact .ok ((before.append element).append (.of_notMem (by decide)))

end LockStep

/-- Every override is shifted. -/
theorem overrides_shift {settings : LanguageSettings} {built : Profile} (basics : Basics settings built)
    (inline : built.toTarget.Inline) (declared : List String) (more : Nat) :
    ∀ rule ∈ rules.overrides, rule.function.ShiftsIn built declared more := by
  have terminator : Unbroken built.terminator := by
    rw [basics.terminator]
    decide
  simp only [rules, List.forall_mem_cons]
  refine ⟨?_, ?_, ?_, ?_, ?_, ?_, ?_, ?_, ?_, ?_, ?_, ?_, ?_, ?_, ?_, ?_, List.forall_mem_nil _⟩
  all_goals
    intro fuel shifts node inlineNode depth
    have same := shifts fuel (Nat.le_refl fuel)
    let renderer := Rules.rendererAt built declared fuel
  · exact params_shifts renderer inline same inlineNode depth
  · exact anonymousBody_shifts renderer inline same inlineNode depth terminator
  · exact base_shifts renderer inlineNode depth
  · exact definitionsOf_shifts renderer inline same inlineNode depth .classDefinition
  · exact definitionsOf_shifts renderer inline same inlineNode depth .functionDefinition
  · exact itemVariable_shifts renderer inline same inlineNode depth
  · exact zipCounter_shifts renderer inline same inlineNode depth
  · exact firstSequence_shifts renderer inline same inlineNode depth
  · exact zipIterators_shifts basics inline shifts depth inlineNode
  · exact stringLiteral_shifts renderer depth
  · exact verbatimString_shifts renderer inlineNode depth
  · exact standardCall_shifts renderer inline same inlineNode depth
  · exact standardMethodCall_shifts renderer inline same inlineNode depth
  · exact operand_shifts renderer inline same inlineNode depth .left
  · exact operand_shifts renderer inline same inlineNode depth .right
  · exact unaryOperand_shifts renderer inline same inlineNode depth

end CSharp

namespace Profile

/-- At a depth a node fails as it does at no depth, or gives the same lines, each behind the margin of the depth
unless it is the first or empty. Spaces and tabs at the ends of lines do not count. -/
def OnlyShifts (profile : Profile) (declared : List String) (node : Node) (depth : Nat) : Prop :=
  (fun text => Text.bareLines text.toList) <$> profile.render declared node depth =
    (fun text => Text.shiftLines (profile.indent.margin depth).toList (Text.bareLines text.toList)) <$>
      profile.render declared node 0

theorem onlyShifts_of_overrides (profile : Profile) (declared : List String) (node : Node) (depth : Nat)
    (inline : profile.toTarget.Inline) (terminator : Unbroken profile.terminator)
    (inlineNode : node.Inline profile.types)
    (sound : ∀ name override, profile.overrides.get? name = some override →
      override.ShiftsIn profile declared depth) :
    profile.OnlyShifts declared node depth := by
  have shifts := rendererAt_shifts declared depth inline terminator sound (profile.nesting node.size)
  have same : Shifts profile.indent depth (profile.render declared node (0 + depth)) (profile.render declared node 0) :=
    Renderer.render_shifts inline shifts inlineNode 0
  rw [Nat.zero_add] at same
  rw [OnlyShifts]
  generalize profile.render declared node depth = moved, profile.render declared node 0 = base at same ⊢
  cases same with
  | ok shifted => exact congrArg Except.ok (ShiftedBy.bareLines_eq (profile.indent.all_margin depth) shifted)
  | error cause => rfl

/-- A call of a function that is written where it is passed, inside a loop. -/
def closureInLoop : Node :=
  let step name := Node.call (.localVar name (.named "Function")) [] .void
  let closure : Node := ⟨.anonymousFunction [] .void [step "first", step "second"], .void⟩
  .whileStatement (.localVar "going" (.named "Boolean")) [.call (.localVar "run" (.named "Function")) [closure] .void]

def loopTemplates : List Registration :=
  [.indent (.spaces 2), .terminator ";", .template .localVar "%<name>",
    .template .whileStatement "while %<test>:\n    %<block:stmts>\nend"]

def nestedLoops : Node :=
  let flag name := Node.localVar name (.named "Boolean")
  .whileStatement (flag "a") [.whileStatement (flag "b") [flag "c"]]

end Profile
end Retarget
