import Retarget.Proofs.OverrideShifts
import Retarget.Proofs.TemplateOutlines

/-! Outlines of the overrides of the C# target. -/
namespace Retarget.CSharp

/-- What the overrides come to, and the tag that some of them are known for only. A pattern is quoted as it is, and a
library call is written by a template for its tag. -/
def overrideOutlines : List (String × Option Tag × Outline) :=
  [("params", none, .dispensable), ("anon_block", none, ⟨true, false, false, true⟩),
    ("base", none, ⟨true, false, true, true⟩), ("class_definitions", none, .dispensable),
    ("function_definitions", none, .dispensable), ("item_variable", none, .solid), ("zip_index", none, .solid),
    ("first_sequence", none, .solid), ("zip_iterators", none, .solid), ("string_literal", none, .solid),
    ("verbatim_string", some .regex, .solid), ("standard_call", some .standardCall, .solid),
    ("standard_method_call", some .standardMethodCall, .solid), ("left_operand", none, .solid),
    ("right_operand", none, .solid), ("unary_operand", none, .solid)]

def pairOutlines : List ((Tag × String) × Outline) :=
  [((.methodDefinition, "is_public"), ⟨true, true, true, false⟩),
    ((.classAttr, "is_public"), ⟨true, true, true, false⟩), ((.classDefinition, "base"), ⟨false, false, true, true⟩),
    ((.classDefinition, "constructor"), .dispensable),
    ((.ifStatement, "otherwise"), .dispensable), ((.elseIfStatement, "otherwise"), .dispensable),
    ((.customException, "base"), .solid), ((.forRangeStatement, "first"), .solid),
    ((.forRangeStatement, "step"), .solid), ((.exceptionHandler, "exception"), .solid)]

def outlines : Outlines where
  pairs tag name := pairOutlines.lookup (tag, name)
  overrides tag name := (overrideOutlines.lookup name).bind fun known =>
    if known.1.all (· == tag) then some known.2 else none

/-- What is known for one tag only. -/
theorem eq_of_known {tag : Tag} {outline : Outline} (only : Tag) (written : Outline)
    (known : (if (some only).all (· == tag) then some written else none) = some outline) :
    tag = only ∧ outline = written := by
  split at known <;> cases known
  rename_i same
  exact ⟨(beq_iff_eq.mp same).symm, rfl⟩

/-- The iterators and sequences of a lock-step loop are tidy if the loop is. -/
theorem tidy_zipParts {node : Node} (tidy : node.AllTidy) (parts : ZipParts) (found : zipParts node = .ok parts) :
    (∀ iterator ∈ parts.iterator :: parts.iterators, iterator.AllTidy) ∧
      ∀ sequence ∈ parts.sequence :: parts.sequences, sequence.AllTidy :=
  everywhere_zipParts tidy parts found

/-- The element of a sequence at a counter is tidy. -/
theorem tidy_index (sequence : Node) (tidy : sequence.AllTidy) (counter : String)
    (solid : Outline.solid.Holds counter.toList) (own type : SemType) :
    (Node.index sequence (.localVar counter own) type).AllTidy :=
  everywhere_index sequence counter own type ⟨nofun, nofun, nofun⟩
    ⟨List.forall_mem_singleton.mpr solid, nofun, nofun⟩ tidy

theorem enclosed (front back : String) {text : String} (solidFront : Outline.ofChars? front.toList = some .solid)
    (solidBack : Outline.ofChars? back.toList = some .solid) (solid : Outline.solid.Holds text.toList) :
    Outline.solid.Holds (front ++ text ++ back).toList := by
  simp only [String.toList_append]
  exact ((Outline.holds_ofChars solidFront).append_solid solid).append_solid (Outline.holds_ofChars solidBack)

theorem parenthesize_solid (wrap : Bool) {text : String} (solid : Outline.solid.Holds text.toList) :
    Outline.solid.Holds (parenthesize wrap text).toList := by
  cases wrap with
  | false => exact solid
  | true => exact enclosed "(" ")" (by decide) (by decide) solid

section Overrides

variable {renderer : Renderer} (follows : renderer.Follows outlines) {node : Node} (tidy : node.AllTidy) (depth : Nat)
include follows tidy

theorem params_gives : Gives .dispensable (params renderer node depth) := by
  refine .bind fun nodes found => .bind fun rendered mapped => gives_ok ?_
  have all := tidy.sequenceAt "params" nodes found
  refine Outline.holds_intercalate_dispensable (.of_notMem (by decide)) rendered (forall_mem_of_mapM mapped ?_)
  refine fun param among => Gives.bind fun type typed => .bind fun name named => gives_ok ?_
  rw [String.toList_append, String.toList_append]
  exact (follows.type _ type typed).around (.of_notMem (by decide)) (follows.render (all param among) depth name named)

theorem anonymousBody_gives : Gives ⟨true, false, false, true⟩ (anonymousBody renderer node depth) := by
  refine .bind fun block found => ?_
  have all := tidy.sequenceAt "block" block found
  split
  · rename_i value single
    obtain ⟨inner, rfl, returned, _⟩ := eq_singleton_of_singleReturn? block value single
    refine .bind fun text rendered => gives_ok ?_
    have solid := follows.render ((all inner List.mem_cons_self).child value returned) depth text rendered
    rw [String.toList_append]
    exact solid.behind (.of_notMem (by decide))
  · split
    · have braces : Outline.solid.Holds "\x7b \x7d".toList := Outline.holds_ofChars (by decide)
      exact gives_ok (braces.behind (.of_notMem (by decide) : NeatBreaks " ".toList))
    · rename_i some
      refine .bind fun body rendered => gives_ok ?_
      have filled : block ≠ [] := fun empty => some (by rw [empty]; rfl)
      have inner := (follows.renderBlock (depth + 1) block all .statements trivial).2 filled body rendered
      have opening : Outline.solid.Holds "\x7b".toList := Outline.holds_ofChars (by decide)
      have closing : Outline.solid.Holds "\x7d".toList := Outline.holds_ofChars (by decide)
      have lineBreak (depth : Nat) := renderer.target.indent.neatBreaks_lineBreak depth
      have inBraces := (opening.around (lineBreak (depth + 1)) inner).around (lineBreak depth) closing
      have whole := inBraces.behind (lineBreak depth)
      have brace : "\x7b\n" = "\x7b" ++ "\n" := rfl
      simpa [brace, Renderer.indent, -String.reduceAppend] using whole

omit follows in
theorem base_gives : Gives ⟨true, false, true, true⟩ (base renderer node depth) := by
  refine .bind fun text found => gives_ok ?_
  have front : Outline.Holds ⟨true, false, true, false⟩ " : ".toList := Outline.holds_ofChars (by decide)
  rw [String.toList_append]
  exact front.append (tidy.textAt "base" text (by decide) found) rfl

theorem definitionsOf_gives (tag : Tag) : Gives .dispensable (definitionsOf tag renderer node depth) := by
  refine .bind fun nodes found => .bind fun rendered mapped => gives_ok ?_
  have all := tidy.sequenceAt "definitions" nodes found
  refine Outline.holds_intercalate_dispensable (renderer.target.indent.neatBreaks_blankLine depth) rendered ?_
  exact forall_mem_of_mapM mapped fun inner among => follows.render (all inner (List.mem_filter.mp among).1) depth

theorem operand_gives (side : Side) : Gives .solid (operand side renderer node depth) :=
  .bind fun value found => .bind fun text rendered => gives_ok <|
    parenthesize_solid _ (follows.render (tidy.childAt side.name value found) depth text rendered)

theorem unaryOperand_gives : Gives .solid (unaryOperand renderer node depth) :=
  .bind fun value found => .bind fun text rendered => gives_ok <|
    parenthesize_solid _ (follows.render (tidy.childAt "value" value found) depth text rendered)

theorem itemVariable_gives : Gives .solid (itemVariable renderer node depth) := by
  refine .bind fun iterators found => .bind fun key isKey => .bind fun text rendered => gives_ok ?_
  have tidyKey := (tidy.childAt "iterators" iterators found).childAt "key" key isKey
  exact enclosed "_" "Item" (by decide) (by decide) (follows.render tidyKey depth text rendered)

theorem zipCounter_gives : Gives .solid (zipCounter renderer node depth) := by
  refine .bind fun parts found => .bind fun text rendered => gives_ok ?_
  have tidyIterator := (tidy_zipParts tidy parts found).1 parts.iterator List.mem_cons_self
  exact enclosed "_" "Index" (by decide) (by decide) (follows.render tidyIterator depth text rendered)

theorem firstSequence_gives : Gives .solid (firstSequence renderer node depth) :=
  .bind fun parts found =>
    follows.render ((tidy_zipParts tidy parts found).2 parts.sequence List.mem_cons_self) depth

theorem zipIterators_gives : Gives .solid (zipIterators renderer node depth) := by
  refine .bind fun parts found => .bind fun counter counted => .bind fun lines mapped => gives_ok ?_
  obtain ⟨iterators, sequences⟩ := tidy_zipParts tidy parts found
  have solidCounter := zipCounter_gives follows tidy depth counter counted
  refine Outline.holds_intercalate (renderer.target.indent.neatBreaks_lineBreak depth) lines
    (forall_mem_of_mapM mapped ?_) ?_
  · rintro ⟨iterator, sequence⟩ among
    obtain ⟨ofIterators, ofSequences⟩ := List.of_mem_zip among
    refine Gives.bind fun name named => .bind fun element rendered => gives_ok ?_
    have solidName := follows.render (iterators iterator ofIterators) depth name named
    have tidyElement := tidy_index sequence (sequences sequence ofSequences) counter solidCounter
    have solidElement := follows.render (tidyElement (.named "Int") iterator.type) depth element rendered
    have opening : Outline.Holds ⟨true, true, true, false⟩ "var ".toList := Outline.holds_ofChars (by decide)
    have declaration : Outline.solid.Holds ("var ".toList ++ name.toList) := opening.append solidName rfl
    have closing : Outline.solid.Holds ";".toList := Outline.holds_ofChars (by decide)
    simp only [String.toList_append]
    exact (declaration.around (.of_notMem (by decide)) solidElement).append_solid closing
  · rintro rfl
    cases (mapM_eq_ok_iff ..).mp mapped

omit follows tidy in
theorem stringLiteral_gives : Gives .solid (stringLiteral renderer node depth) := by
  refine .bind fun text found => gives_ok ?_
  rw [String.toList_ofList]
  exact Outline.holds_of_edges (notMem_quote text.toList) '"' '"' rfl List.getLast?_concat (by decide)

omit follows in
theorem verbatimString_gives (isRegex : node.tag = .regex) : Gives .solid (verbatimString renderer node depth) := by
  obtain ⟨kind, type⟩ := node
  cases kind with
  | regex value =>
    have clean := notMem_quoteVerbatim value.toList (tidy.self.patterns value (List.mem_singleton_self value))
    refine gives_ok ?_
    rw [String.toList_ofList]
    exact Outline.holds_of_edges clean '@' '"' rfl List.getLast?_concat (by decide)
  | _ => cases isRegex

theorem libraryCall_gives (entry : Option LibraryEntry) (name : String) (tag : Tag) (isCall : node.tag = tag)
    (known : ∀ found, entry = some found → outlines.template? (.ofTag tag) found.template = some .solid) :
    Gives .solid (libraryCall renderer entry name node depth) := by
  cases entry with
  | none => exact gives_error _
  | some entry =>
    subst isCall
    exact follows.expand entry.template _ _ node depth tidy (Ground.holds_ofTag node) (known entry rfl)

theorem standardCall_gives (isCall : node.tag = .standardCall) : Gives .solid (standardCall renderer node depth) :=
  .bind fun space _ => .bind fun function _ =>
    libraryCall_gives follows tidy depth _ _ _ isCall (follows.describes.functions space function)

theorem standardMethodCall_gives (isCall : node.tag = .standardMethodCall) :
    Gives .solid (standardMethodCall renderer node depth) :=
  .bind fun _ _ => .bind fun message _ =>
    libraryCall_gives follows tidy depth _ _ _ isCall (follows.describes.methods _ message)

end Overrides

/-- Every override gives what is known of it. -/
theorem overrides_follow (profile : Profile) (declared : List String) :
    ∀ rule ∈ rules.overrides, ∀ tag outline, outlines.overrides tag rule.name = some outline →
      rule.function.Follows outlines profile declared tag outline := by
  simp only [rules, List.forall_mem_cons]
  refine ⟨?_, ?_, ?_, ?_, ?_, ?_, ?_, ?_, ?_, ?_, ?_, ?_, ?_, ?_, ?_, ?_, List.forall_mem_nil _⟩
  all_goals
    intro tag outline known fuel follows node depth isTag tidy
    have same := follows fuel (Nat.le_refl fuel)
  · cases known
    exact params_gives same tidy depth
  · cases known
    exact anonymousBody_gives same tidy depth
  · cases known
    exact base_gives tidy depth
  · cases known
    exact definitionsOf_gives same tidy depth .classDefinition
  · cases known
    exact definitionsOf_gives same tidy depth .functionDefinition
  · cases known
    exact itemVariable_gives same tidy depth
  · cases known
    exact zipCounter_gives same tidy depth
  · cases known
    exact firstSequence_gives same tidy depth
  · cases known
    exact zipIterators_gives same tidy depth
  · cases known
    exact stringLiteral_gives depth
  · obtain ⟨rfl, rfl⟩ := eq_of_known .regex .solid known
    exact verbatimString_gives tidy depth isTag
  · obtain ⟨rfl, rfl⟩ := eq_of_known .standardCall .solid known
    exact standardCall_gives same tidy depth isTag
  · obtain ⟨rfl, rfl⟩ := eq_of_known .standardMethodCall .solid known
    exact standardMethodCall_gives same tidy depth isTag
  · cases known
    exact operand_gives same tidy depth .left
  · cases known
    exact operand_gives same tidy depth .right
  · cases known
    exact unaryOperand_gives same tidy depth

end Retarget.CSharp
