import Retarget.CSharp.Profile
import Retarget.Proofs.WritingTrees

/-! When templates of the C# target may call its overrides. -/
namespace Retarget.CSharp

/-- The overrides with what they need, and the optional attributes that have a pair. -/
def rules : Rules where
  optionals :=
    [(.customException, "base"), (.methodDefinition, "is_public"), (.classDefinition, "base"),
      (.classDefinition, "constructor"), (.classAttr, "is_public"), (.ifStatement, "otherwise"),
      (.elseIfStatement, "otherwise"), (.forRangeStatement, "first"), (.forRangeStatement, "step"),
      (.exceptionHandler, "exception")]
  overrides :=
    [⟨"params", params, fun situation _ => situation.holdsNodes "params"⟩,
      ⟨"anon_block", anonymousBody, fun situation _ => situation.holdsNodes "block"⟩,
      ⟨"base", base, fun situation _ => situation.holdsText "base"⟩,
      ⟨"class_definitions", classDefinitions, fun situation _ => situation.holdsNodes "definitions"⟩,
      ⟨"function_definitions", functionDefinitions, fun situation _ => situation.holdsNodes "definitions"⟩,
      ⟨"item_variable", itemVariable, fun situation _ =>
        situation.loop == some (.forIteratorWithItems, .forSequenceWithItems)⟩,
      ⟨"zip_index", zipCounter, fun situation _ => situation.loop == some (.forIteratorZip, .forSequenceZip)⟩,
      ⟨"first_sequence", firstSequence, fun situation _ =>
        situation.loop == some (.forIteratorZip, .forSequenceZip)⟩,
      ⟨"zip_iterators", zipIterators, fun situation _ =>
        situation.loop == some (.forIteratorZip, .forSequenceZip)⟩,
      ⟨"string_literal", stringLiteral, fun situation _ => situation.holdsText "value"⟩,
      ⟨"verbatim_string", verbatimString, fun situation _ => situation.holdsText "value"⟩,
      ⟨"standard_call", standardCall, fun situation nested => !nested && situation.tag == .standardCall⟩,
      ⟨"standard_method_call", standardMethodCall, fun situation nested =>
        !nested && situation.tag == .standardMethodCall⟩,
      ⟨"left_operand", leftOperand, fun situation _ => situation.holdsChild "left"⟩,
      ⟨"right_operand", rightOperand, fun situation _ => situation.holdsChild "right"⟩,
      ⟨"unary_operand", unaryOperand, fun situation _ => situation.holdsChild "value"⟩]

variable {allowed : GenerateError → Prop} {renderer : Renderer} {node : Node} {nested : Bool} {situation : Situation}

theorem eq_singleton_of_singleReturn? (nodes : List Node) (value : Node) (single : singleReturn? nodes = some value) :
    ∃ inner, nodes = [inner] ∧ value ∈ inner.children ∧ inner.tag ≠ .forStatement := by
  match nodes, single with
  | [inner], single =>
    refine ⟨inner, rfl, ?_⟩
    obtain ⟨kind, type⟩ := inner
    cases kind with
    | implicitReturn returned => cases single; exact ⟨List.mem_cons_self, nofun⟩
    | explicitReturn returned => cases single; exact ⟨List.mem_cons_self, nofun⟩
    | _ => cases single

section Overrides

variable (ready : renderer.Ready allowed node nested) (holds : situation.Holds node) (depth : Nat)
include ready holds

theorem params_safe (fits : situation.holdsNodes "params" = true) : Safe allowed (params renderer node depth) := by
  obtain ⟨nodes, found, safe⟩ := ready.sequenceAt holds "params" fits
  rw [params, found]
  refine safe_ok_bind nodes _ ?_
  refine Safe.bind (safe_mapM _ nodes fun inner member => ?_) fun rendered => safe_pure _
  refine (ready.childType inner (safe inner member).1).bind fun type => ?_
  exact ((safe inner member).2 depth).bind fun name => safe_pure _

theorem anonymousBody_safe (fits : situation.holdsNodes "block" = true) :
    Safe allowed (anonymousBody renderer node depth) := by
  obtain ⟨nodes, found, safe⟩ := ready.sequenceAt holds "block" fits
  rw [anonymousBody, found]
  refine safe_ok_bind nodes _ ?_
  split
  · rename_i value single
    obtain ⟨inner, rfl, returned⟩ := eq_singleton_of_singleReturn? nodes value single
    have inside := ready.inner inner (.inr (safe inner List.mem_cons_self).1)
    have plain := inside.writable.self.parts.child returned.2 value returned.1
    exact (inside.child value returned.1 plain depth).bind fun text => safe_pure _
  · split
    · exact safe_pure _
    · refine Safe.bind (Renderer.renderBlock_safe nodes (depth + 1) .statements fun inner member => ?_)
        fun body => safe_pure _
      exact (safe inner member).2 (depth + 1)

theorem definitionsOf_safe (tag : Tag) (fits : situation.holdsNodes "definitions" = true) :
    Safe allowed (definitionsOf tag renderer node depth) := by
  obtain ⟨nodes, found, safe⟩ := ready.sequenceAt holds "definitions" fits
  rw [definitionsOf, found]
  refine safe_ok_bind nodes _ ?_
  refine Safe.bind (safe_mapM _ _ fun inner member => ?_) fun rendered => safe_pure _
  exact (safe inner (List.mem_filter.mp member).1).2 depth

theorem operand_safe (side : Side) (fits : situation.holdsChild side.name = true) :
    Safe allowed (operand side renderer node depth) := by
  obtain ⟨value, found, _, safe⟩ := ready.childAt holds side.name fits
  rw [operand, found]
  exact (safe depth).bind fun rendered => safe_pure _

theorem unaryOperand_safe (fits : situation.holdsChild "value" = true) :
    Safe allowed (unaryOperand renderer node depth) := by
  obtain ⟨value, found, _, safe⟩ := ready.childAt holds "value" fits
  rw [unaryOperand, found]
  exact (safe depth).bind fun rendered => safe_pure _

omit ready in
theorem exists_textAt (name : String) (fits : situation.holdsText name = true) :
    ∃ text, node.textAt name = .ok text := by
  simp only [Situation.holdsText, Bool.or_eq_true, Bool.and_eq_true, beq_iff_eq] at fits
  rcases fits with known | ⟨known, given⟩
  · obtain ⟨field, found, fitting⟩ := node.attr?_of_shapeOf? name _ (by rw [holds.1, known])
    cases field with
    | text text => exact ⟨text, by rw [Node.textAt, found]⟩
    | _ => cases fitting
  · obtain ⟨field, found, fitting⟩ := node.attr?_of_shapeOf? name _ (by rw [holds.1, known])
    have isSet := holds.2.1 name (by simpa using given) field found
    cases field with
    | text text => exact ⟨text, by rw [Node.textAt, found]⟩
    | absent => cases isSet
    | _ => cases fitting

omit ready in
theorem base_safe (renderer : Renderer) (fits : situation.holdsText "base" = true) :
    Safe allowed (base renderer node depth) := by
  obtain ⟨text, found⟩ := exists_textAt holds "base" fits
  rw [base, found]
  exact safe_pure _

omit ready in
theorem stringLiteral_safe (renderer : Renderer) (fits : situation.holdsText "value" = true) :
    Safe allowed (stringLiteral renderer node depth) := by
  obtain ⟨text, found⟩ := exists_textAt holds "value" fits
  rw [stringLiteral, found]
  exact safe_pure _

omit ready in
theorem verbatimString_safe (renderer : Renderer) (fits : situation.holdsText "value" = true) :
    Safe allowed (verbatimString renderer node depth) := by
  obtain ⟨text, found⟩ := exists_textAt holds "value" fits
  rw [verbatimString, found]
  exact safe_pure _

omit holds in
theorem libraryCall_safe (entry : Option LibraryEntry) (name : String) (outer : nested = false)
    (call : [Tag.standardCall, .standardMethodCall].contains node.tag = true)
    (operation : Imports.operation? renderer.target.library node = entry) :
    Safe allowed (libraryCall renderer entry name node depth) := by
  cases entry with
  | none => exact ready.writable.self.calls call operation name
  | some entry => exact ready.calls outer entry operation depth

theorem standardCall_safe (fits : (!nested && situation.tag == .standardCall) = true) :
    Safe allowed (standardCall renderer node depth) := by
  simp only [Bool.and_eq_true, Bool.not_eq_true', beq_iff_eq, ← holds.1] at fits
  obtain ⟨kind, type⟩ := node
  cases kind with
  | standardCall space function args => exact libraryCall_safe ready depth _ _ fits.1 rfl rfl
  | _ => cases fits.2

theorem standardMethodCall_safe (fits : (!nested && situation.tag == .standardMethodCall) = true) :
    Safe allowed (standardMethodCall renderer node depth) := by
  simp only [Bool.and_eq_true, Bool.not_eq_true', beq_iff_eq, ← holds.1] at fits
  obtain ⟨kind, type⟩ := node
  cases kind with
  | standardMethodCall receiver message args => exact libraryCall_safe ready depth _ _ fits.1 rfl rfl
  | _ => cases fits.2

theorem itemVariable_safe (fits : (situation.loop == some (.forIteratorWithItems, .forSequenceWithItems)) = true) :
    Safe allowed (itemVariable renderer node depth) := by
  obtain ⟨⟨iteratorKind, iteratorType⟩, sequences, body, kind, ofIterators, _⟩ := holds.2.2 _ (beq_iff_eq.mp fits)
  have child : Node.mk iteratorKind iteratorType ∈ node.children := by simp [Node.children, kind, Kind.children]
  have inside := ready.inner _ (.inr child)
  cases iteratorKind with
  | forIteratorWithItems key value =>
    have member : key ∈ (Node.mk (.forIteratorWithItems key value) iteratorType).children := List.mem_cons_self
    have found : node.childAt "iterators" = .ok ⟨.forIteratorWithItems key value, iteratorType⟩ := by
      simp only [Node.childAt, Node.attr?, kind]
      rfl
    rw [itemVariable, found]
    exact (inside.child key member (inside.writable.self.parts.child (by rintro ⟨⟩) key member) depth).bind fun _ =>
      safe_pure _
  | _ => cases ofIterators

end Overrides

/-- What holds everywhere in a sequence holds everywhere in its element at a counter. -/
theorem everywhere_index {P : Node → Prop} (sequence : Node) (counter : String) (own type : SemType)
    (here : P (.index sequence (.localVar counter own) type)) (leaf : P (.localVar counter own))
    (all : sequence.Everywhere P) : (Node.index sequence (.localVar counter own) type).Everywhere P := by
  refine (Node.forall_mem_walk _).mpr ⟨here, fun child member => ?_⟩
  rcases List.mem_cons.mp member with rfl | last
  · exact all
  · cases List.mem_singleton.mp last
    exact (Node.forall_mem_walk _).mpr ⟨leaf, List.forall_mem_nil _⟩

/-- The element of a sequence at a counter can be written. -/
theorem index_writable (sequence : Node) (counter : String) (type : SemType)
    (writable : sequence.AllWritable allowed renderer.target renderer.declared)
    (plain : sequence.tag.isDescriptor = false)
    (typed : Safe allowed (renderer.renderType type)) (int : Safe allowed (renderer.renderType (.named "Int"))) :
    (Node.index sequence (.localVar counter (.named "Int")) type).AllWritable allowed renderer.target
      renderer.declared := by
  have leaf : (Node.localVar counter (.named "Int")).Writable allowed renderer.target renderer.declared :=
    ⟨nofun, fun type member => by cases List.mem_singleton.mp member; exact int, nofun⟩
  have own : (Node.index sequence (.localVar counter (.named "Int")) type).Writable allowed renderer.target
      renderer.declared := by
    refine ⟨fun child member => ?_, fun type member => by cases List.mem_singleton.mp member; exact typed, nofun⟩
    rcases List.mem_cons.mp member with rfl | last
    · exact plain
    · cases List.mem_singleton.mp last
      rfl
  exact everywhere_index sequence counter (.named "Int") type own leaf writable

section LockStep

variable (holds : situation.Holds node) (parts : node.PartsMatch)
  (fits : (situation.loop == some (.forIteratorZip, .forSequenceZip)) = true)
include holds parts fits

theorem exists_zipParts : ∃ found iterators sequences, zipParts node = .ok found ∧ iterators ∈ node.children ∧
    sequences ∈ node.children ∧ iterators.size + sequences.size < node.size ∧
    iterators.tag ≠ .forStatement ∧ sequences.tag ≠ .forStatement ∧
    iterators.children = found.iterator :: found.iterators ∧
      sequences.children = found.sequence :: found.sequences := by
  obtain ⟨tag, _, loop⟩ := holds
  obtain ⟨⟨iteratorKind, iteratorType⟩, ⟨sequenceKind, sequenceType⟩, body, kind, ofIterators, ofSequences⟩ :=
    loop _ (beq_iff_eq.mp fits)
  obtain ⟨nodeKind, nodeType⟩ := node
  cases kind
  cases iteratorKind with
  | forIteratorZip iterators =>
    cases sequenceKind with
    | forSequenceZip sequences =>
      obtain ⟨length, some⟩ := parts.1.2 rfl
      simp only [Node.children, Kind.children] at length some
      cases iterators with
      | nil => cases some
      | cons iterator iterators =>
        cases sequences with
        | nil => cases length
        | cons sequence sequences =>
          refine ⟨⟨iterator, iterators, sequence, sequences⟩, _, _, ?_, List.mem_cons_self,
            List.mem_cons_of_mem _ List.mem_cons_self, ?_, by rintro ⟨⟩, by rintro ⟨⟩, rfl, rfl⟩
          · have same : iterators.length = sequences.length := by simpa using length
            have found : zipParts ⟨.forStatement ⟨.forIteratorZip (iterator :: iterators), iteratorType⟩
                ⟨.forSequenceZip (sequence :: sequences), sequenceType⟩ body, nodeType⟩ =
                  if iterators.length = sequences.length then .ok ⟨iterator, iterators, sequence, sequences⟩
                  else .error (Node.misshapen _ "sequences" .oneSequencePerIterator) := rfl
            rw [found, if_pos same]
          · have positive := Node.foldr_size_pos body
            rw [Node.size_eq ⟨.forStatement _ _ body, nodeType⟩]
            simp only [Node.children, Kind.children, List.foldr_cons]
            omega
    | _ => cases ofSequences
  | _ => cases ofIterators

variable (ready : renderer.Ready allowed node nested) (depth : Nat)
include ready

theorem zipCounter_safe : Safe allowed (zipCounter renderer node depth) := by
  obtain ⟨found, iterators, _, split, member, _, _, loop, _, children, _⟩ := exists_zipParts holds parts fits
  have inside := ready.inner iterators (.inr member)
  have child : found.iterator ∈ iterators.children := by simp [children]
  rw [zipCounter, split]
  refine safe_ok_bind found _ ?_
  exact (inside.child _ child (inside.writable.self.parts.child loop _ child) depth).bind fun _ => safe_pure _

theorem firstSequence_safe : Safe allowed (firstSequence renderer node depth) := by
  obtain ⟨found, _, sequences, split, _, member, _, _, loop, _, children⟩ := exists_zipParts holds parts fits
  have inside := ready.inner sequences (.inr member)
  have child : found.sequence ∈ sequences.children := by simp [children]
  rw [firstSequence, split]
  exact inside.child _ child (inside.writable.self.parts.child loop _ child) depth

theorem zipIterators_safe (int : ∃ spelling, renderer.target.types.get? "Int" = some spelling) :
    Safe allowed (zipIterators renderer node depth) := by
  have counted := zipCounter_safe holds parts fits ready depth
  obtain ⟨found, iterators, sequences, split, ofIterators, ofSequences, sizes, loop, otherLoop, iteratorsIn,
    sequencesIn⟩ := exists_zipParts holds parts fits
  have inIterators := ready.inner iterators (.inr ofIterators)
  have inSequences := ready.inner sequences (.inr ofSequences)
  have intSafe : Safe allowed (renderer.renderType (.named "Int")) := by
    obtain ⟨spelling, known⟩ := int
    rw [Renderer.renderType, SemType.render, known]
    exact safe_ok _
  rw [zipIterators, split]
  refine safe_ok_bind found _ (counted.bind fun counter => ?_)
  refine Safe.bind (safe_mapM _ _ fun pair member => ?_) fun lines => safe_pure _
  obtain ⟨iterator, sequence⟩ := pair
  rw [← iteratorsIn, ← sequencesIn] at member
  obtain ⟨iteratorIn, sequenceIn⟩ := List.of_mem_zip member
  refine Safe.bind (inIterators.child iterator iteratorIn
    (inIterators.writable.self.parts.child loop iterator iteratorIn) depth) fun name => ?_
  refine Safe.bind (ready.below _ ?_ (index_writable sequence counter iterator.type
    (inSequences.writable.child sequence sequenceIn)
    (inSequences.writable.self.parts.plainChild otherLoop sequence sequenceIn)
    (inIterators.childType iterator iteratorIn) intSafe) rfl depth) fun element => safe_pure _
  have sequenceSmaller := sequences.size_lt_of_mem_children sequence sequenceIn
  have iteratorSmaller := iterators.size_lt_of_mem_children iterator iteratorIn
  have iteratorSize := iterator.size_pos
  have indexSize : (Node.index sequence (.localVar counter (.named "Int")) iterator.type).size =
      sequence.size + 2 := by
    rw [Node.size_eq]
    simp only [Node.index, Node.children, Kind.children, List.foldr_cons, List.foldr_nil]
    rw [Node.size_eq (.localVar counter (.named "Int"))]
    rfl
  omega

end LockStep

/-- Every override writes what its rule lets it be called for, if integers have a spelling. -/
theorem overrides_sound (target : Target) (int : ∃ spelling, target.types.get? "Int" = some spelling) :
    ∀ rule ∈ rules.overrides, rule.Sound target := by
  simp only [rules, List.forall_mem_cons]
  refine ⟨?_, ?_, ?_, ?_, ?_, ?_, ?_, ?_, ?_, ?_, ?_, ?_, ?_, ?_, ?_, ?_, List.forall_mem_nil _⟩
  all_goals intro allowed renderer node situation nested depth same ready holds fits
  · exact params_safe ready holds depth fits
  · exact anonymousBody_safe ready holds depth fits
  · exact base_safe holds depth renderer fits
  · exact definitionsOf_safe ready holds depth .classDefinition fits
  · exact definitionsOf_safe ready holds depth .functionDefinition fits
  · exact itemVariable_safe ready holds depth fits
  · exact zipCounter_safe holds ready.writable.self.parts fits ready depth
  · exact firstSequence_safe holds ready.writable.self.parts fits ready depth
  · exact zipIterators_safe holds ready.writable.self.parts fits ready depth (by rwa [same])
  · exact stringLiteral_safe holds depth renderer fits
  · exact verbatimString_safe holds depth renderer fits
  · exact standardCall_safe ready holds depth fits
  · exact standardMethodCall_safe ready holds depth fits
  · exact operand_safe ready holds depth .left fits
  · exact operand_safe ready holds depth .right fits
  · exact unaryOperand_safe ready holds depth fits

end Retarget.CSharp
