import Retarget.Proofs.Grouping
import Retarget.Proofs.ProfileFits
import Retarget.Proofs.WritingTrees

/-! Operator trees in C#. A tree of operators, names and numbers is rendered as the spelling of the
expression that it stands for, so that its grouping survives: the text is read back as that expression. -/
namespace Retarget

section Layout

theorem layOut_single (indent : Indent) (depth : Nat) (hasDirective : Bool) (text : String)
    (filled : Text.isAllBlank text.toList = false) : layOut indent [.content depth hasDirective text] = text := by
  simp [layOut, RenderedLine.kept, filled, OutputLine.join, OutputLine.unindented]

/-- A template of one line gives the text of its segments. -/
theorem Renderer.step_line (overrides : OverrideTable) (renderer : Renderer) (node : Node) (depth : Nat)
    (segments : List Segment) (parts : List String) (some : segments ≠ [])
    (rendered : segments.mapM (renderer.segment overrides node depth) = .ok parts)
    (filled : Text.isAllBlank (String.join parts).toList = false) :
    renderer.step overrides ⟨[⟨0, segments⟩]⟩ node depth = .ok (String.join parts) := by
  have whole : (⟨0, segments⟩ : Line).isBlank = false := by
    cases segments with
    | nil => exact absurd rfl some
    | cons => rfl
  rw [step, List.mapM_cons, List.mapM_nil, line, whole]
  simp only [Bool.false_eq_true, if_false, Nat.add_zero, rendered]
  exact congrArg Except.ok (layOut_single _ _ _ _ filled)

section Segments

variable (overrides : OverrideTable) (renderer : Renderer) (node : Node) (depth : Nat)

theorem Renderer.segment_placeholder (name : String) (field : Field Node) (stored : node.attr? name = some field) :
    renderer.segment overrides node depth (.directive (.placeholder ⟨name, []⟩)) =
      renderer.place ⟨node.tag, name, field⟩ depth := by
  have resolved : node.resolve ⟨name, []⟩ = .ok ⟨node.tag, name, field⟩ := by
    simp only [Node.resolve, Node.resolveFrom, stored]
  rw [segment, directive, resolved]
  rfl

theorem Renderer.segment_override (name : String) (override : Override)
    (registered : overrides.get? name = some override) :
    renderer.segment overrides node depth (.directive (.override name)) = override renderer node depth := by
  rw [segment, directive, registered]

end Segments
end Layout

namespace CSharp

/-- Trees of operators, names and numbers, each with the expression that it stands for. -/
inductive Represents : Node → Expression → Prop where
  | name (identifier : Identifier) (type : SemType) : Represents ⟨.localVar identifier.text, type⟩ (.name identifier)
  | number (value : Nat) (type : SemType) : Represents ⟨.int value, type⟩ (.number value)
  | prefixed (op : PrefixOperator) (type : SemType) {operand : Node} {inner : Expression} : Represents operand inner →
      Represents ⟨.unaryOp op.symbol operand, type⟩ (.prefixed op inner)
  | binary (op : BinaryOperator) (type : SemType) {left right : Node} {first second : Expression} :
      Represents left first → Represents right second →
      Represents ⟨.binaryOp op.symbol left right, type⟩ (.binary op first second)
  | comparison (op : BinaryOperator) (type : SemType) {left right : Node} {first second : Expression} :
      Represents left first → Represents right second →
      Represents ⟨.comparison op.symbol left right, type⟩ (.binary op first second)

section Operands

variable {node value : Node} {operand : Expression} (represented : Represents value operand)
include represented

theorem wrapsOperand_eq (op : BinaryOperator) (outer : binaryOperator? node = some op.symbol) (side : Side) :
    wrapsOperand node value side =
      (decide (operand.level < op.level) || (operand.level == op.level && side == .right)) := by
  have low := op.level_le
  rw [wrapsOperand, outer]
  cases represented with
  | binary inner | comparison inner =>
    rw [← op.precedence_symbol, Expression.level, ← inner.precedence_symbol]
    rfl
  | _ =>
    have looser : ¬11 < op.level := by omega
    have other : (11 == op.level) = false := beq_eq_false_iff_ne.mpr (by omega)
    rw [Expression.level, decide_eq_false looser, other]
    · rfl
    · exact nofun

theorem wrapsOperand_left (op : BinaryOperator) (outer : binaryOperator? node = some op.symbol) :
    wrapsOperand node value .left = decide (operand.level < op.level) := by
  rw [wrapsOperand_eq represented op outer]
  simp

theorem wrapsOperand_right (op : BinaryOperator) (outer : binaryOperator? node = some op.symbol) :
    wrapsOperand node value .right = decide (operand.level ≤ op.level) := by
  rw [wrapsOperand_eq represented op outer, Bool.eq_iff_iff]
  simp only [beq_self_eq_true, Bool.and_true, Bool.or_eq_true, decide_eq_true_eq, beq_iff_eq]
  omega

theorem wrapsPrefixed_eq (op : PrefixOperator) (type : SemType) :
    wrapsPrefixed ⟨.unaryOp op.symbol value, type⟩ value = operand.wrapsUnder op := by
  cases represented <;> rfl

end Operands

theorem isAllBlank_eq_false (text : List Char) (c : Char) (member : c ∈ text) (filled : Text.isBlank c = false) :
    Text.isAllBlank text = false :=
  List.all_eq_false.mpr ⟨c, member, by rw [filled]; exact Bool.false_ne_true⟩

theorem isAllBlank_append (first second : String) :
    Text.isAllBlank (first ++ second).toList = (Text.isAllBlank first.toList && Text.isAllBlank second.toList) := by
  rw [String.toList_append]
  exact List.all_append

/-- Some character of a spelling is no blank, so that the line it stands on is kept. -/
theorem Expression.isAllBlank_spelling (expression : Expression) :
    Text.isAllBlank expression.spelling.toList = false := by
  cases expression with
  | name identifier =>
    obtain ⟨first, rest, characters, starts⟩ := identifier.exists_first
    rw [spelling, characters]
    exact isAllBlank_eq_false _ first List.mem_cons_self (isBlank_of_startsName first starts)
  | number value =>
    rw [spelling, toList_toString_nat]
    cases written : Nat.toDigits 10 value with
    | nil => exact absurd written Nat.toDigits_ne_nil
    | cons digit digits =>
      have member : digit ∈ Nat.toDigits 10 value := by rw [written]; exact List.mem_cons_self
      exact isAllBlank_eq_false _ digit List.mem_cons_self
        (isBlank_of_isDigit _ (Nat.isDigit_of_mem_toDigits (by decide) (by decide) member))
  | prefixed op operand =>
    have symbol : op.symbol.toList.any (!Text.isBlank ·) = true := by cases op <;> decide
    obtain ⟨c, spelled, filled⟩ := List.any_eq_true.mp symbol
    exact isAllBlank_eq_false _ c (by simp [spelling, spelled]) (by simpa using filled)
  | binary op left right =>
    have symbol : op.symbol.toList.any (!Text.isBlank ·) = true := by cases op <;> decide
    obtain ⟨c, spelled, filled⟩ := List.any_eq_true.mp symbol
    exact isAllBlank_eq_false _ c (by simp [spelling, spelled]) (by simpa using filled)

/-- The template of binary operations and comparisons, as it is parsed. -/
def binaryTemplate : Template :=
  ⟨[⟨0, [.directive (.override "left_operand"), .text " ", .directive (.placeholder ⟨"op", []⟩), .text " ",
    .directive (.override "right_operand")]⟩]⟩

def prefixTemplate : Template :=
  ⟨[⟨0, [.directive (.placeholder ⟨"op", []⟩), .directive (.override "unary_operand")]⟩]⟩

/-- The template of what is written as one of its attributes. -/
def attributeTemplate (name : String) : Template := ⟨[⟨0, [.directive (.placeholder ⟨name, []⟩)]⟩]⟩

section Built

variable {settings : LanguageSettings} {built : Profile} (basics : Basics settings built)

section Entries

include basics

theorem entry_binaryOp : built.entries.get? .binaryOp = some (.template binaryTemplate) :=
  basics.templates .binaryOp "%<#left_operand> %<op> %<#right_operand>" _ rfl
    ((Template.parse_ofList _ _).trans (by decide))

theorem entry_comparison : built.entries.get? .comparison = some (.template binaryTemplate) :=
  basics.templates .comparison "%<#left_operand> %<op> %<#right_operand>" _ rfl
    ((Template.parse_ofList _ _).trans (by decide))

theorem entry_unaryOp : built.entries.get? .unaryOp = some (.template prefixTemplate) :=
  basics.templates .unaryOp "%<op>%<#unary_operand>" _ rfl ((Template.parse_ofList _ _).trans (by decide))

theorem entry_localVar : built.entries.get? .localVar = some (.template (attributeTemplate "name")) :=
  basics.templates .localVar "%<name>" _ rfl ((Template.parse_ofList _ _).trans (by decide))

theorem entry_int : built.entries.get? .int = some (.template (attributeTemplate "value")) :=
  basics.templates .int "%<value>" _ rfl ((Template.parse_ofList _ _).trans (by decide))

end Entries

variable (declared : List String) (fuel depth : Nat)

/-- The text of a node with a template of one line. -/
theorem render_line (node : Node) (segments : List Segment) (parts : List String) (some : segments ≠ [])
    (entry : built.entries.get? node.tag = .some (.template ⟨[⟨0, segments⟩]⟩))
    (rendered : segments.mapM ((Rules.rendererAt built declared fuel).segment built.overrides node depth) = .ok parts)
    (filled : Text.isAllBlank (String.join parts).toList = false) :
    (Rules.rendererAt built declared (fuel + 1)).render node depth = .ok (String.join parts) := by
  have found : (Rules.rendererAt built declared (fuel + 1)).target.entry? node.tag = _ := entry
  rw [Renderer.render, found]
  exact Renderer.step_line built.overrides _ node depth segments parts some rendered filled

theorem render_attribute (node : Node) (name : String) (field : Field Node) (text : String)
    (entry : built.entries.get? node.tag = some (.template (attributeTemplate name)))
    (stored : node.attr? name = some field)
    (placed : (Rules.rendererAt built declared fuel).place ⟨node.tag, name, field⟩ depth = .ok text)
    (filled : Text.isAllBlank text.toList = false) :
    (Rules.rendererAt built declared (fuel + 1)).render node depth = .ok text := by
  have joined : String.join [text] = text := by simp [String.join]
  rw [← joined] at filled ⊢
  refine render_line declared fuel depth node _ [text] (List.cons_ne_nil _ _) entry ?_ filled
  rw [mapM_eq_ok_iff]
  exact .cons ((Renderer.segment_placeholder _ _ node depth name field stored).trans placed) .nil

/-- An allowance for a node is one for its children after a step. -/
theorem exists_rest (node : Node) (enough : node.size ≤ fuel) :
    ∃ rest, fuel = rest + 1 ∧ ∀ child ∈ node.children, child.size ≤ rest := by
  have positive := node.size_pos
  refine ⟨fuel - 1, by omega, fun child member => ?_⟩
  have smaller := Node.size_lt_of_mem_children node child member
  omega

variable {value : Node} {text : String}

theorem operand_eq (side : Side) (renderer : Renderer) (node : Node)
    (stored : node.attr? side.name = some (.node value)) (rendered : renderer.render value depth = .ok text) :
    operand side renderer node depth = .ok (parenthesize (wrapsOperand node value side) text) := by
  have child : node.childAt side.name = .ok value := by rw [Node.childAt, stored]
  rw [operand, child]
  exact congrArg (· >>= fun text => pure (parenthesize (wrapsOperand node value side) text)) rendered

theorem unaryOperand_eq (renderer : Renderer) (node : Node) (stored : node.attr? "value" = some (.node value))
    (rendered : renderer.render value depth = .ok text) :
    unaryOperand renderer node depth = .ok (parenthesize (wrapsPrefixed node value) text) := by
  have child : node.childAt "value" = .ok value := by rw [Node.childAt, stored]
  rw [unaryOperand, child]
  exact congrArg (· >>= fun text => pure (parenthesize (wrapsPrefixed node value) text)) rendered

/-- An operand is written as it is, or with parentheses around it. -/
theorem exists_of_enclosed {renderer : Renderer} {node : Node} {name whole : String} (wraps : Node → Bool)
    (stored : node.attr? name = some (.node value))
    (written : (do
      let value ← node.childAt name
      let rendered ← renderer.render value depth
      return parenthesize (wraps value) rendered) = Except.ok whole) :
    ∃ inner, renderer.render value depth = .ok inner ∧ whole = parenthesize (wraps value) inner := by
  have child : node.childAt name = .ok value := by rw [Node.childAt, stored]
  obtain ⟨found, same, rest⟩ := (bind_eq_ok_iff ..).mp written
  cases child.symm.trans same
  obtain ⟨inner, rendered, same⟩ := (bind_eq_ok_iff ..).mp rest
  cases same
  exact ⟨inner, rendered, rfl⟩

include basics

/-- The text of a node that joins two operands by an operator. -/
theorem render_binary (node left right : Node) (op : BinaryOperator) (first second : Expression)
    (entry : built.entries.get? node.tag = some (.template binaryTemplate))
    (outer : binaryOperator? node = some op.symbol) (opAt : node.attr? "op" = some (.text op.symbol))
    (leftAt : node.attr? "left" = some (.node left)) (rightAt : node.attr? "right" = some (.node right))
    (leftRepresented : Represents left first) (rightRepresented : Represents right second)
    (leftRendered : (Rules.rendererAt built declared fuel).render left depth = .ok first.spelling)
    (rightRendered : (Rules.rendererAt built declared fuel).render right depth = .ok second.spelling) :
    (Rules.rendererAt built declared (fuel + 1)).render node depth =
      .ok (Expression.binary op first second).spelling := by
  have onLeft := operand_eq depth .left _ node leftAt leftRendered
  have onRight := operand_eq depth .right _ node rightAt rightRendered
  rw [wrapsOperand_left leftRepresented op outer] at onLeft
  rw [wrapsOperand_right rightRepresented op outer] at onRight
  have leftFunction := basics.override "left_operand" _ rfl
  have rightFunction := basics.override "right_operand" _ rfl
  have joined : (Expression.binary op first second).spelling =
      String.join [parenthesize (first.level < op.level) first.spelling, " ", op.symbol, " ",
        parenthesize (second.level ≤ op.level) second.spelling] := by
    simp [String.join, Expression.spelling]
  have filled := (Expression.binary op first second).isAllBlank_spelling
  rw [joined] at filled ⊢
  refine render_line declared fuel depth node _ _ (List.cons_ne_nil _ _) entry ?_ filled
  rw [mapM_eq_ok_iff]
  refine .cons ?_ (.cons rfl (.cons ?_ (.cons rfl (.cons ?_ .nil))))
  · exact (Renderer.segment_override _ _ node depth _ _ leftFunction).trans onLeft
  · exact Renderer.segment_placeholder _ _ node depth "op" _ opAt
  · exact (Renderer.segment_override _ _ node depth _ _ rightFunction).trans onRight

/-- The text of an operand behind a prefix operator. -/
theorem render_unaryOp (value : Node) (op text : String) (type : SemType) (visible : Text.isAllBlank op.toList = false)
    (rendered : (Rules.rendererAt built declared fuel).render value depth = .ok text) :
    (Rules.rendererAt built declared (fuel + 1)).render ⟨.unaryOp op value, type⟩ depth =
      .ok (op ++ parenthesize (wrapsPrefixed ⟨.unaryOp op value, type⟩ value) text) := by
  have onOperand := unaryOperand_eq depth _ ⟨.unaryOp op value, type⟩ rfl rendered
  have function := basics.override "unary_operand" _ rfl
  have joined : op ++ parenthesize (wrapsPrefixed ⟨.unaryOp op value, type⟩ value) text =
      String.join [op, parenthesize (wrapsPrefixed ⟨.unaryOp op value, type⟩ value) text] := by
    simp [String.join]
  have filled : Text.isAllBlank
      (op ++ parenthesize (wrapsPrefixed ⟨.unaryOp op value, type⟩ value) text).toList = false := by
    rw [isAllBlank_append, visible, Bool.false_and]
  rw [joined] at filled ⊢
  refine render_line declared fuel depth _ _ _ (List.cons_ne_nil _ _) (entry_unaryOp basics) ?_ filled
  rw [mapM_eq_ok_iff]
  refine .cons ?_ (.cons ?_ .nil)
  · exact Renderer.segment_placeholder _ _ _ depth "op" (.text op) rfl
  · exact (Renderer.segment_override _ _ _ depth _ _ function).trans onOperand

theorem render_prefixed (value : Node) (op : PrefixOperator) (type : SemType) (inner : Expression)
    (represented : Represents value inner)
    (rendered : (Rules.rendererAt built declared fuel).render value depth = .ok inner.spelling) :
    (Rules.rendererAt built declared (fuel + 1)).render ⟨.unaryOp op.symbol value, type⟩ depth =
      .ok (Expression.prefixed op inner).spelling := by
  have visible : Text.isAllBlank op.symbol.toList = false := by cases op <;> decide
  have text := render_unaryOp basics declared fuel depth value op.symbol inner.spelling type visible rendered
  rw [wrapsPrefixed_eq represented op type] at text
  exact text

/-- The rendering of an operator tree is the spelling of its expression. -/
theorem render_represented {node : Node} {expression : Expression} (represented : Represents node expression)
    (enough : node.size ≤ fuel) :
    (Rules.rendererAt built declared fuel).render node depth = .ok expression.spelling := by
  induction represented generalizing fuel depth with
  | name identifier type =>
    obtain ⟨rest, rfl, _⟩ := exists_rest fuel _ enough
    exact render_attribute declared rest depth _ "name" (.text identifier.text) _ (entry_localVar basics) rfl rfl
      (Expression.name identifier).isAllBlank_spelling
  | number value type =>
    obtain ⟨rest, rfl, _⟩ := exists_rest fuel _ enough
    exact render_attribute declared rest depth _ "value" (.int value) _ (entry_int basics) rfl rfl
      (Expression.number value).isAllBlank_spelling
  | @prefixed op type operand inner represented ih =>
    obtain ⟨rest, rfl, below⟩ := exists_rest fuel _ enough
    have rendered := ih rest depth (below operand (by simp [Node.children, Kind.children]))
    exact render_prefixed basics declared rest depth operand op type inner represented rendered
  | @binary op type left right first second onLeft onRight ihLeft ihRight =>
    obtain ⟨rest, rfl, below⟩ := exists_rest fuel _ enough
    have leftRendered := ihLeft rest depth (below left (by simp [Node.children, Kind.children]))
    have rightRendered := ihRight rest depth (below right (by simp [Node.children, Kind.children]))
    exact render_binary basics declared rest depth _ left right op first second (entry_binaryOp basics)
      rfl rfl rfl rfl onLeft onRight leftRendered rightRendered
  | @comparison op type left right first second onLeft onRight ihLeft ihRight =>
    obtain ⟨rest, rfl, below⟩ := exists_rest fuel _ enough
    have leftRendered := ihLeft rest depth (below left (by simp [Node.children, Kind.children]))
    have rightRendered := ihRight rest depth (below right (by simp [Node.children, Kind.children]))
    exact render_binary basics declared rest depth _ left right op first second (entry_comparison basics)
      rfl rfl rfl rfl onLeft onRight leftRendered rightRendered

end Built

/-- Under any settings, the text of an operator tree stands for the expression of that tree and for no
other: its operators, its operands and how they are grouped. -/
theorem grouping_survives (settings : LanguageSettings) :
    ∃ built, profile settings = .ok built ∧ ∀ node expression, Represents node expression →
      ∀ declared depth, ∃ text, built.render declared node depth = .ok text ∧
        ∀ read, Reads text read ↔ read = expression := by
  obtain ⟨built, same, basics, _⟩ := exists_profile settings
  refine ⟨built, same, fun node expression represented declared depth => ⟨expression.spelling, ?_, ?_⟩⟩
  · have enough : node.size ≤ built.nesting node.size :=
      Nat.le_trans (Nat.le_succ _) (Nat.le_mul_of_pos_right _ (Nat.succ_pos _))
    exact render_represented basics declared _ depth represented enough
  · exact expression.reads_spelling_iff

theorem difference_keeps_its_group :
    ∃ built text, profile {} = .ok built ∧
      built.render [] (.binaryOp "-" (.int 1) (.binaryOp "-" (.int 2) (.int 3) (.named "Int")) (.named "Int")) 0 =
        .ok text ∧
      Reads text (.binary .minus (.number 1) (.binary .minus (.number 2) (.number 3))) ∧
      ¬Reads text (.binary .minus (.binary .minus (.number 1) (.number 2)) (.number 3)) := by
  obtain ⟨built, same, survives⟩ := grouping_survives {}
  have represented : Represents (.binaryOp "-" (.int 1) (.binaryOp "-" (.int 2) (.int 3) (.named "Int")) (.named "Int"))
      (.binary .minus (.number 1) (.binary .minus (.number 2) (.number 3))) :=
    .binary .minus _ (.number 1 _) (.binary .minus _ (.number 2 _) (.number 3 _))
  obtain ⟨text, rendered, reads⟩ := survives _ _ represented [] 0
  refine ⟨built, text, same, rendered, (reads _).mpr rfl, ?_⟩
  rw [reads]
  decide

end CSharp
end Retarget
