import Retarget.Proofs.GroupedOperands

/-! Signs in front of operands. A prefix operator reads as one token with a sign that the text of its operand starts
with. Parentheses keep it apart from another prefix operator, but not from the sign of a number, nor from a sign that an
operand starts with further down. -/
namespace Retarget

namespace Node

open CSharp

/-- The sign that a node is written with itself. -/
def ownSign? (node : Node) : Option Char :=
  match node.kind with
  | .int value => if value < 0 then some '-' else none
  | .float value => if startsWithSign (Decimal.Style.source.write value) then some '-' else none
  | .unaryOp op _ => op.toList.head?
  | _ => none

/-- The child that the text of a node starts with, unless in parentheses. -/
def front? (library : Library) (node : Node) : Option Node :=
  match node.kind with
  | .binaryOp _ left _ | .comparison _ left _ => if wrapsOperand node left .left then none else some left
  | _ => node.postfixOperand? library

/-- A node begins with its own sign, or with that of the child in front. -/
inductive BeginsWith (library : Library) (sign : Char) : Node → Prop
  | own {node : Node} : node.ownSign? = some sign → BeginsWith library sign node
  | front {node child : Node} : node.front? library = some child → BeginsWith library sign child →
      BeginsWith library sign node

variable {library : Library} {sign : Char} {node child : Node}

theorem beginsWith_iff_of_front? (leads : node.front? library = some child) :
    BeginsWith library sign node ↔ BeginsWith library sign child := by
  constructor
  · rintro (own | ⟨alsoLeads, begins⟩)
    · obtain ⟨kind, type⟩ := node
      cases kind <;> first | cases own | cases leads
    · cases leads.symm.trans alsoLeads
      exact begins
  · exact .front leads

theorem beginsWith_iff_of_none (none : node.front? library = none) :
    BeginsWith library sign node ↔ node.ownSign? = some sign := by
  constructor
  · rintro (own | ⟨leads, _⟩)
    · exact own
    · cases none.symm.trans leads
  · exact .own

theorem front?_of_postfixOperand? (applied : node.postfixOperand? library = some child) :
    node.front? library = some child := by
  obtain ⟨kind, type⟩ := node
  cases kind with
  | binaryOp | comparison => cases applied
  | _ => exact applied

theorem front?_of_binary {op : String} {left : Node} (isBinary : binaryOperator? node = some op)
    (leads : node.leading? = some left) :
    node.front? library = if wrapsOperand node left .left then none else some left := by
  obtain ⟨kind, type⟩ := node
  cases kind with
  | binaryOp | comparison =>
    cases leads
    rfl
  | _ => cases isBinary

theorem ownSign?_of_binary {op : String} (isBinary : binaryOperator? node = some op) : node.ownSign? = none := by
  obtain ⟨kind, type⟩ := node
  cases kind with
  | binaryOp | comparison => rfl
  | _ => cases isBinary

theorem front?_eq_none (noForm : node.postfixOperand? library = none) (noBinary : binaryOperator? node = none) :
    node.front? library = none := by
  obtain ⟨kind, type⟩ := node
  cases kind with
  | binaryOp | comparison => cases noBinary
  | _ => exact noForm

theorem Spelled.operator (spelled : node.Spelled) {op : String} (named : op ∈ node.names)
    (operates : node.hasOperator = true) : Text.isAllBlank op.toList = false := by
  obtain ⟨c, _, member, _, filled⟩ := (spelled.operators operates op named).exists_head
  exact isAllBlank_eq_false _ c member filled

theorem Spelled.operator_of_binary (spelled : node.Spelled) {op : String} (isBinary : binaryOperator? node = some op) :
    Text.isAllBlank op.toList = false := by
  obtain ⟨kind, type⟩ := node
  cases kind with
  | binaryOp | comparison =>
    cases isBinary
    exact spelled.operator List.mem_cons_self rfl
  | _ => cases isBinary

end Node

namespace CSharp

open Node

theorem Signed.filled {chars : List Char} (signed : Signed chars) : Text.isAllBlank chars = false := by
  cases signed with
  | positive magnitude =>
    exact magnitude.primary.visible.isAllBlank (Shows.plain (List.all_eq_true.mp magnitude.plain))
  | negative => exact isAllBlank_eq_false _ '-' List.mem_cons_self (by decide)

section Heads

variable {chars : List Char} {row : List Piece} {c : Char}

/-- A plain character at the start is the first piece. -/
theorem Shows.head (shows : Shows chars row) (plain : isPlain c = true) (head : chars.head? = some c) :
    row.head? = some (.char c) := by
  obtain ⟨rest, rfl⟩ := List.head?_eq_some_iff.mp head
  obtain ⟨after, inner, steps, _, rfl⟩ := exists_of_scan_cons shows
  cases (next_plain [] c plain).symm.trans steps
  rfl

theorem Primary.head_ne (primary : Primary row) (sign : continuesName c = false) : row.head? ≠ some (.char c) := by
  intro head
  obtain ⟨rest, rfl⟩ := List.head?_eq_some_iff.mp head
  exact (rejected_of_sign sign rest).not_primary primary

theorem Postfixes.head_ne (postfixes : Postfixes row) (other : c ≠ '.') : row.head? ≠ some (.char c) := by
  induction postfixes with
  | nil => nofun
  | @concat forms form _ isForm ih =>
    cases forms with
    | nil =>
      cases isForm with
      | member isWord => simpa using Ne.symm other
      | index | call => nofun
    | cons piece forms => exact ih

theorem head_append_iff (front back : String) (other : back.toList.head? ≠ some c) :
    (front ++ back).toList.head? = some c ↔ front.toList.head? = some c := by
  rw [String.toList_append]
  cases front.toList with
  | nil => exact ⟨fun head => absurd head other, nofun⟩
  | cons => rfl

/-- Either prefix operator that may read as one token with itself. -/
def IsPrefixSign (c : Char) : Prop := c = '+' ∨ c = '-'

namespace IsPrefixSign

variable (isSign : IsPrefixSign c)
include isSign

theorem plain : isPlain c = true := by rcases isSign with rfl | rfl <;> decide

theorem noName : continuesName c = false := by rcases isSign with rfl | rfl <;> decide

theorem filled : Text.isBlank c = false := by rcases isSign with rfl | rfl <;> decide

theorem ne_of {other : Char} (apart : other ≠ '+' ∧ other ≠ '-') : other ≠ c := by
  rcases isSign with rfl | rfl
  · exact apart.1
  · exact apart.2

theorem head_ne_of_primary (shows : Shows chars row) (primary : Primary row) : chars.head? ≠ some c :=
  fun head => primary.head_ne isSign.noName (shows.head isSign.plain head)

theorem head_ne_of_postfixes (shows : Shows chars row) (postfixes : Postfixes row) : chars.head? ≠ some c :=
  fun head => postfixes.head_ne (isSign.ne_of (by decide)).symm (shows.head isSign.plain head)

theorem head_parenthesize_iff (wrap : Bool) (text : String) :
    (parenthesize wrap text).toList.head? = some c ↔ wrap = false ∧ text.toList.head? = some c := by
  cases wrap with
  | true =>
    have bracket : '(' ≠ c := isSign.ne_of (by decide)
    simp [parenthesize, bracket]
  | false => exact ⟨fun head => ⟨rfl, head⟩, And.right⟩

/-- A number starts with no other sign than that of a negative one. -/
theorem head_iff_of_signed {text : String} (signed : Signed text.toList) :
    text.toList.head? = some c ↔ (if startsWithSign text then some '-' else none) = some c := by
  cases negative : startsWithSign text with
  | true =>
    rw [if_pos rfl, beq_iff_eq.mp negative]
  | false =>
    have primary := signed.primary negative
    have none := isSign.head_ne_of_primary (.plain signed.plain) primary
    simpa using none

end IsPrefixSign

theorem startsWithSign_int (value : Int) : startsWithSign (toString value) = decide (value < 0) := by
  cases value with
  | ofNat value =>
    have primary : Primary _ := Primary.number (numeral_toString_nat value)
    have none := IsPrefixSign.head_ne_of_primary (.inr rfl) (.plain (numeral_toString_nat value).plain) primary
    have unsigned : startsWithSign (toString (Int.ofNat value)) = false := beq_eq_false_iff_ne.mpr none
    rw [unsigned]
    exact (decide_eq_false (Int.not_lt.mpr (Int.natCast_nonneg value))).symm
  | negSucc value =>
    rw [toString_negSucc, startsWithSign, String.toList_append]
    exact (decide_eq_true (Int.negSucc_lt_zero value)).symm

end Heads

/-- Of the operands that begin with a prefix operator, those are parenthesized that are operations. -/
theorem IsPrefixSign.unwrapped_iff {sign : Char} (isSign : IsPrefixSign sign) {op : String}
    (single : op.toList = [sign]) {library : Library} {value : Node} {type : SemType} :
    wrapsPrefixed ⟨.unaryOp op value, type⟩ value = false ∧ BeginsWith library sign value ↔
      value.hasOperator = false ∧ BeginsWith library sign value := by
  refine and_congr_left fun begins => ?_
  obtain ⟨kind, valueType⟩ := value
  cases kind with
  | unaryOp inner operand =>
    have head : inner.toList.head? = some sign := (beginsWith_iff_of_none rfl).mp begins
    have fused : fuses op inner = true := by
      rw [fuses, single, head]
      rcases isSign with rfl | rfl <;> rfl
    have wrapped : wrapsPrefixed ⟨.unaryOp op ⟨.unaryOp inner operand, valueType⟩, type⟩
        ⟨.unaryOp inner operand, valueType⟩ = true := fused
    exact iff_of_false (ne_false_of_eq_true wrapped) Bool.false_ne_true.symm
  | binaryOp | comparison => exact iff_of_false Bool.false_ne_true.symm Bool.false_ne_true.symm
  | _ => exact ⟨fun _ => rfl, fun _ => rfl⟩

section Texts

variable {settings : LanguageSettings} {built : Profile} (builds : profile settings = .ok built)
  (basics : Basics settings built) {declared : List String} {node value : Node} {fuel depth : Nat} {text : String}
include builds

omit builds in
/-- The text of a field, where it is read. -/
theorem place_of_segment {less : Nat} {name word : String} {field : Field Node} (stored : node.attr? name = some field)
    (written : (Rules.rendererAt built declared less).segment built.overrides node depth
      (.directive (fieldNamed name)) = .ok word) :
    (Rules.rendererAt built declared less).place ⟨node.tag, name, field⟩ depth = .ok word :=
  (Renderer.segment_placeholder _ _ node depth name field stored).symm.trans written

theorem number_text {word : String} (isExpression : node.tag.isExpression = true)
    (single : line node.tag = [.directive (fieldNamed "value")]) {field : Field Node}
    (stored : node.attr? "value" = some field)
    (placed : ∀ less, (Rules.rendererAt built declared less).place ⟨node.tag, "value", field⟩ depth = .ok word)
    (filled : Text.isAllBlank word.toList = false)
    (rendered : (Rules.rendererAt built declared fuel).render node depth = .ok text) : text = word := by
  obtain ⟨less, whole, rfl, written, joined⟩ := exists_of_single builds isExpression single rendered
  cases (placed less).symm.trans (place_of_segment stored written)
  exact joined filled

theorem lambda_head (isLambda : node.tag = .anonymousFunction)
    (rendered : (Rules.rendererAt built declared fuel).render node depth = .ok text) :
    text.toList.head? = some '(' := by
  have isExpression : node.tag.isExpression = true := by
    rw [isLambda]
    rfl
  obtain ⟨less, texts, rfl, written, joined⟩ := exists_texts builds isExpression rendered
  rw [isLambda] at written
  obtain _ | @⟨_, own, _, others, came, _⟩ := written
  cases came
  rw [joined (isAllBlank_eq_false _ '(' (by simp) (by decide))]
  simp

include basics

theorem exists_prefixed_text {op : String} {type : SemType} (filled : Text.isAllBlank op.toList = false)
    (rendered : (Rules.rendererAt built declared fuel).render ⟨.unaryOp op value, type⟩ depth = .ok text) :
    ∃ less inner, (Rules.rendererAt built declared less).render value depth = .ok inner ∧
      text = op ++ parenthesize (wrapsPrefixed ⟨.unaryOp op value, type⟩ value) inner := by
  obtain ⟨less, texts, rfl, written, joined⟩ := exists_texts builds rfl rendered
  obtain _ | @⟨_, own, _, _, ofOp, _ | @⟨_, whole, _, _, ofValue, _ | _⟩⟩ := written
  cases place_of_segment rfl ofOp
  have function := basics.override "unary_operand" _ rfl
  have enclosed := (Renderer.segment_override _ _ _ depth _ _ function).symm.trans ofValue
  obtain ⟨inner, came, rfl⟩ := exists_of_enclosed depth (wrapsPrefixed ⟨.unaryOp op value, type⟩) rfl enclosed
  refine ⟨less, inner, came, ?_⟩
  rw [String.join_cons, String.join_cons, String.join_nil, String.append_empty] at joined
  refine joined ?_
  rw [isAllBlank_append, filled, Bool.false_and]

theorem exists_binary_text {op : String} {left : Node} (isBinary : binaryOperator? node = some op)
    (leads : node.leading? = some left) (filled : Text.isAllBlank op.toList = false)
    (rendered : (Rules.rendererAt built declared fuel).render node depth = .ok text) :
    ∃ less inner back, (Rules.rendererAt built declared less).render left depth = .ok inner ∧
      text = parenthesize (wrapsOperand node left .left) inner ++ (" " ++ back) := by
  obtain ⟨kind, type⟩ := node
  cases kind with
  | binaryOp sign first second | comparison sign first second =>
    cases isBinary
    cases leads
    obtain ⟨less, texts, rfl, written, joined⟩ := exists_texts builds rfl rendered
    obtain _ | @⟨_, whole, _, _, ofLeft, _ | @⟨_, blank, _, _, ofBlank, _ | @⟨_, own, _, others, ofOp, _⟩⟩⟩ := written
    cases ofBlank
    cases place_of_segment rfl ofOp
    have function := basics.override "left_operand" _ rfl
    have enclosed := (Renderer.segment_override _ _ _ depth _ _ function).symm.trans ofLeft
    obtain ⟨inner, came, rfl⟩ := exists_of_enclosed depth (fun left => wrapsOperand _ left .left) rfl enclosed
    refine ⟨less, inner, op ++ String.join others, came, ?_⟩
    rw [String.join_cons, String.join_cons, String.join_cons] at joined
    refine joined ?_
    rw [isAllBlank_append, isAllBlank_append, isAllBlank_append, filled, Bool.false_and, Bool.and_false, Bool.and_false]
  | _ => cases isBinary

end Texts

section Beginnings

variable {settings : LanguageSettings} {built : Profile} (builds : profile settings = .ok built)
  (basics : Basics settings built) {declared : List String} (names : ∀ name ∈ declared, IsIdentifier name.toList)
  {node : Node} {fuel depth : Nat} {text : String} {sign : Char} (isSign : IsPrefixSign sign)
include isSign

include builds basics

theorem head_iff_of_binary {op : String} {left : Node} (isBinary : binaryOperator? node = some op)
    (leads : node.leading? = some left) (filled : Text.isAllBlank op.toList = false)
    (known : ∀ {less inner}, (Rules.rendererAt built declared less).render left depth = .ok inner →
      (inner.toList.head? = some sign ↔ BeginsWith built.library sign left))
    (rendered : (Rules.rendererAt built declared fuel).render node depth = .ok text) :
    text.toList.head? = some sign ↔ BeginsWith built.library sign node := by
  obtain ⟨less, inner, back, came, rfl⟩ := exists_binary_text builds basics isBinary leads filled rendered
  have blank : (" " ++ back).toList.head? ≠ some sign := by
    simpa using (isSign.ne_of (by decide) : ' ' ≠ sign)
  rw [head_append_iff _ _ blank, isSign.head_parenthesize_iff, known came]
  have front : node.front? built.library = _ := front?_of_binary isBinary leads
  cases wraps : wrapsOperand node left .left with
  | true =>
    rw [wraps, if_pos rfl] at front
    rw [beginsWith_iff_of_none front, ownSign?_of_binary isBinary]
    exact iff_of_false (fun wrapped => Bool.false_ne_true.symm wrapped.1) (Option.some_ne_none sign).symm
  | false =>
    rw [wraps, if_neg Bool.false_ne_true] at front
    rw [beginsWith_iff_of_front? front]
    exact ⟨And.right, fun begins => ⟨rfl, begins⟩⟩

variable (spelled : node.Everywhere Spelled)
include names spelled

theorem head_iff_of_postfixOperand? {operand : Node} (applied : node.postfixOperand? built.library = some operand)
    (known : ∀ {less front}, (Rules.rendererAt built declared less).render operand depth = .ok front →
      (front.toList.head? = some sign ↔ BeginsWith built.library sign operand))
    (rendered : (Rules.rendererAt built declared fuel).render node depth = .ok text) :
    text.toList.head? = some sign ↔ BeginsWith built.library sign node := by
  obtain ⟨less, front, back, forms, _, came, rfl, shows, postfixes, _⟩ :=
    applied_of_postfixOperand? builds basics names spelled applied rendered
  rw [head_append_iff _ _ (isSign.head_ne_of_postfixes shows postfixes), known came,
    beginsWith_iff_of_front? (front?_of_postfixOperand? applied)]

theorem head_ne_of_tight (tight : node.bindsLoosely = false) (none : node.postfixOperand? built.library = none)
    (isExpression : node.tag.isExpression = true)
    (rendered : (Rules.rendererAt built declared fuel).render node depth = .ok text) :
    text.toList.head? ≠ some sign := by
  obtain ⟨row, shows, groups⟩ := exists_groups builds basics names spelled isExpression rendered
  refine isSign.head_ne_of_primary shows (groups.primary ?_)
  rintro (loosely | ⟨applied, _⟩)
  · rw [tight] at loosely
    cases loosely
  · cases none.symm.trans applied

/-- A node that has no child in front starts with its own sign, or with none. -/
theorem head_iff_of_none (noForm : node.postfixOperand? built.library = none) (noBinary : binaryOperator? node = none)
    (isExpression : node.tag.isExpression = true)
    (rendered : (Rules.rendererAt built declared fuel).render node depth = .ok text) :
    text.toList.head? = some sign ↔ node.ownSign? = some sign := by
  have operators := spelled.self.operators
  obtain ⟨kind, type⟩ := node
  cases kind with
  | unaryOp op value =>
    have isOperator := operators rfl op List.mem_cons_self
    obtain ⟨c, head, _, _, _⟩ := isOperator.exists_head
    obtain ⟨less, inner, came, rfl⟩ :=
      exists_prefixed_text builds basics (spelled.self.operator List.mem_cons_self rfl) rendered
    have own : ownSign? ⟨.unaryOp op value, type⟩ = some c := head
    rw [String.toList_append, List.head?_append, head, own]
    rfl
  | int value =>
    have signed := signed_toString_int value
    cases number_text builds rfl rfl rfl (fun _ => rfl) signed.filled rendered
    rw [isSign.head_iff_of_signed signed, startsWithSign_int]
    simp only [ownSign?, decide_eq_true_eq]
  | float value =>
    have signed := signed_write value
    cases number_text builds rfl rfl rfl (fun _ => rfl) signed.filled rendered
    rw [isSign.head_iff_of_signed signed]
    rfl
  | anonymousFunction params returnType body =>
    have head := lambda_head builds rfl rendered
    have bracket : '(' ≠ sign := isSign.ne_of (by decide)
    rw [head]
    simp [ownSign?, bracket]
  | binaryOp | comparison => cases noBinary
  | _ =>
    have other := head_ne_of_tight builds basics names isSign spelled rfl noForm isExpression rendered
    exact iff_of_false other (Option.some_ne_none sign).symm

omit spelled in
/-- The text of an expression starts with the sign that the expression begins with. -/
theorem head_iff_beginsWith (spelled : node.Everywhere Spelled) (isExpression : node.tag.isExpression = true)
    (rendered : (Rules.rendererAt built declared fuel).render node depth = .ok text) :
    text.toList.head? = some sign ↔ BeginsWith built.library sign node := by
  induction node using Node.induct generalizing fuel depth text with
  | h node ih =>
    have known {child : Node} (leads : node.leading? = some child) {less : Nat} {front : String}
        (came : (Rules.rendererAt built declared less).render child depth = .ok front) :
        front.toList.head? = some sign ↔ BeginsWith built.library sign child :=
      have member := mem_children_of_leading? leads
      ih child member (spelled.child child member) (spelled.self.leading child leads) came
    cases applied : node.postfixOperand? built.library with
    | some operand =>
      exact head_iff_of_postfixOperand? builds basics names isSign spelled applied
        (known (leading?_of_postfixOperand? applied)) rendered
    | none =>
      cases binary : binaryOperator? node with
      | some op =>
        obtain ⟨left, leads⟩ := exists_leading?_of_binary binary
        exact head_iff_of_binary builds basics isSign binary leads (spelled.self.operator_of_binary binary)
          (known leads) rendered
      | none =>
        rw [head_iff_of_none builds basics names isSign spelled applied binary isExpression rendered,
          beginsWith_iff_of_none (front?_eq_none applied binary)]

end Beginnings

/-- A prefix operator is written right before its operand, or before parentheses around it. So it stands before the
same character exactly if the operand begins with it and is no operation itself. -/
theorem prefix_operators_fuse_iff (settings : LanguageSettings) :
    ∃ built, profile settings = .ok built ∧ ∀ declared op value type fuel depth text sign,
      (∀ name ∈ declared, IsIdentifier name.toList) → IsPrefixSign sign → op.toList = [sign] →
      Everywhere Spelled ⟨.unaryOp op value, type⟩ → value.tag.isExpression = true →
      (Rules.rendererAt built declared fuel).render ⟨.unaryOp op value, type⟩ depth = .ok text →
      ∃ rest, text = op ++ rest ∧
        (rest.toList.head? = some sign ↔ value.hasOperator = false ∧ BeginsWith built.library sign value) := by
  obtain ⟨built, builds, basics, _⟩ := exists_profile settings
  refine ⟨built, builds, fun declared op value type fuel depth text sign names isSign single spelled isExpression
    rendered => ?_⟩
  have filled : Text.isAllBlank op.toList = false :=
    isAllBlank_eq_false _ sign (by simp [single]) isSign.filled
  obtain ⟨less, inner, came, rfl⟩ := exists_prefixed_text builds basics filled rendered
  refine ⟨_, rfl, ?_⟩
  have below : value.Everywhere Spelled := spelled.child value List.mem_cons_self
  rw [isSign.head_parenthesize_iff, head_iff_beginsWith builds basics names isSign below isExpression came]
  exact isSign.unwrapped_iff single

/-- `-(-n).size`. -/
def negatedSize : Node :=
  .unaryOp "-" (.attr (.unaryOp "-" (.localVar "n" (.named "Int"))) "size" (.named "Int"))

theorem negated_size_fuses :
    negatedSize.Everywhere Spelled ∧ ∃ built rest, profile {} = .ok built ∧
      built.render [] negatedSize 0 = .ok ("-" ++ rest) ∧ rest.toList.head? = some '-' := by
  have spelled : negatedSize.Everywhere Spelled := by decide +kernel
  obtain ⟨built, same, basics, fits⟩ := exists_profile {}
  obtain ⟨_, builds, fuse⟩ := prefix_operators_fuse_iff {}
  cases same.symm.trans builds
  have calls : ∀ inner ∈ negatedSize.walk, inner.callsKnown built.library = true := by
    repeat refine List.forall_mem_cons.mpr ⟨rfl, ?_⟩
    exact List.forall_mem_nil _
  obtain ⟨text, rendered⟩ :=
    exists_render basics fits [] negatedSize rfl (by decide +kernel) calls (by decide +kernel) 0
  obtain ⟨rest, rfl, fuses⟩ := fuse [] "-" _ _ _ 0 text '-' (List.forall_mem_nil _) (.inr rfl) rfl spelled rfl rendered
  have begins : BeginsWith built.library '-'
      (.attr (.unaryOp "-" (.localVar "n" (.named "Int"))) "size" (.named "Int")) := .front rfl (.own rfl)
  exact ⟨spelled, built, rest, builds, rendered, fuses.mpr ⟨rfl, begins⟩⟩

/-- The operator and the sign of the number read as a decrement. -/
theorem negative_number_fuses :
    ∃ built, profile {} = .ok built ∧ built.render [] (.unaryOp "-" (.int (-1))) 0 = .ok "--1" := by
  obtain ⟨built, builds, basics, _⟩ := exists_profile {}
  refine ⟨built, builds, ?_⟩
  have enough : (Node.unaryOp "-" (.int (-1))).size ≤ built.nesting (Node.unaryOp "-" (.int (-1))).size :=
    Nat.le_trans (Nat.le_succ _) (Nat.le_mul_of_pos_right _ (Nat.succ_pos _))
  obtain ⟨rest, nesting, below⟩ := exists_rest _ _ enough
  obtain ⟨inner, rfl, _⟩ := exists_rest rest _ (below (.int (-1)) List.mem_cons_self)
  have number : (Rules.rendererAt built [] (inner + 1)).render (.int (-1)) 0 = .ok "-1" :=
    render_attribute [] inner 0 _ "value" (.int (-1)) _ (entry_int basics) rfl rfl (by decide)
  change (Rules.rendererAt built [] (built.nesting _)).render _ 0 = _
  rw [nesting]
  exact render_unaryOp basics [] _ 0 (.int (-1)) "-" "-1" (.named "Int") (by decide) number

end CSharp
end Retarget
