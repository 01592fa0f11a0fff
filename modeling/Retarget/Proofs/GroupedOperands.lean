import Retarget.Proofs.LastRegistrations
import Retarget.Proofs.OperatorTrees
import Retarget.Proofs.PostfixForms

/-! Operands of postfix forms. What an expression shows outside all brackets is a primary expression if the expression
is not loose, and starts like none if it is. So a form takes the whole text of its operand, or not all of it. -/
namespace Retarget
namespace CSharp

open Node

section Built

variable {settings : LanguageSettings} {built : Profile} (builds : profile settings = .ok built)
  (basics : Basics settings built) {declared : List String} (names : ∀ name ∈ declared, IsIdentifier name.toList)
include builds

variable {node operand : Node} {fuel depth : Nat} {text : String}
include basics names
variable (spelled : node.Everywhere Spelled)
include spelled

theorem exists_groups_of_fills (isExpression : node.tag.isExpression = true)
    (groups : ∀ less row, Fills (Writes built declared less node depth) (parts node.tag) row →
      Groups built.library node row ∧ Visible row)
    (rendered : (Rules.rendererAt built declared fuel).render node depth = .ok text) :
    ∃ row, Shows text.toList row ∧ Groups built.library node row := by
  obtain ⟨less, row, rfl, shows, fills⟩ := exists_row builds basics names spelled isExpression rendered
  obtain ⟨grouped, visible⟩ := groups less row fills
  exact ⟨row, shows visible, grouped⟩

omit builds basics names spelled in
theorem eq_of_field {less : Nat} {name word : String} {field : Field Node} {own row : List Piece}
    (stored : node.attr? name = some field)
    (placed : (Rules.rendererAt built declared less).place ⟨node.tag, name, field⟩ depth = .ok word)
    (shows : Shows word.toList own)
    (fills : Fills (Writes built declared less node depth) [.slot (fieldNamed name)] row) : row = own := by
  obtain ⟨rest, ends, rfl⟩ := exists_of_field stored placed shows fills
  rw [ends.eq_of_nil, List.append_nil]

/-- The name of a class is written as it is. -/
theorem exists_word_of_typename (isTypename : node.tag = .typename)
    (rendered : (Rules.rendererAt built declared fuel).render node depth = .ok text) :
    ∃ word, IsIdentifier word ∧ Shows text.toList (word.map .char) := by
  have isExpression : node.tag.isExpression = true := by
    rw [isTypename]
    rfl
  obtain ⟨less, row, rfl, shows, fills⟩ := exists_row builds basics names spelled isExpression rendered
  have identifiers := spelled.self.names
  obtain ⟨kind, type⟩ := node
  cases kind with
  | typename name =>
    have isIdentifier := identifiers rfl name List.mem_cons_self
    cases eq_of_field rfl rfl (shows_of_isWord isIdentifier.toIsWord) fills
    exact ⟨_, isIdentifier, shows isIdentifier.toIsWord.visible⟩
  | _ => cases isTypename

/-- Leaves, literals and creations. -/
theorem primary_of_fills (tight : node.bindsLoosely = false) (none : node.postfixOperand? built.library = none)
    (isExpression : node.tag.isExpression = true) (noCall : node.tag ≠ .standardCall ∧ node.tag ≠ .standardMethodCall)
    {less : Nat} {row : List Piece} (fills : Fills (Writes built declared less node depth) (parts node.tag) row) :
    Primary row := by
  have identifiers := spelled.self.names
  obtain ⟨kind, type⟩ := node
  cases kind with
  | int value =>
    have signed := signed_toString_int value
    cases eq_of_field rfl rfl (.plain signed.plain) fills
    exact signed.primary tight
  | float value =>
    have signed := signed_write value
    cases eq_of_field rfl rfl (.plain signed.plain) fills
    exact signed.primary tight
  | boolean value =>
    cases value with
    | true =>
      cases eq_of_field rfl rfl (shows_of_isWord (by decide : IsWord "true".toList)) fills
      exact .name (by decide)
    | false =>
      cases eq_of_field rfl rfl (shows_of_isWord (by decide : IsWord "false".toList)) fills
      exact .name (by decide)
  | string value =>
    obtain ⟨text, own, rest, written, completes, ends, rfl⟩ := fills.exists_of_slot
    cases ends.eq_of_nil
    have quoted : Writes built declared less ⟨.string value, type⟩ depth (.override "string_literal")
        (String.ofList (quote value.toList)) :=
      Renderer.segment_override _ _ _ depth _ _ (basics.override "string_literal" _ rfl)
    cases quoted.symm.trans written
    have shows : Shows (String.ofList (quote value.toList)).toList [.literal] := by
      rw [String.toList_ofList]
      exact .quote _
    rw [List.append_nil, Shows.unique completes shows]
    exact .literal
  | null =>
    cases fills.eq_of_pieces ("null".toList.map .char)
    exact .name (by decide)
  | this =>
    cases fills.eq_of_pieces ("this".toList.map .char)
    exact .name (by decide)
  | regex value =>
    cases fills.eq_of_pieces ("new Regex".toList.map .char ++ [.group .round])
    exact .created (.name (by decide : IsIdentifier "Regex".toList))
  | tuple elements =>
    cases fills.eq_of_pieces ("Tuple.Create".toList.map .char ++ [.group .round])
    exact primary_of_reads (by decide)
  | list elements | dictionary pairs | set elements | array elements =>
    obtain ⟨_, behind, rfl⟩ := fills.exists_of_pieces ("new ".toList.map .char)
    obtain ⟨text, own, rest, written, completes, ends, rfl⟩ := behind.exists_of_slot
    cases ends.eq_of_pieces [.char ' ', .group .curly]
    have typed : type.render types declared = .ok text := by
      rw [← basics.types]
      exact written
    obtain ⟨_, typeRow, shows, isType⟩ := spellsType_render names type (spelled.self.types rfl) text typed
    rw [Shows.unique completes shows]
    exact .filled isType
  | localVar name | typename name =>
    have isIdentifier := identifiers rfl name List.mem_cons_self
    cases eq_of_field rfl rfl (shows_of_isWord isIdentifier.toIsWord) fills
    exact .name isIdentifier
  | instanceVariable name =>
    obtain ⟨_, behind, rfl⟩ := fills.exists_of_pieces ("this".toList.map .char ++ [.char '.'])
    have isWord := (identifiers rfl name List.mem_cons_self).toIsWord
    cases eq_of_field rfl rfl (shows_of_isWord isWord) behind
    rw [← List.append_cons]
    exact .applied (.name (by decide : IsIdentifier "this".toList)) (.member isWord)
  | newInstance className args =>
    obtain ⟨_, behind, rfl⟩ := fills.exists_of_pieces ("new ".toList.map .char)
    obtain ⟨text, own, rest, written, completes, ends, rfl⟩ := behind.exists_of_slot
    cases ends.eq_of_pieces [.group .round]
    have rendered : (Rules.rendererAt built declared less).render className depth = .ok text := written
    obtain ⟨word, isIdentifier, shows⟩ := exists_word_of_typename builds basics names
      (spelled.child className List.mem_cons_self) (spelled.self.created rfl className rfl) rendered
    rw [Shows.unique completes shows]
    exact .created (.name isIdentifier)
  | standardCall space function args => exact absurd rfl noCall.1
  | standardMethodCall receiver message args => exact absurd rfl noCall.2
  | anonymousFunction | binaryOp | comparison | unaryOp => cases tight
  | attr | index | call | methodCall | staticCall => cases none
  | _ => cases isExpression

omit builds basics names in
/-- Signs, prefix operators and lambdas. -/
theorem rejected_of_fills (loosely : node.bindsLoosely = true) (noBinary : binaryOperator? node = none)
    {less : Nat} {row : List Piece} (fills : Fills (Writes built declared less node depth) (parts node.tag) row) :
    Rejected row ∧ Visible row := by
  have operators := spelled.self.operators
  obtain ⟨kind, type⟩ := node
  cases kind with
  | int value =>
    obtain ⟨rest, _, rfl⟩ := exists_of_field rfl rfl (.plain (signed_toString_int value).plain) fills
    exact rejected_of_head (beq_iff_eq.mp loosely) (by decide) (by decide) rest
  | float value =>
    obtain ⟨rest, _, rfl⟩ := exists_of_field rfl rfl (.plain (signed_write value).plain) fills
    exact rejected_of_head (beq_iff_eq.mp loosely) (by decide) (by decide) rest
  | unaryOp op value =>
    have isOperator := operators rfl op List.mem_cons_self
    obtain ⟨rest, _, rfl⟩ := exists_of_field rfl rfl (.plain isOperator.plain) fills
    obtain ⟨c, head, _, sign, filled⟩ := isOperator.exists_head
    exact rejected_of_head head sign filled rest
  | anonymousFunction params returnType body =>
    obtain ⟨_, _, rfl⟩ := fills.exists_of_pieces [.group .round, .char ' ', .char '=', .char '>']
    exact ⟨rejected_of_blank (.inl .group) _, ⟨.group .round, List.mem_cons_self, by decide⟩⟩
  | binaryOp | comparison => cases noBinary
  | _ => cases loosely

omit builds names spelled in
/-- What a binary operation is written as on its left: a group, or the text of the operand. -/
theorem exists_left {less : Nat} {left : Node} {written : String} (leftAt : node.attr? "left" = some (.node left))
    (came : Writes built declared less node depth (.override "left_operand") written)
    (known : ∀ front, (Rules.rendererAt built declared less).render left depth = .ok front →
      ∃ own, Shows front.toList own ∧ Groups built.library left own) :
    ∃ own, Shows written.toList own ∧ (Primary own ∨ Rejected own) := by
  have operandText := (Renderer.segment_override built.overrides (Rules.rendererAt built declared less) node depth _ _
    (basics.override "left_operand" _ rfl)).symm.trans came
  obtain ⟨front, rendered, rfl⟩ :=
    exists_of_enclosed depth (fun left => wrapsOperand node left .left) leftAt operandText
  obtain ⟨own, shows, groups⟩ := known front rendered
  cases wrapsOperand node left .left with
  | false => exact ⟨own, shows, groups.known⟩
  | true =>
    refine ⟨[.group .round], ?_, .inl .group⟩
    rw [parenthesize, if_pos rfl, String.toList_append, String.toList_append]
    exact Shows.group .round ⟨own, shows⟩

omit builds names in
/-- A binary operator stands behind a blank. -/
theorem rejected_of_binary (op : String) (left : Node) (isBinary : binaryOperator? node = some op)
    (leads : node.leading? = some left) {less : Nat} {row : List Piece}
    (known : ∀ front, (Rules.rendererAt built declared less).render left depth = .ok front →
      ∃ own, Shows front.toList own ∧ Groups built.library left own)
    (fills : Fills (Writes built declared less node depth) (parts node.tag) row) : Rejected row ∧ Visible row := by
  have operators := spelled.self.operators
  obtain ⟨kind, type⟩ := node
  cases kind with
  | binaryOp sign first second | comparison sign first second =>
    cases isBinary
    cases leads
    obtain ⟨written, shown, rest, came, completes, later, rfl⟩ := fills.exists_of_slot
    obtain ⟨own, shows, isKnown⟩ := exists_left basics rfl came known
    cases Shows.unique completes shows
    obtain ⟨_, behind, rfl⟩ := later.exists_of_piece
    have isOperator := operators rfl op List.mem_cons_self
    obtain ⟨_, _, rfl⟩ := exists_of_field rfl rfl (.plain isOperator.plain) behind
    obtain ⟨c, _, member, _, filled⟩ := isOperator.exists_head
    exact ⟨rejected_of_blank isKnown _, visible_of_char filled (by simp [member])⟩
  | _ => cases isBinary

/-- An operation that does not start with the receiver is written as a name with postfix forms. -/
theorem exists_primary_of_operation (isExpression : node.tag.isExpression = true) {name : String}
    (single : line node.tag = [.directive (.override name)])
    (calls : ∀ less whole, Writes built declared less node depth (.override name) whole → ∃ entry : LibraryEntry,
      startsWithReceiver entry.template = false ∧ readsOperation (.ofTag node.tag) entry.template = true ∧
      (Rules.rendererAt built declared less).expand entry.template node depth = .ok whole)
    (rendered : (Rules.rendererAt built declared fuel).render node depth = .ok text) :
    ∃ row, Shows text.toList row ∧ Primary row := by
  obtain ⟨less, whole, rfl, written, kept⟩ := exists_of_single builds isExpression single rendered
  obtain ⟨⟨template, _⟩, starts, reads, expanded⟩ := calls less whole written
  obtain ⟨segments, pieces, rfl, some, outlined, primary⟩ := exists_of_readsName reads starts
  obtain ⟨less, row, rfl, shows, fills⟩ := exists_row_of_expand builds basics names (Ground.holds_ofTag node)
    (balanced_of_spelled spelled) some outlined expanded
  cases fills.eq_of_pieces pieces
  have shows := shows primary.visible
  rw [kept (primary.visible.isAllBlank shows)]
  exact ⟨pieces, shows, primary⟩

theorem exists_groups_of_call (none : node.postfixOperand? built.library = none)
    (calls : node.tag = .standardCall ∨ node.tag = .standardMethodCall)
    (rendered : (Rules.rendererAt built declared fuel).render node depth = .ok text) :
    ∃ row, Shows text.toList row ∧ Groups built.library node row := by
  have tables := tables_follow builds
  obtain ⟨kind, type⟩ := node
  cases kind with
  | standardCall space function args =>
    obtain ⟨row, shows, primary⟩ := exists_primary_of_operation builds basics names spelled rfl rfl
      (fun less whole written => by
        obtain ⟨entry, found, expanded⟩ := exists_entry (basics.override "standard_call" _ rfl) rfl written
        have follows := tables.functions space function entry found
        rw [followsLines, Bool.and_eq_true, Bool.not_eq_true'] at follows
        exact ⟨entry, follows.1, follows.2, expanded⟩) rendered
    exact ⟨row, shows, .of_primary rfl none primary⟩
  | standardMethodCall receiver message args =>
    obtain ⟨row, shows, primary⟩ := exists_primary_of_operation builds basics names spelled rfl rfl
      (fun less whole written => by
        obtain ⟨entry, found, expanded⟩ := exists_entry (basics.override "standard_method_call" _ rfl) rfl written
        refine ⟨entry, ?_, tables.methods _ _ entry found, expanded⟩
        have unapplied := none
        simp only [postfixOperand?] at unapplied
        simpa [show built.library.method? receiver.type.baseName message = some entry from found] using unapplied)
      rendered
    exact ⟨row, shows, .of_primary rfl none primary⟩
  | _ => rcases calls with same | same <;> cases same

omit spelled in
/-- The text of an expression is grouped as the expression binds. -/
theorem exists_groups (spelled : node.Everywhere Spelled) (isExpression : node.tag.isExpression = true)
    (rendered : (Rules.rendererAt built declared fuel).render node depth = .ok text) :
    ∃ row, Shows text.toList row ∧ Groups built.library node row := by
  -- Only the operand of a form and the left operand of an operation stand at the front without brackets, and
  -- both are children. What follows is the same whether they are known to be primary or rejected.
  induction node using Node.induct generalizing fuel depth text with
  | h node ih =>
    cases applied : node.postfixOperand? built.library with
    | some operand =>
      have leads := leading?_of_postfixOperand? applied
      have member := mem_children_of_leading? leads
      obtain ⟨less, front, back, forms, _, came, rfl, shows, postfixes, _⟩ :=
        applied_of_postfixOperand? builds basics names spelled applied rendered
      obtain ⟨own, ownShows, groups⟩ :=
        ih operand member (spelled.child operand member) (spelled.self.leading operand leads) came
      refine ⟨own ++ forms, ?_, groups.behind applied postfixes⟩
      rw [String.toList_append]
      exact ownShows.append shows
    | none =>
      by_cases calls : node.tag = .standardCall ∨ node.tag = .standardMethodCall
      · exact exists_groups_of_call builds basics names spelled applied calls rendered
      rw [not_or] at calls
      refine exists_groups_of_fills builds basics names spelled isExpression (fun less row fills => ?_) rendered
      cases loosely : node.bindsLoosely with
      | false =>
        have primary := primary_of_fills builds basics names spelled loosely applied isExpression calls fills
        exact ⟨.of_primary loosely applied primary, primary.visible⟩
      | true =>
        have rejected : Rejected row ∧ Visible row := by
          cases binary : binaryOperator? node with
          | none => exact rejected_of_fills spelled loosely binary fills
          | some op =>
            obtain ⟨left, leads⟩ := exists_leading?_of_binary binary
            have member := mem_children_of_leading? leads
            exact rejected_of_binary basics spelled op left binary leads (fun front came =>
              ih left member (spelled.child left member) (spelled.self.leading left leads) came) fills
        exact ⟨.of_rejected loosely rejected.1, rejected.2⟩

end Built

/-- Under any settings, a postfix form is written behind the text of its operand, and takes all of that exactly if the
operand is not loose. -/
theorem forms_take_tight_operands (settings : LanguageSettings) :
    ∃ built, profile settings = .ok built ∧ ∀ declared node operand depth text,
      (∀ name ∈ declared, IsIdentifier name.toList) → node.Everywhere Spelled →
      node.postfixOperand? built.library = some operand → built.render declared node depth = .ok text →
      ∃ front back row forms, (built.renderer declared node.size).render operand depth = .ok front ∧
        text = front ++ back ∧ Shows front.toList row ∧ Shows back.toList forms ∧ Postfixes forms ∧ forms ≠ [] ∧
        (TakenFrom row row ↔ ¬Loose built.library operand) := by
  obtain ⟨built, builds, basics, _⟩ := exists_profile settings
  refine ⟨built, builds, fun declared node operand depth text names spelled applied rendered => ?_⟩
  have leads := leading?_of_postfixOperand? applied
  obtain ⟨less, front, back, forms, below, came, same, shows, postfixes, some⟩ :=
    applied_of_postfixOperand? builds basics names spelled applied rendered
  obtain ⟨row, frontShows, groups⟩ := exists_groups builds basics names
    (spelled.child operand (mem_children_of_leading? leads)) (spelled.self.leading operand leads) came
  have whole := render_of_le basics declared (Nat.le_of_lt below) operand depth came
  refine ⟨front, back, row, forms, whole, same, frontShows, shows, postfixes, some, ?_⟩
  rw [takenFrom_self_iff]
  constructor
  · intro primary loose
    exact (groups.rejected loose).not_primary primary
  · exact groups.primary

section PushOnElement

/-- `rows[n - 1]`. -/
def elementOfRows : Node :=
  .index (.localVar "rows" (.container "List" [.container "List" [.named "Int"]]))
    (.binaryOp "-" (.localVar "n" (.named "Int")) (.int 1) (.named "Int")) (.container "List" [.named "Int"])

/-- `rows[n - 1].Add(-n)`. -/
def pushOnElement : Node :=
  .standardMethodCall elementOfRows "push" [.unaryOp "-" (.localVar "n" (.named "Int"))] .void

/-- Whether a method, if this is one, is written behind the receiver. -/
def followsReceiver : Parsed → Bool
  | .method _ _ added => startsWithReceiver added.template
  | _ => true

theorem exists_push {settings : LanguageSettings} {built : Profile} (builds : profile settings = .ok built) :
    ∃ entry, built.library.method? "List" "push" = some entry ∧ startsWithReceiver entry.template = true := by
  have item := (Profile.keeps_of_build builds).items (.method "List" "push")
  have last : ((registrations settings).filter (·.key? = some (.method "List" "push"))).getLast? =
      some (.method "List" "push" "%<receiver>.Add(%<args:join ', '>)" none) := rfl
  have passes : Registration.Passes followsReceiver (.method "List" "push" "%<receiver>.Add(%<args:join ', '>)" none) :=
    Registration.passes_method _ _ _ _ (by decide)
  obtain ⟨parsed, parses, checked⟩ := passes.exists_parsed
  rw [last] at item
  dsimp only at item
  rw [parses] at item
  obtain ⟨entry, found, rfl⟩ := Option.map_eq_some_iff.mp item
  exact ⟨entry, found, checked⟩

theorem push_takes_element :
    pushOnElement.Everywhere Spelled ∧ ∃ built text front back row, profile {} = .ok built ∧
      built.render [] pushOnElement 0 = .ok text ∧ text = front ++ back ∧
      (built.renderer [] pushOnElement.size).render elementOfRows 0 = .ok front ∧ Shows front.toList row ∧
      TakenFrom row row := by
  have spelled : pushOnElement.Everywhere Spelled := by decide +kernel
  obtain ⟨built, same, basics, fits⟩ := exists_profile {}
  obtain ⟨_, builds, takes⟩ := forms_take_tight_operands {}
  cases same.symm.trans builds
  obtain ⟨entry, found, starts⟩ := exists_push builds
  have known : pushOnElement.callsKnown built.library = true := Option.isSome_of_eq_some found
  have calls : ∀ inner ∈ pushOnElement.walk, inner.callsKnown built.library = true := by
    refine List.forall_mem_cons.mpr ⟨known, ?_⟩
    repeat refine List.forall_mem_cons.mpr ⟨rfl, ?_⟩
    exact List.forall_mem_nil _
  have applied : pushOnElement.postfixOperand? built.library = some elementOfRows := by
    have receiver : (built.library.method? "List" "push").any (fun entry => startsWithReceiver entry.template) = true :=
      (Option.any_eq_true ..).mpr ⟨entry, found, starts⟩
    exact if_pos receiver
  obtain ⟨text, rendered⟩ :=
    exists_render basics fits [] pushOnElement rfl (by decide +kernel) calls (by decide +kernel) 0
  obtain ⟨front, back, row, forms, came, joined, shows, _, _, _, taken⟩ :=
    takes [] pushOnElement elementOfRows 0 text (List.forall_mem_nil _) spelled applied rendered
  have tight : ¬Loose built.library elementOfRows := by
    rw [loose_iff_of_postfixOperand? (rfl : elementOfRows.postfixOperand? built.library = _)]
    rintro (loosely | ⟨further, _⟩)
    · cases loosely
    · cases further
  exact ⟨spelled, built, text, front, back, row, builds, rendered, joined, came, shows, taken.mpr tight⟩

end PushOnElement

section Attributes

variable {settings : LanguageSettings} {built : Profile} (basics : Basics settings built) (declared : List String)
include basics

theorem entry_attr : built.entries.get? .attr = some (.template ⟨[⟨0, line .attr⟩]⟩) :=
  basics.templates .attr "%<object>.%<attr>" _ rfl ((Template.parse_ofList _ _).trans (by decide))

/-- An attribute of an operator tree is written behind the text of the tree. -/
theorem render_attr (depth : Nat) (member : String) (type : SemType) {object : Node} {expression : Expression}
    (represented : Represents object expression) :
    built.render declared (.attr object member type) depth = .ok (expression.spelling ++ "." ++ member) := by
  have enough : (Node.attr object member type).size ≤ built.nesting (Node.attr object member type).size :=
    Nat.le_trans (Nat.le_succ _) (Nat.le_mul_of_pos_right _ (Nat.succ_pos _))
  obtain ⟨rest, nesting, below⟩ := exists_rest _ _ enough
  have front := render_represented basics declared rest depth represented (below object List.mem_cons_self)
  have joined : expression.spelling ++ "." ++ member = String.join [expression.spelling, ".", member] := by
    simp [String.join]
  have filled : Text.isAllBlank (expression.spelling ++ "." ++ member).toList = false :=
    isAllBlank_eq_false _ '.' (by simp) (by decide)
  rw [joined] at filled ⊢
  change (Rules.rendererAt built declared (built.nesting _)).render _ depth = _
  rw [nesting]
  refine render_line declared rest depth (.attr object member type) _ _ (List.cons_ne_nil _ _) (entry_attr basics) ?_
    filled
  rw [mapM_eq_ok_iff]
  refine .cons ?_ (.cons rfl (.cons ?_ .nil))
  · exact (Renderer.segment_placeholder _ _ (.attr object member type) depth "object" (.node object) rfl).trans front
  · exact Renderer.segment_placeholder _ _ (.attr object member type) depth "attr" (.text member) rfl

end Attributes

def sumOfLocals : Node :=
  .binaryOp "+" (.localVar "a" (.named "Int")) (.localVar "b" (.named "Int")) (.named "Int")

/-- The attribute of a sum is written without parentheses, and so taken from the right operand alone. -/
theorem attribute_of_sum_takes_right_operand :
    ∃ built row, profile {} = .ok built ∧ built.render [] (.attr sumOfLocals "c" (.named "Int")) 0 = .ok "a + b.c" ∧
      Shows "a + b".toList row ∧ TakenFrom row ("b".toList.map .char) ∧ ¬TakenFrom row row := by
  obtain ⟨built, builds, basics, _⟩ := exists_profile {}
  have represented : Represents sumOfLocals
      (.binary .plus (.name ⟨"a", by decide, by decide⟩) (.name ⟨"b", by decide, by decide⟩)) :=
    .binary .plus _ (.name ⟨"a", by decide, by decide⟩ _) (.name ⟨"b", by decide, by decide⟩ _)
  have rendered := render_attr basics [] 0 "c" (.named "Int") represented
  have shorter : ∀ other ∈ ("a + b".toList.map Piece.char).tails, Stage.start.run other = none ∨ other.length ≤ 1 := by
    decide +kernel
  have atMostOne {other : List Piece} (ends : other <:+ "a + b".toList.map .char) (primary : Primary other) :
      other.length ≤ 1 := by
    rcases shorter other ((List.mem_tails ..).mpr ends) with rejected | le
    · exact absurd primary (Rejected.not_primary rejected)
    · exact le
  refine ⟨built, "a + b".toList.map .char, builds, rendered.trans (congrArg Except.ok (by decide +kernel)),
    by decide +kernel, ⟨by decide, .name (by decide), fun other ends primary => atMostOne ends primary⟩, ?_⟩
  intro taken
  exact absurd (atMostOne taken.ends taken.primary) (by decide)

end CSharp
end Retarget
