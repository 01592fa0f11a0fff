import Retarget.Proofs.BalancedOverrides
import Retarget.Proofs.OverrideRuns
import Retarget.Proofs.TypeRows

/-! Lines of expressions. In C# an expression is written on one line, and so is each library operation. What such a line
shows outside all brackets is known from its template. -/
namespace Retarget

def Tag.expressions : List Tag :=
  [.anonymousFunction, .int, .float, .string, .boolean, .null, .regex, .list, .dictionary, .set, .tuple, .array,
    .localVar, .typename, .instanceVariable, .this, .attr, .index, .call, .methodCall, .staticCall, .standardCall,
    .standardMethodCall, .newInstance, .binaryOp, .unaryOp, .comparison]

def Tag.isExpression (tag : Tag) : Bool := expressions.contains tag

namespace CSharp

def fieldNamed (name : String) : Directive := .placeholder ⟨name, []⟩

def listNamed (name : String) : Directive := .join ⟨name, []⟩ (.separator ", ")

/-- The line that expressions of a tag are written on. -/
def line : Tag → List Segment
  | .anonymousFunction =>
    [.text "(", .directive (listNamed "params"), .text ") =>", .directive (.override "anon_block")]
  | .int | .float | .boolean => [.directive (fieldNamed "value")]
  | .string => [.directive (.override "string_literal")]
  | .null => [.text "null"]
  | .regex => [.text "new Regex(", .directive (.override "verbatim_string"), .text ")"]
  | .list | .set | .array =>
    [.text "new ", .directive (.type ⟨"pseudo_type", []⟩), .text " \x7b", .directive (listNamed "elements"),
      .text "\x7d"]
  | .dictionary =>
    [.text "new ", .directive (.type ⟨"pseudo_type", []⟩), .text " \x7b", .directive (listNamed "pairs"), .text "\x7d"]
  | .tuple => [.text "Tuple.Create(", .directive (listNamed "elements"), .text ")"]
  | .localVar | .typename => [.directive (fieldNamed "name")]
  | .instanceVariable => [.text "this.", .directive (fieldNamed "name")]
  | .this => [.text "this"]
  | .attr => [.directive (fieldNamed "object"), .text ".", .directive (fieldNamed "attr")]
  | .index => [.directive (fieldNamed "sequence"), .text "[", .directive (fieldNamed "index"), .text "]"]
  | .call => [.directive (fieldNamed "function"), .text "(", .directive (listNamed "args"), .text ")"]
  | .methodCall | .staticCall =>
    [.directive (fieldNamed "receiver"), .text ".", .directive (fieldNamed "message"), .text "(",
      .directive (listNamed "args"), .text ")"]
  | .standardCall => [.directive (.override "standard_call")]
  | .standardMethodCall => [.directive (.override "standard_method_call")]
  | .newInstance =>
    [.text "new ", .directive (fieldNamed "class_name"), .text "(", .directive (listNamed "args"), .text ")"]
  | .binaryOp | .comparison =>
    [.directive (.override "left_operand"), .text " ", .directive (fieldNamed "op"), .text " ",
      .directive (.override "right_operand")]
  | .unaryOp => [.directive (fieldNamed "op"), .directive (.override "unary_operand")]
  | _ => []

def piecesOf (text : String) : List Part := text.toList.map fun c => .piece (.char c)

/-- What the line of an expression shows outside all brackets. -/
def parts : Tag → List Part
  | .anonymousFunction => .piece (.group .round) :: piecesOf " =>" ++ [.slot (.override "anon_block")]
  | .int | .float | .boolean => [.slot (fieldNamed "value")]
  | .string => [.slot (.override "string_literal")]
  | .null => piecesOf "null"
  | .regex => piecesOf "new Regex" ++ [.piece (.group .round)]
  | .list | .dictionary | .set | .array =>
    piecesOf "new " ++ .slot (.type ⟨"pseudo_type", []⟩) :: piecesOf " " ++ [.piece (.group .curly)]
  | .tuple => piecesOf "Tuple.Create" ++ [.piece (.group .round)]
  | .localVar | .typename => [.slot (fieldNamed "name")]
  | .instanceVariable => piecesOf "this" ++ [.piece (.char '.'), .slot (fieldNamed "name")]
  | .this => piecesOf "this"
  | .attr => [.slot (fieldNamed "object"), .piece (.char '.'), .slot (fieldNamed "attr")]
  | .index => [.slot (fieldNamed "sequence"), .piece (.group .square)]
  | .call => [.slot (fieldNamed "function"), .piece (.group .round)]
  | .methodCall | .staticCall =>
    [.slot (fieldNamed "receiver"), .piece (.char '.'), .slot (fieldNamed "message"), .piece (.group .round)]
  | .standardCall => [.slot (.override "standard_call")]
  | .standardMethodCall => [.slot (.override "standard_method_call")]
  | .newInstance => piecesOf "new " ++ [.slot (fieldNamed "class_name"), .piece (.group .round)]
  | .binaryOp | .comparison =>
    .slot (.override "left_operand") :: piecesOf " " ++ .slot (fieldNamed "op") :: piecesOf " " ++
      [.slot (.override "right_operand")]
  | .unaryOp => [.slot (fieldNamed "op"), .slot (.override "unary_operand")]
  | _ => []

theorem line_ne_nil (tag : Tag) (isExpression : tag.isExpression = true) : line tag ≠ [] := by
  have listed : ∀ tag ∈ Tag.expressions, line tag ≠ [] := by decide
  exact listed tag (List.contains_iff_mem.mp isExpression)

theorem outline_line (tag : Tag) (isExpression : tag.isExpression = true) :
    outline (.ofTag tag) .outermost (line tag) = some (.outermost, parts tag) := by
  have listed : ∀ tag ∈ Tag.expressions,
      outline (.ofTag tag) .outermost (line tag) = some (.outermost, parts tag) := by decide
  exact listed tag (List.contains_iff_mem.mp isExpression)

/-- What is behind a directive in the outline of a line. -/
theorem outline_tail {ground : Ground} {first : Directive} {segments : List Segment} {parts : List Part}
    (code : contextBehind first = .code)
    (outlined : outline ground .outermost (.directive first :: segments) = some (.outermost, parts)) :
    outline ground .outermost segments = some (.outermost, parts.tail) := by
  rw [outline] at outlined
  split at outlined
  case isFalse => cases outlined
  simp only [Option.bind_eq_bind, Option.bind_eq_some_iff, Option.pure_def, Option.some.injEq, Prod.mk.injEq]
    at outlined
  obtain ⟨⟨last, rest⟩, outlined, rfl, rfl⟩ := outlined
  rw [code] at outlined
  exact outlined

/-- Whether a template starts with the receiver of a call and a point. -/
def startsWithReceiver (template : Template) : Bool :=
  match template.lines.flatMap Line.segments with
  | .directive first :: .text text :: _ => first == fieldNamed "receiver" && text.toList.head? == some '.'
  | _ => false

section Operations

def Part.piece? : Part → Option Piece
  | .piece shown => some shown
  | .slot _ => none

/-- The pieces that a line shows, if no directive stands outside all brackets. -/
def pieces? (ground : Ground) (segments : List Segment) : Option (List Piece) := do
  let (last, parts) ← outline ground .outermost segments
  let pieces := parts.filterMap Part.piece?
  if last = .outermost ∧ parts = pieces.map .piece then some pieces else none

/-- The word that a row starts with, and what stands behind it. -/
def splitWord : List Piece → List Char × List Piece
  | .char c :: rest => if continuesName c then (c :: (splitWord rest).1, (splitWord rest).2) else ([], .char c :: rest)
  | pieces => ([], pieces)

/-- Whether the reader takes pieces for postfix forms. -/
def readsPostfixes (pieces : List Piece) : Bool := (Stage.closed.run pieces).any Stage.accepts

/-- Whether pieces are a name with postfix forms behind it. -/
def readsName (pieces : List Piece) : Bool :=
  decide (IsIdentifier (splitWord pieces).1) && readsPostfixes (splitWord pieces).2

/-- Whether an operation is written on one line, as a name or the receiver with postfix forms behind it. -/
def readsOperation (ground : Ground) (template : Template) : Bool :=
  match template.lines with
  | [⟨0, segments⟩] =>
    if startsWithReceiver template then
      segments.head? == some (.directive (fieldNamed "receiver")) &&
        (pieces? ground segments.tail).any fun pieces => !pieces.isEmpty && readsPostfixes pieces
    else (pieces? ground segments).any readsName
  | _ => false

theorem splitWord_eq (pieces : List Piece) : (splitWord pieces).1.map .char ++ (splitWord pieces).2 = pieces := by
  fun_induction splitWord pieces with
  | case1 c rest continues ih => rw [List.map_cons, List.cons_append, ih]
  | case2 => rfl
  | case3 => rfl

theorem postfixes_of_reads {pieces : List Piece} (reads : readsPostfixes pieces = true) : Postfixes pieces := by
  obtain ⟨after, read, accepted⟩ := (Option.any_eq_true ..).mp reads
  exact postfixes_of_run read accepted

theorem primary_of_reads {pieces : List Piece} (reads : readsName pieces = true) : Primary pieces := by
  rw [readsName, Bool.and_eq_true, decide_eq_true_eq] at reads
  rw [← splitWord_eq pieces]
  exact Primary.append (.name reads.1) (postfixes_of_reads reads.2)

theorem outline_of_pieces? {ground : Ground} {segments : List Segment} {pieces : List Piece}
    (found : pieces? ground segments = some pieces) :
    outline ground .outermost segments = some (.outermost, pieces.map .piece) := by
  simp only [pieces?, Option.bind_eq_bind, Option.bind_eq_some_iff] at found
  obtain ⟨⟨last, parts⟩, outlined, found⟩ := found
  split_ifs at found with same
  cases found
  rw [outlined, ← same.1, ← same.2]

variable {ground : Ground} {template : Template} (reads : readsOperation ground template = true)
include reads

theorem exists_of_startsWithReceiver (starts : startsWithReceiver template = true) :
    ∃ segments pieces, template = ⟨[⟨0, .directive (fieldNamed "receiver") :: segments⟩]⟩ ∧
      outline ground .outermost segments = some (.outermost, pieces.map .piece) ∧ Postfixes pieces ∧ pieces ≠ [] := by
  rw [readsOperation, starts] at reads
  split at reads
  case h_2 => cases reads
  rename_i segments only
  simp only [if_true, Bool.and_eq_true, beq_iff_eq, Option.any_eq_true, Bool.not_eq_true', List.isEmpty_eq_false_iff]
    at reads
  obtain ⟨first, pieces, found, some, reads⟩ := reads
  obtain ⟨lines⟩ := template
  obtain ⟨segments, rfl⟩ := List.head?_eq_some_iff.mp first
  cases (only : lines = _)
  exact ⟨segments, pieces, rfl, outline_of_pieces? found, postfixes_of_reads reads, some⟩

theorem exists_of_readsName (starts : startsWithReceiver template = false) :
    ∃ segments pieces, template = ⟨[⟨0, segments⟩]⟩ ∧ segments ≠ [] ∧
      outline ground .outermost segments = some (.outermost, pieces.map .piece) ∧ Primary pieces := by
  rw [readsOperation, starts] at reads
  split at reads
  case h_2 => cases reads
  rename_i segments only
  simp only [Bool.false_eq_true, if_false, Option.any_eq_true] at reads
  obtain ⟨pieces, found, reads⟩ := reads
  obtain ⟨lines⟩ := template
  cases (only : lines = _)
  have primary := primary_of_reads reads
  refine ⟨segments, pieces, rfl, ?_, outline_of_pieces? found, primary⟩
  rintro rfl
  cases found
  obtain ⟨piece, member, _⟩ := primary.visible
  cases member

end Operations

/-- An entry for an expression is its line, and operations are read. -/
def followsLines : Parsed → Bool
  | .entry tag (.template template) => !tag.isExpression || template.lines == [⟨0, line tag⟩]
  | .entry tag (.switch _) => !tag.isExpression
  | .function _ _ added => !startsWithReceiver added.template && readsOperation (.ofTag .standardCall) added.template
  | .method _ _ added => readsOperation (.ofTag .standardMethodCall) added.template
  | _ => true

section Tables

set_option maxRecDepth 8000 in
theorem templates_follow : ∀ registration ∈ templates, registration.Passes followsLines := by
  repeat
    refine List.forall_mem_cons.mpr ⟨?_, ?_⟩
    · first
      | exact Registration.passes_template _ _ (by decide)
      | exact Registration.passes_optional _ _ _ _ (by decide)
      | exact Registration.passes_switch _ _ [(_, _)] _ (by decide)
      | exact Registration.passes_switch _ _ [(_, _), (_, _), (_, _)] _ (by decide)
  exact List.forall_mem_nil _

theorem libraryFunctions_follow : ∀ registration ∈ libraryFunctions, registration.Passes followsLines := by
  repeat
    refine List.forall_mem_cons.mpr ⟨?_, ?_⟩
    · exact Registration.passes_function _ _ _ _ (by decide)
  exact List.forall_mem_nil _

theorem libraryMethods_follow : ∀ registration ∈ libraryMethods, registration.Passes followsLines := by
  repeat
    refine List.forall_mem_cons.mpr ⟨?_, ?_⟩
    · exact Registration.passes_method _ _ _ _ (by decide)
  exact List.forall_mem_nil _

theorem typeDependencies_follow : ∀ registration ∈ typeDependencies, registration.Passes followsLines := by
  repeat refine List.forall_mem_cons.mpr ⟨⟨⟨_, rfl, rfl⟩⟩, ?_⟩
  exact List.forall_mem_nil _

theorem registrations_follow (settings : LanguageSettings) :
    ∀ registration ∈ registrations settings, registration.Passes followsLines :=
  registrations_pass settings (fun found general => by cases found <;> first | rfl | cases general)
    typeDependencies_follow libraryFunctions_follow libraryMethods_follow templates_follow

end Tables

section Rendered

theorem Renderer.exists_texts_of_step (overrides : OverrideTable) (renderer : Renderer) (node : Node) (depth : Nat)
    (segments : List Segment) (some : segments ≠ []) (text : String)
    (rendered : renderer.step overrides ⟨[⟨0, segments⟩]⟩ node depth = .ok text) :
    ∃ texts, segments.mapM (renderer.segment overrides node depth) = .ok texts ∧
      (Text.isAllBlank (String.join texts).toList = false → text = String.join texts) := by
  have filled : (⟨0, segments⟩ : Line).isBlank = false := by
    cases segments with
    | nil => exact absurd rfl some
    | cons => rfl
  obtain ⟨lines, mapped, same⟩ := (bind_eq_ok_iff ..).mp rendered
  cases same
  rw [mapM_eq_ok_iff] at mapped
  obtain _ | ⟨came, _ | _⟩ := mapped
  rw [Renderer.line, filled, if_neg Bool.false_ne_true] at came
  obtain ⟨texts, mapped, same⟩ := (bind_eq_ok_iff ..).mp came
  cases same
  exact ⟨texts, mapped, layOut_single _ _ _ _⟩

/-- A visible piece makes a text visible. -/
theorem Visible.isAllBlank {chars : List Char} {first last : Position} {row : List Piece} (visible : Visible row)
    (scanned : scan first chars = some (last, row)) : Text.isAllBlank chars = false := by
  obtain ⟨piece, member, filled⟩ := visible
  exact isAllBlank_eq_false chars _ (last_mem_of_scan scanned piece member) filled

/-- A directive comes to a text, with so many expansions left. -/
abbrev Writes (built : Profile) (declared : List String) (fuel : Nat) (node : Node) (depth : Nat)
    (directive : Directive) (text : String) : Prop :=
  (Rules.rendererAt built declared fuel).directive built.overrides node depth directive = .ok text

variable {settings : LanguageSettings} {built : Profile} (builds : profile settings = .ok built)
  (basics : Basics settings built) {declared : List String} (names : ∀ name ∈ declared, IsIdentifier name.toList)
include builds basics names

theorem rendererAt_balances_of_names (fuel : Nat) : Balances (Rules.rendererAt built declared fuel) := by
  refine profile_balances builds basics (fun name listed => .plain fun c member => ?_) fuel
  exact isPlain_of_continuesName c (List.all_eq_true.mp (names name listed).rest c member)

variable {ground : Ground} {node : Node} (holds : ground.Holds node) (balanced : node.Everywhere BalancedNames)
include holds balanced

/-- The segments of a line are scanned as its outline says. -/
theorem scan_segments {fuel depth : Nat} {segments : List Segment} {parts : List Part} {position last : Position}
    (outlined : outline ground position segments = some (last, parts)) {texts : List String}
    (mapped : segments.mapM ((Rules.rendererAt built declared fuel).segment built.overrides node depth) = .ok texts) :
    ∃ row, scan position (String.join texts).toList = some (last, row) ∧
      Fills (Writes built declared fuel node depth) parts row := by
  have balances (fuel : Nat) := rendererAt_balances_of_names builds basics names fuel
  refine (balances fuel).segments balanced depth holds built.overrides (fun name override found keeps depth => ?_)
    outlined mapped
  obtain ⟨rule, listed, rfl, rfl⟩ := basics.noOthers name override found
  exact overrides_keepBalance built declared rule listed fuel (fun less _ => balances less) ground node depth holds
    keeps balanced

variable {fuel depth : Nat} {text : String}

theorem exists_row_of_expand {segments : List Segment} {parts : List Part} (some : segments ≠ [])
    (outlined : outline ground .outermost segments = .some (.outermost, parts))
    (rendered : (Rules.rendererAt built declared fuel).expand ⟨[⟨0, segments⟩]⟩ node depth = .ok text) :
    ∃ less row, fuel = less + 1 ∧ (Visible row → Shows text.toList row) ∧
      Fills (Writes built declared less node depth) parts row := by
  cases fuel with
  | zero => cases rendered
  | succ less =>
    obtain ⟨texts, mapped, joined⟩ := Renderer.exists_texts_of_step _ _ node depth segments some text rendered
    obtain ⟨row, shows, fills⟩ := scan_segments builds basics names holds balanced outlined mapped
    refine ⟨less, row, rfl, fun visible => ?_, fills⟩
    rwa [joined (visible.isAllBlank shows)]

/-- A line that starts with a directive is its text, and what shows behind it. -/
theorem exists_split_of_expand {first : Directive} {segments : List Segment} {parts : List Part}
    (outlined : outline ground .outermost segments = .some (.outermost, parts))
    (rendered : (Rules.rendererAt built declared fuel).expand ⟨[⟨0, .directive first :: segments⟩]⟩ node depth =
      .ok text) :
    ∃ less front back tail, fuel = less + 1 ∧ Shows back.toList tail ∧ (Visible tail → text = front ++ back) ∧
      Writes built declared less node depth first front ∧ Fills (Writes built declared less node depth) parts tail := by
  cases fuel with
  | zero => cases rendered
  | succ less =>
    obtain ⟨texts, mapped, joined⟩ :=
      Renderer.exists_texts_of_step _ _ node depth (.directive first :: segments) nofun text rendered
    rw [mapM_eq_ok_iff] at mapped
    obtain _ | @⟨_, front, _, others, written, matched⟩ := mapped
    have mapped := (mapM_eq_ok_iff ..).mpr matched
    obtain ⟨tail, shows, fills⟩ := scan_segments builds basics names holds balanced outlined mapped
    refine ⟨less, front, String.join others, tail, rfl, shows, fun visible => ?_, written, fills⟩
    rw [String.join_cons] at joined
    refine joined ?_
    rw [isAllBlank_append, visible.isAllBlank shows, Bool.and_false]

end Rendered

end CSharp
end Retarget
