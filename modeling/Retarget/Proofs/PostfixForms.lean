import Retarget.Proofs.LooseExpressions

/-! Postfix forms in C#. What is written behind the operand of a form shows postfix forms outside all brackets, whether
its line has them or its template in the library. -/
namespace Retarget
namespace CSharp

open Node

section Built

variable {settings : LanguageSettings} {built : Profile} (builds : profile settings = .ok built)
  (basics : Basics settings built) {declared : List String} (names : ∀ name ∈ declared, IsIdentifier name.toList)
include builds

theorem tables_follow : built.toTarget.Holds fun found => followsLines found = true :=
  Profile.holds_of_build builds fun registration among => (registrations_follow settings registration among).check_eq

variable {node operand : Node} {fuel depth : Nat} {text : String}

/-- An expression is written on its line. -/
theorem expand_line (isExpression : node.tag.isExpression = true)
    (rendered : (Rules.rendererAt built declared fuel).render node depth = .ok text) :
    (Rules.rendererAt built declared fuel).expand ⟨[⟨0, line node.tag⟩]⟩ node depth = .ok text := by
  rw [Renderer.render] at rendered
  split at rendered
  · cases rendered
  · rename_i template stored
    have follows := (tables_follow builds).entries node.tag _ stored
    simp only [followsLines, isExpression, Bool.not_true, Bool.false_or, beq_iff_eq] at follows
    obtain ⟨lines⟩ := template
    cases (follows : lines = _)
    exact rendered
  · rename_i switch stored
    have follows := (tables_follow builds).entries node.tag _ stored
    simp only [followsLines, isExpression] at follows
    cases follows

/-- An expression is written as the texts of its line. -/
theorem exists_texts (isExpression : node.tag.isExpression = true)
    (rendered : (Rules.rendererAt built declared fuel).render node depth = .ok text) :
    ∃ less texts, fuel = less + 1 ∧
      List.Forall₂ (fun segment text =>
        (Rules.rendererAt built declared less).segment built.overrides node depth segment = .ok text)
        (line node.tag) texts ∧
      (Text.isAllBlank (String.join texts).toList = false → text = String.join texts) := by
  have expanded := expand_line builds isExpression rendered
  cases fuel with
  | zero => cases expanded
  | succ less =>
    obtain ⟨texts, mapped, joined⟩ :=
      Renderer.exists_texts_of_step _ _ node depth _ (line_ne_nil node.tag isExpression) text expanded
    exact ⟨less, texts, rfl, (mapM_eq_ok_iff ..).mp mapped, joined⟩

/-- What is written as one directive is the text of the directive. -/
theorem exists_of_single (isExpression : node.tag.isExpression = true) {directive : Directive}
    (single : line node.tag = [.directive directive])
    (rendered : (Rules.rendererAt built declared fuel).render node depth = .ok text) :
    ∃ less whole, fuel = less + 1 ∧ Writes built declared less node depth directive whole ∧
      (Text.isAllBlank whole.toList = false → text = whole) := by
  obtain ⟨less, texts, rfl, written, joined⟩ := exists_texts builds isExpression rendered
  rw [single] at written
  obtain _ | @⟨_, whole, _, _, written, _ | _⟩ := written
  rw [String.join_cons, String.join_nil, String.append_empty] at joined
  exact ⟨less, whole, rfl, written, joined⟩

include basics names
variable (spelled : node.Everywhere Spelled)
include spelled

omit builds basics names in
theorem balanced_of_spelled : node.Everywhere BalancedNames := fun inner below => (spelled inner below).balanced

theorem exists_row (isExpression : node.tag.isExpression = true)
    (rendered : (Rules.rendererAt built declared fuel).render node depth = .ok text) :
    ∃ less row, fuel = less + 1 ∧ (Visible row → Shows text.toList row) ∧
      Fills (Writes built declared less node depth) (parts node.tag) row := by
  exact exists_row_of_expand builds basics names (Ground.holds_ofTag node) (balanced_of_spelled spelled)
    (line_ne_nil node.tag isExpression) (outline_line node.tag isExpression) (expand_line builds isExpression rendered)

omit builds basics names spelled in
/-- What a field is written as stands where its slot is. -/
theorem exists_of_field {less : Nat} {name word : String} {field : Field Node} {own row : List Piece}
    {parts : List Part} (stored : node.attr? name = some field)
    (placed : (Rules.rendererAt built declared less).place ⟨node.tag, name, field⟩ depth = .ok word)
    (shows : Shows word.toList own)
    (fills : Fills (Writes built declared less node depth) (.slot (fieldNamed name) :: parts) row) :
    ∃ rest, Fills (Writes built declared less node depth) parts rest ∧ row = own ++ rest := by
  obtain ⟨text, shown, rest, written, completes, later, rfl⟩ := fills.exists_of_slot
  have placeholder := Renderer.segment_placeholder built.overrides (Rules.rendererAt built declared less) node depth
    name _ stored
  cases (placed.symm.trans placeholder.symm).trans written
  rw [Shows.unique completes shows]
  exact ⟨rest, later, rfl⟩

omit builds basics names spelled in
theorem exists_of_name {less : Nat} {name word : String} {parts : List Part} {row : List Piece}
    (stored : node.attr? name = some (.text word)) (isWord : IsWord word.toList)
    (fills : Fills (Writes built declared less node depth) (.slot (fieldNamed name) :: parts) row) :
    ∃ rest, Fills (Writes built declared less node depth) parts rest ∧ row = word.toList.map .char ++ rest :=
  exists_of_field stored rfl (shows_of_isWord isWord) fills

/-- The text of an expression, with postfix forms behind it. -/
def Applied (built : Profile) (declared : List String) (fuel : Nat) (operand : Node) (depth : Nat)
    (text : String) : Prop :=
  ∃ less front back forms, less < fuel ∧ (Rules.rendererAt built declared less).render operand depth = .ok front ∧
    text = front ++ back ∧ Shows back.toList forms ∧ Postfixes forms ∧ forms ≠ []

theorem applied_of_line (isExpression : node.tag.isExpression = true) {name : String} {segments : List Segment}
    (starts : line node.tag = .directive (fieldNamed name) :: segments)
    (stored : node.attr? name = some (.node operand))
    (forms : ∀ less tail, Fills (Writes built declared less node depth) (parts node.tag).tail tail →
      Postfixes tail ∧ tail ≠ [])
    (rendered : (Rules.rendererAt built declared fuel).render node depth = .ok text) :
    Applied built declared fuel operand depth text := by
  have expanded := expand_line builds isExpression rendered
  have outlined := outline_line node.tag isExpression
  rw [starts] at expanded outlined
  obtain ⟨less, front, back, tail, rfl, shows, joined, written, fills⟩ :=
    exists_split_of_expand builds basics names (Ground.holds_ofTag node) (balanced_of_spelled spelled)
      (outline_tail rfl outlined) expanded
  obtain ⟨postfixes, some⟩ := forms less tail fills
  have placed := Renderer.segment_placeholder built.overrides (Rules.rendererAt built declared less) node depth name _
    stored
  exact ⟨less, front, back, tail, Nat.lt_succ_self less, placed.symm.trans written, joined (postfixes.visible some),
    shows, postfixes, some⟩

omit builds basics names spelled in
/-- A call that is written is in the library. -/
theorem exists_entry {less : Nat} {name label whole : String} {override : Override} {listed : Option LibraryEntry}
    (registered : built.overrides.get? name = some override)
    (calls : override (Rules.rendererAt built declared less) node depth =
      libraryCall (Rules.rendererAt built declared less) listed label node depth)
    (written : Writes built declared less node depth (.override name) whole) :
    ∃ entry, listed = some entry ∧
      (Rules.rendererAt built declared less).expand entry.template node depth = .ok whole := by
  have called := (calls.symm.trans (Renderer.segment_override _ _ _ depth _ _ registered).symm).trans written
  cases listed with
  | none => cases called
  | some entry => exact ⟨entry, rfl, called⟩

omit spelled in
/-- The operation of a library method is written behind the receiver, if its template starts with that. -/
theorem applied_of_operation (receiver : Node) (message : String) (args : List Node) (type : SemType)
    (spelled : Everywhere Spelled ⟨.standardMethodCall receiver message args, type⟩) (entry : LibraryEntry)
    (found : built.library.method? receiver.type.baseName message = some entry)
    (starts : startsWithReceiver entry.template = true)
    (rendered : (Rules.rendererAt built declared fuel).render ⟨.standardMethodCall receiver message args, type⟩ depth =
      .ok text) :
    Applied built declared fuel receiver depth text := by
  obtain ⟨less, whole, rfl, written, kept⟩ := exists_of_single builds rfl rfl rendered
  obtain ⟨_, alsoFound, expanded⟩ := exists_entry (basics.override "standard_method_call" _ rfl) rfl written
  cases found.symm.trans alsoFound
  obtain ⟨segments, pieces, same, outlined, postfixes, some⟩ :=
    exists_of_startsWithReceiver ((tables_follow builds).methods _ _ entry found) starts
  rw [same] at expanded
  obtain ⟨less, front, back, tail, rfl, shows, joined, written, fills⟩ :=
    exists_split_of_expand builds basics names (Ground.holds_ofTag _) (balanced_of_spelled spelled) outlined expanded
  cases fills.eq_of_pieces pieces
  have visible := postfixes.visible some
  have filled : Text.isAllBlank (front ++ back).toList = false := by
    rw [isAllBlank_append, visible.isAllBlank shows, Bool.and_false]
  rw [← joined visible] at filled
  rw [kept filled]
  refine ⟨less, front, back, pieces, by omega, ?_, joined visible, shows, postfixes, some⟩
  exact (Renderer.segment_placeholder built.overrides (Rules.rendererAt built declared less)
    ⟨.standardMethodCall receiver message args, type⟩ depth "receiver" (.node receiver) rfl).symm.trans written

theorem applied_of_postfixOperand? (applied : node.postfixOperand? built.library = some operand)
    (rendered : (Rules.rendererAt built declared fuel).render node depth = .ok text) :
    Applied built declared fuel operand depth text := by
  have identifiers := spelled.self.names
  obtain ⟨kind, type⟩ := node
  cases kind with
  | attr object member =>
    cases applied
    have isWord := (identifiers rfl member List.mem_cons_self).toIsWord
    refine applied_of_line builds basics names spelled rfl rfl rfl (fun less tail fills => ?_) rendered
    obtain ⟨tail, behind, rfl⟩ := fills.exists_of_piece
    obtain ⟨rest, ends, rfl⟩ := exists_of_name rfl isWord behind
    cases ends.eq_of_nil
    rw [List.append_nil]
    exact ⟨.concat .nil (.member isWord), nofun⟩
  | index sequence subscript =>
    cases applied
    refine applied_of_line builds basics names spelled rfl rfl rfl (fun less tail fills => ?_) rendered
    cases fills.eq_of_pieces [.group .square]
    exact ⟨.concat .nil .index, nofun⟩
  | call function args =>
    cases applied
    refine applied_of_line builds basics names spelled rfl rfl rfl (fun less tail fills => ?_) rendered
    cases fills.eq_of_pieces [.group .round]
    exact ⟨.concat .nil .call, nofun⟩
  | methodCall receiver message args | staticCall receiver message args =>
    cases applied
    have isWord := (identifiers rfl message List.mem_cons_self).toIsWord
    refine applied_of_line builds basics names spelled rfl rfl rfl (fun less tail fills => ?_) rendered
    obtain ⟨tail, behind, rfl⟩ := fills.exists_of_piece
    obtain ⟨rest, ends, rfl⟩ := exists_of_name rfl isWord behind
    cases ends.eq_of_pieces [.group .round]
    exact ⟨.concat (.concat .nil (.member isWord)) .call, nofun⟩
  | standardMethodCall receiver message args =>
    simp only [postfixOperand?] at applied
    split_ifs at applied with starts
    cases applied
    obtain ⟨entry, found, starts⟩ := (Option.any_eq_true ..).mp starts
    exact applied_of_operation builds basics names operand message args type spelled entry found starts rendered
  | _ => cases applied

end Built

end CSharp
end Retarget
