import Retarget.Proofs.OperatorTrees
import Retarget.Proofs.RealignedTexts

/-! What a rendered template contains: the texts of its segments, each as it was rendered. So a line of nothing but
indentation that some block comes to is in every text around it. -/
namespace Retarget

section Layout

theorem infix_join {part : String} {parts : List String} (listed : part ∈ parts) :
    part.toList <:+: (String.join parts).toList := by
  obtain ⟨before, after, rfl⟩ := List.append_of_mem listed
  refine ⟨(String.join before).toList, (String.join after).toList, ?_⟩
  simp [String.join_append, String.join_cons]

theorem isAllBlank_eq_false_of_infix {part text : List Char} (within : part <:+: text)
    (filled : Text.isAllBlank part = false) : Text.isAllBlank text = false := by
  obtain ⟨before, after, rfl⟩ := within
  rw [Text.isAllBlank] at filled ⊢
  rw [List.all_append, List.all_append, filled, Bool.and_false, Bool.false_and]

namespace RenderedLine

/-- A line that is not blank stays. -/
theorem filled_mem_kept {depth : Nat} {hasDirective : Bool} {text : String} {lines : List RenderedLine}
    (listed : .content depth hasDirective text ∈ lines) (filled : Text.isAllBlank text.toList = false)
    (afterDirective pending dropped : Bool) :
    OutputLine.filled depth text ∈ kept afterDirective pending dropped lines := by
  induction lines generalizing afterDirective pending dropped with
  | nil => cases listed
  | cons first rest ih =>
    cases first with
    | blank => exact ih ((List.mem_cons.mp listed).resolve_left nofun) _ _ _
    | content other otherDirective otherText =>
      rw [kept]
      split
      · rename_i blank
        rcases List.mem_cons.mp listed with same | later
        · cases same
          rw [filled, Bool.and_false] at blank
          cases blank
        · exact ih later _ _ _
      · have stays : OutputLine.filled depth text ∈
            OutputLine.filled other otherText :: kept otherDirective false false rest := by
          rcases List.mem_cons.mp listed with same | later
          · cases same
            exact List.mem_cons_self
          · exact List.mem_cons_of_mem _ (ih later _ _ _)
        split
        · exact List.mem_cons_of_mem _ stays
        · exact stays

end RenderedLine

theorem OutputLine.infix_tail (indent : Indent) {depth : Nat} {text : String} {lines : List OutputLine}
    (listed : .filled depth text ∈ lines) : text.toList <:+: tail indent lines := by
  obtain ⟨before, after, rfl⟩ := List.append_of_mem listed
  refine ⟨tail indent before ++ '\n' :: (indent.margin depth).toList, tail indent after, ?_⟩
  simp [tail, indented]

theorem OutputLine.infix_join (indent : Indent) {depth : Nat} {text : String} {lines : List OutputLine}
    (listed : .filled depth text ∈ lines) : text.toList <:+: (join indent lines).toList := by
  cases lines with
  | nil => cases listed
  | cons first rest =>
    rw [toList_join]
    rcases List.mem_cons.mp listed with rfl | later
    · exact (List.prefix_append _ _).isInfix
    · exact (infix_tail indent later).trans (List.suffix_append _ _).isInfix

theorem Renderer.segment_join (overrides : OverrideTable) (renderer : Renderer) (node : Node) (depth : Nat)
    (name : String) (mode : JoinMode) (nodes : List Node) (stored : node.attr? name = some (.nodes nodes)) :
    renderer.segment overrides node depth (.directive (.join ⟨name, []⟩ mode)) =
      renderer.renderBlock nodes depth mode := by
  have resolved : node.resolve ⟨name, []⟩ = .ok ⟨node.tag, name, .nodes nodes⟩ := by
    simp only [Node.resolve, Node.resolveFrom, stored]
  rw [segment, directive, resolved]
  rfl

/-- The segments of a template come to texts if it does, and it contains those that can be seen. -/
theorem Renderer.exists_part_of_step (overrides : OverrideTable) (renderer : Renderer) (node : Node) (depth : Nat)
    (template : Template) (line : Line) (listed : line ∈ template.lines) (segment : Segment)
    (within : segment ∈ line.segments) {text : String}
    (rendered : renderer.step overrides template node depth = .ok text) :
    ∃ part, renderer.segment overrides node (depth + line.level) segment = .ok part ∧
      (Text.isAllBlank part.toList = false → part.toList <:+: text.toList) := by
  obtain ⟨lines, eachLine, laid⟩ := (bind_eq_ok_iff _ _ _).mp rendered
  cases laid
  obtain ⟨output, among, renderedLine⟩ := exists_of_forall₂ ((mapM_eq_ok_iff _ _ _).mp eachLine) line listed
  have whole : line.isBlank = false := by
    rw [Line.isBlank, List.isEmpty_eq_false_iff]
    exact List.ne_nil_of_mem within
  rw [Renderer.line, whole] at renderedLine
  obtain ⟨parts, eachSegment, same⟩ := (bind_eq_ok_iff _ _ _).mp renderedLine
  cases same
  obtain ⟨part, member, renderedSegment⟩ := exists_of_forall₂ ((mapM_eq_ok_iff _ _ _).mp eachSegment) segment within
  refine ⟨part, renderedSegment, fun filled => ?_⟩
  have inLine := infix_join member
  have stays := isAllBlank_eq_false_of_infix inLine filled
  exact inLine.trans (OutputLine.infix_join _ (RenderedLine.filled_mem_kept among stays false false false))

theorem Renderer.infix_of_step (overrides : OverrideTable) (renderer : Renderer) (node : Node) (depth : Nat)
    (template : Template) (line : Line) (listed : line ∈ template.lines) (segment : Segment)
    (within : segment ∈ line.segments) {text part : String}
    (rendered : renderer.step overrides template node depth = .ok text)
    (piece : renderer.segment overrides node (depth + line.level) segment = .ok part)
    (filled : Text.isAllBlank part.toList = false) : part.toList <:+: text.toList := by
  obtain ⟨other, same, contained⟩ :=
    exists_part_of_step overrides renderer node depth template line listed segment within rendered
  cases piece.symm.trans same
  exact contained filled

end Layout

section Lines

namespace Text

theorem splitOn_append_cons (separator : Char) (front rest : List Char) :
    splitOn separator (front ++ separator :: rest) = splitOn separator front ++ splitOn separator rest := by
  induction front with
  | nil => exact splitOn_cons_self separator rest
  | cons c front ih =>
    by_cases same : c = separator
    · subst same
      rw [List.cons_append, splitOn_cons_self, splitOn_cons_self, ih, List.cons_append]
    · obtain ⟨first, pieces, split, whole⟩ := splitOn_cons_other separator c same front
      obtain ⟨other, others, splitAll, wholeAll⟩ := splitOn_cons_other separator c same (front ++ separator :: rest)
      rw [ih, split, List.cons_append] at splitAll
      cases splitAll
      rw [List.cons_append, wholeAll, whole, List.cons_append]

/-- What stands between two separators is a piece. -/
theorem mem_splitOn_of_infix (separator : Char) {piece text : List Char} (clean : separator ∉ piece)
    (within : separator :: piece ++ [separator] <:+: text) : piece ∈ splitOn separator text := by
  obtain ⟨before, after, rfl⟩ := within
  have apart : before ++ (separator :: piece ++ [separator]) ++ after =
      before ++ separator :: (piece ++ separator :: after) := by simp
  have alone : splitOn separator piece = [piece] := by
    simpa using splitOn_append separator piece [] [] [] clean rfl
  rw [apart, splitOn_append_cons, splitOn_append_cons, alone]
  simp

/-- What ends in a visible character is in a text without the blanks at its end. -/
theorem infix_trimEnd {piece text : List Char} {c : Char} (visible : isBlank c = false)
    (within : piece ++ [c] <:+: text) : piece ++ [c] <:+: trimEnd text := by
  obtain ⟨before, after, rfl⟩ := within
  have stands : trimEnd (piece ++ [c]) = piece ++ [c] := trimEnd_eq_self _ fun last ends => by
    rw [List.getLast?_concat, Option.some.injEq] at ends
    exact ends ▸ visible
  have filled : isAllBlank (piece ++ [c]) = false := by
    rw [isAllBlank, List.all_append]
    simp [visible]
  rw [trimEnd_append]
  split
  · rw [trimEnd_append, filled, stands]
    exact (List.suffix_append _ _).isInfix
  · exact ⟨before, trimEnd after, rfl⟩

end Text

end Lines

end Retarget
