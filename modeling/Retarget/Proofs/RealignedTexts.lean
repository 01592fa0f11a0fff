import Retarget.Proofs.MatchedRuns
import Retarget.Proofs.ShiftedTexts

/-! Realigned texts: two texts that differ in the spaces and tabs behind line feeds and in nothing else. The relation
holds of what is laid out from lines that are realigned, whatever the margins and the depths of the lines are, for
no margin decides whether a line stays. -/
namespace Retarget

/-- Two texts whose lines are the same, but for the spaces and tabs in front of them. -/
inductive Realigned : List Char → List Char → Prop
  | nil : Realigned [] []
  | char {text other : List Char} (c : Char) : Realigned text other → Realigned (c :: text) (c :: other)
  | line {text other front back : List Char} (spaces : front.all Text.isSpaceOrTab = true)
      (otherSpaces : back.all Text.isSpaceOrTab = true) :
      Realigned text other → Realigned ('\n' :: (front ++ text)) ('\n' :: (back ++ other))

namespace Text

/-- The lines of a text, without the spaces and tabs in front of them. -/
def leftAligned (text : List Char) : List (List Char) := (splitOn '\n' text).map (List.dropWhile isSpaceOrTab)

theorem dropWhile_append_left (front line : List Char) (spaces : front.all isSpaceOrTab = true) :
    (front ++ line).dropWhile isSpaceOrTab = line.dropWhile isSpaceOrTab := by
  have none : front.dropWhile isSpaceOrTab = [] := List.dropWhile_eq_nil_iff.mpr (List.all_eq_true.mp spaces)
  rw [List.dropWhile_append, none]
  rfl

theorem isBlank_of_isSpaceOrTab (c : Char) (space : isSpaceOrTab c = true) : isBlank c = true := by
  rw [isSpaceOrTab, Bool.or_eq_true, beq_iff_eq, beq_iff_eq] at space
  rcases space with rfl | rfl <;> decide

theorem isAllBlank_of_all_isSpaceOrTab (front : List Char) (spaces : front.all isSpaceOrTab = true) :
    isAllBlank front = true :=
  List.all_eq_true.mpr fun c member => isBlank_of_isSpaceOrTab c (List.all_eq_true.mp spaces c member)

theorem trimEnd_of_isAllBlank (text : List Char) (blank : isAllBlank text = true) : trimEnd text = [] := by
  have none : text.reverse.dropWhile isBlank = [] := by
    rw [List.dropWhile_eq_nil_iff]
    exact fun c member => List.all_eq_true.mp blank c (List.mem_reverse.mp member)
  rw [trimEnd, none]
  rfl

/-- Blanks are taken from the end of the later part, and from the former one only if the later is blank. -/
theorem trimEnd_append (front text : List Char) :
    trimEnd (front ++ text) = if isAllBlank text then trimEnd front else front ++ trimEnd text := by
  have stripped : text.reverse.dropWhile isBlank = [] ↔ isAllBlank text = true := by
    simp [isAllBlank]
  rw [trimEnd, List.reverse_append, List.dropWhile_append]
  simp only [List.isEmpty_iff, stripped]
  split
  · rfl
  · rw [List.reverse_append, List.reverse_reverse]
    rfl

end Text

namespace Realigned

variable {text other rest others : List Char}

theorem refl (text : List Char) : Realigned text text := by
  induction text with
  | nil => exact .nil
  | cons c rest ih => exact ih.char c

theorem append (related : Realigned text other) (following : Realigned rest others) :
    Realigned (text ++ rest) (other ++ others) := by
  induction related with
  | nil => exact following
  | char c _ ih => exact ih.char c
  | line spaces otherSpaces _ ih =>
    simp only [List.cons_append, List.append_assoc]
    exact ih.line spaces otherSpaces

theorem isAllBlank_eq (related : Realigned text other) : Text.isAllBlank text = Text.isAllBlank other := by
  have blank {front : List Char} (spaces : front.all Text.isSpaceOrTab = true) : front.all Text.isBlank = true :=
    Text.isAllBlank_of_all_isSpaceOrTab front spaces
  simp only [Text.isAllBlank]
  induction related with
  | nil => rfl
  | char c _ ih => simp [ih]
  | line spaces otherSpaces _ ih =>
    rw [List.all_cons, List.all_cons, List.all_append, List.all_append, blank spaces, blank otherSpaces, ih]

/-- What is left of realigned texts without the blanks at their ends. -/
theorem trimEnd (related : Realigned text other) : Realigned (Text.trimEnd text) (Text.trimEnd other) := by
  induction related with
  | nil => exact .nil
  | @char text other c inner ih =>
    rw [← List.singleton_append, ← List.singleton_append (l := other), Text.trimEnd_append, Text.trimEnd_append,
      inner.isAllBlank_eq]
    split
    · exact refl _
    · exact ih.char c
  | @line text other front back spaces otherSpaces inner ih =>
    have blank {front : List Char} (spaces : front.all Text.isSpaceOrTab = true) :
        Text.trimEnd ('\n' :: front) = [] :=
      Text.trimEnd_of_isAllBlank _ (by
        rw [Text.isAllBlank, List.all_cons, ← Text.isAllBlank, Text.isAllBlank_of_all_isSpaceOrTab front spaces]
        rfl)
    rw [← List.cons_append, ← List.cons_append, Text.trimEnd_append, Text.trimEnd_append, inner.isAllBlank_eq,
      blank spaces, blank otherSpaces]
    split
    · exact .nil
    · exact ih.line spaces otherSpaces

/-- The first lines are the same, and the others are so without the spaces and tabs in front of them. -/
theorem splitOn (related : Realigned text other) :
    ∃ first pieces lines, Text.splitOn '\n' text = first :: pieces ∧ Text.splitOn '\n' other = first :: lines ∧
      pieces.map (List.dropWhile Text.isSpaceOrTab) = lines.map (List.dropWhile Text.isSpaceOrTab) := by
  induction related with
  | nil => exact ⟨[], [], [], rfl, rfl, rfl⟩
  | @char text other c _ ih =>
    obtain ⟨first, pieces, lines, split, splitOther, same⟩ := ih
    by_cases feed : c = '\n'
    · subst feed
      refine ⟨[], first :: pieces, first :: lines, ?_, ?_, ?_⟩
      · rw [Text.splitOn_cons_self, split]
      · rw [Text.splitOn_cons_self, splitOther]
      · rw [List.map_cons, List.map_cons, same]
    · have alone : '\n' ∉ [c] := by simpa using Ne.symm feed
      exact ⟨c :: first, pieces, lines, Text.splitOn_append '\n' [c] _ _ _ alone split,
        Text.splitOn_append '\n' [c] _ _ _ alone splitOther, same⟩
  | @line text other front back spaces otherSpaces _ ih =>
    obtain ⟨first, pieces, lines, split, splitOther, same⟩ := ih
    have clean := Text.notMem_of_all_isSpaceOrTab front spaces
    have otherClean := Text.notMem_of_all_isSpaceOrTab back otherSpaces
    refine ⟨[], (front ++ first) :: pieces, (back ++ first) :: lines, ?_, ?_, ?_⟩
    · rw [Text.splitOn_cons_self, Text.splitOn_append '\n' front _ _ _ clean split]
    · rw [Text.splitOn_cons_self, Text.splitOn_append '\n' back _ _ _ otherClean splitOther]
    · rw [List.map_cons, List.map_cons, Text.dropWhile_append_left front first spaces,
        Text.dropWhile_append_left back first otherSpaces, same]

theorem leftAligned_eq (related : Realigned text other) : Text.leftAligned text = Text.leftAligned other := by
  obtain ⟨first, pieces, lines, split, splitOther, same⟩ := related.splitOn
  rw [Text.leftAligned, Text.leftAligned, split, splitOther, List.map_cons, List.map_cons, same]

end Realigned

section Strings

/-- Realigned strings. -/
abbrev SameLines (text other : String) : Prop := Realigned text.toList other.toList

namespace SameLines

variable {text other rest others : String}

theorem refl (text : String) : SameLines text text := Realigned.refl text.toList

theorem append (same : SameLines text other) (following : SameLines rest others) :
    SameLines (text ++ rest) (other ++ others) := by
  simpa [SameLines] using Realigned.append same following

variable (indent otherIndent : Indent) (depth otherDepth : Nat)

/-- A line feed with any margin behind it. -/
theorem lineBreak : SameLines ("\n" ++ indent.margin depth) ("\n" ++ otherIndent.margin otherDepth) := by
  simpa [SameLines] using Realigned.nil.line (indent.all_margin depth) (otherIndent.all_margin otherDepth)

theorem blankLine : SameLines ("\n\n" ++ indent.margin depth) ("\n\n" ++ otherIndent.margin otherDepth) := by
  simpa [SameLines] using (Realigned.nil.line (indent.all_margin depth) (otherIndent.all_margin otherDepth)).char '\n'

end SameLines

end Strings

section Layout

variable (indent otherIndent : Indent) {depths : Nat → Nat → Prop} {lines others : List RenderedLine}
  (related : List.Forall₂ (LikeLine SameLines depths) lines others)
include related

theorem tail_kept_realigned (afterDirective pending dropped : Bool) :
    Realigned (OutputLine.tail indent (RenderedLine.kept afterDirective pending dropped lines))
      (OutputLine.tail otherIndent (RenderedLine.kept afterDirective pending dropped others)) := by
  induction related generalizing afterDirective pending dropped with
  | nil => exact .nil
  | cons here _ ih =>
    cases here with
    | blank => exact ih _ _ _
    | @content depth otherDepth hasDirective text other _ same =>
      simp only [RenderedLine.kept, same.isAllBlank_eq]
      split
      · exact ih _ _ _
      · have inner := (Realigned.append same (ih hasDirective false false)).line (indent.all_margin depth)
          (otherIndent.all_margin otherDepth)
        split
        all_goals simp only [OutputLine.tail_blank, OutputLine.tail_filled]
        · exact inner.char '\n'
        · exact inner

/-- Lines are laid out alike, whatever the indentation is. The first line that stays has no blank one before it. -/
theorem layOut_realigned : SameLines (layOut indent lines) (layOut otherIndent others) := by
  have start (dropped : Bool) : SameLines (OutputLine.join indent (RenderedLine.kept false false dropped lines))
      (OutputLine.join otherIndent (RenderedLine.kept false false dropped others)) := by
    induction related generalizing dropped with
    | nil => exact .refl ""
    | cons here rest ih =>
      cases here with
      | blank => exact ih _
      | @content depth otherDepth hasDirective text other _ same =>
        simp only [RenderedLine.kept, same.isAllBlank_eq]
        split
        · exact ih _
        · simp only [SameLines, Bool.false_and, Bool.false_eq_true, if_false, OutputLine.toList_join,
            OutputLine.unindented]
          exact Realigned.append same (tail_kept_realigned indent otherIndent rest hasDirective false false)
  exact start false

/-- Under any two indentations, at any depths, lines stay the same. -/
def Likeness.realigned : Likeness indent otherIndent where
  texts := SameLines
  depths _ _ := True
  refl := .refl
  append := .append
  deeper _ _ := trivial
  lineBreak _ := .lineBreak indent otherIndent _ _
  blankLine _ := .blankLine indent otherIndent _ _
  layOut := layOut_realigned indent otherIndent

end Layout
end Retarget
