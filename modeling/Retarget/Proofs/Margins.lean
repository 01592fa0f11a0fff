import Mathlib.Data.List.DropRight
import Retarget.Proofs.ByteOffsets

/-! Margins of template sources. Moving all lines of a source in by the same number of spaces moves the margin by as
many, and blank lines around it are passed over, so the template that is read is the same, or the error is. -/
namespace Retarget

/-- A source line moved in, if anything is on it. -/
def moveIn (spaces : Nat) (line : List Char) : List Char :=
  if Text.isAllBlank line then line else List.replicate spaces ' ' ++ line

section Lines

variable (spaces : Nat)

theorem moveIn_inked (line : List Char) (inked : Text.isAllBlank line = false) :
    moveIn spaces line = List.replicate spaces ' ' ++ line :=
  if_neg (by simp [inked])

@[simp]
theorem isAllBlank_moveIn (line : List Char) : Text.isAllBlank (moveIn spaces line) = Text.isAllBlank line := by
  cases ink : Text.isAllBlank line with
  | true => rw [moveIn, if_pos ink, ink]
  | false =>
    rw [moveIn_inked spaces line ink, Text.isAllBlank, List.all_append]
    change (_ && Text.isAllBlank line) = false
    rw [ink, Bool.and_false]

theorem leadingSpaces_moveIn (line : List Char) (inked : Text.isAllBlank line = false) :
    leadingSpaces (moveIn spaces line) = spaces + leadingSpaces line := by
  rw [moveIn_inked spaces line inked, leadingSpaces, leadingSpaces, List.takeWhile_append_of_pos (by simp),
    List.length_append, List.length_replicate]

theorem drop_moveIn (line : List Char) (inked : Text.isAllBlank line = false) :
    (moveIn spaces line).drop (spaces + leadingSpaces line) = line.drop (leadingSpaces line) := by
  rw [← leadingSpaces_moveIn spaces line inked, drop_leadingSpaces, drop_leadingSpaces,
    moveIn_inked spaces line inked, List.dropWhile_append_of_pos (by simp)]

theorem margin_moveIn (lines : List (List Char)) (some : ∃ line ∈ lines, Text.isAllBlank line = false) :
    margin (lines.map (moveIn spaces)) = spaces + margin lines := by
  obtain ⟨⟨line, listed, inked, least⟩, lowest⟩ := margin_spec lines some
  have moved : ∃ line ∈ lines.map (moveIn spaces), Text.isAllBlank line = false :=
    ⟨_, List.mem_map_of_mem listed, by rw [isAllBlank_moveIn, inked]⟩
  obtain ⟨⟨other, otherListed, otherInked, otherLeast⟩, otherLowest⟩ := margin_spec _ moved
  refine Nat.le_antisymm ?_ ?_
  · calc margin (lines.map (moveIn spaces))
        ≤ leadingSpaces (moveIn spaces line) :=
          otherLowest _ (List.mem_map_of_mem listed) (by rw [isAllBlank_moveIn, inked])
      _ = spaces + margin lines := by rw [leadingSpaces_moveIn spaces line inked, least]
  · obtain ⟨before, beforeListed, rfl⟩ := List.mem_map.mp otherListed
    rw [isAllBlank_moveIn] at otherInked
    rw [← otherLeast, leadingSpaces_moveIn spaces before otherInked]
    exact Nat.add_le_add_left (lowest before beforeListed otherInked) spaces

/-- A line that is moved in with the margin is read as before. -/
theorem Line.parse_moveIn (owner : String) (margin : Nat) (line : List Char) (inked : Text.isAllBlank line = false) :
    Line.parse owner (spaces + margin) (moveIn spaces line) = Line.parse owner margin line := by
  have level : spaces + leadingSpaces line - (spaces + margin) = leadingSpaces line - margin := by omega
  rw [Line.parse, Line.parse, if_neg (by simp [inked]), if_neg (by simp [inked])]
  simp only [leadingSpaces_moveIn spaces line inked, drop_moveIn spaces line inked, level]

theorem Line.parse_blank (owner : String) (margin : Nat) (line : List Char) (blank : Text.isAllBlank line = true) :
    Line.parse owner margin line = .ok ⟨0, []⟩ := if_pos blank

end Lines

section Sources

/-- Lines without the blank ones around them. -/
def trimLines (lines : List (List Char)) : List (List Char) :=
  (lines.dropWhile Text.isAllBlank).rdropWhile Text.isAllBlank

theorem sourceLines_eq (source : List Char) : Template.sourceLines source = trimLines (Text.lines source) := rfl

theorem trimLines_append_left (before lines : List (List Char)) (blank : ∀ line ∈ before, Text.isAllBlank line = true) :
    trimLines (before ++ lines) = trimLines lines := by
  rw [trimLines, List.dropWhile_append_of_pos blank, trimLines]

theorem trimLines_append_right (lines after : List (List Char)) (blank : ∀ line ∈ after, Text.isAllBlank line = true) :
    trimLines (lines ++ after) = trimLines lines := by
  have nothing : after.dropWhile Text.isAllBlank = [] := List.dropWhile_eq_nil_iff.mpr blank
  rw [trimLines, trimLines, List.dropWhile_append, nothing]
  split
  · rename_i none
    rw [List.isEmpty_iff.mp none]
  · rw [List.rdropWhile, List.reverse_append, List.dropWhile_append_of_pos (by simpa using blank), List.rdropWhile]

theorem trimLines_moveIn (spaces : Nat) (lines : List (List Char)) :
    trimLines (lines.map (moveIn spaces)) = (trimLines lines).map (moveIn spaces) := by
  have same : Text.isAllBlank ∘ moveIn spaces = Text.isAllBlank := funext (isAllBlank_moveIn spaces)
  rw [trimLines, trimLines, List.dropWhile_map, same, List.rdropWhile, ← List.map_reverse, List.dropWhile_map, same,
    ← List.map_reverse, List.rdropWhile]

theorem mapM_parse_moveIn (owner : String) (spaces : Nat) (lines : List (List Char)) :
    (lines.map (moveIn spaces)).mapM (Line.parse owner (margin (lines.map (moveIn spaces)))) =
      lines.mapM (Line.parse owner (margin lines)) := by
  have each (line : List Char) (listed : line ∈ lines) :
      Line.parse owner (margin (lines.map (moveIn spaces))) (moveIn spaces line) =
        Line.parse owner (margin lines) line := by
    cases ink : Text.isAllBlank line with
    | true => rw [Line.parse_blank _ _ line ink, Line.parse_blank _ _ _ (by rw [isAllBlank_moveIn, ink])]
    | false => rw [margin_moveIn spaces lines ⟨line, listed, ink⟩, Line.parse_moveIn spaces owner _ line ink]
  rw [List.mapM_map]
  generalize margin (lines.map (moveIn spaces)) = moved at each ⊢
  generalize margin lines = least at each ⊢
  induction lines with
  | nil => rfl
  | cons line lines ih =>
    obtain ⟨first, later⟩ := List.forall_mem_cons.mp each
    rw [List.mapM_cons, List.mapM_cons, ih later, Function.comp_apply, first]

end Sources

namespace Template

theorem parse_moveIn (owner source other : String) (spaces : Nat) (before after : List (List Char))
    (blank : ∀ line ∈ before ++ after, Text.isAllBlank line = true)
    (lines : Text.lines other.toList = before ++ (Text.lines source.toList).map (moveIn spaces) ++ after) :
    parse owner other = parse owner source := by
  obtain ⟨blankBefore, blankAfter⟩ := List.forall_mem_append.mp blank
  have moved : sourceLines other.toList = (sourceLines source.toList).map (moveIn spaces) := by
    rw [sourceLines_eq, lines, trimLines_append_right _ _ blankAfter, trimLines_append_left _ _ blankBefore,
      trimLines_moveIn, sourceLines_eq]
  rw [parse, moved, mapM_parse_moveIn, parse]

/-- What is parsed does not change when all lines of a source are moved in by as many spaces and blank lines are put
around them. And no source makes parsing take a margin from a smaller indentation or cut a line within a character. -/
theorem parse_ignores_margin (owner source : String) :
    (∀ spaces before after other, (∀ line ∈ before ++ after, Text.isAllBlank line = true) →
      Text.lines other.toList = before ++ (Text.lines source.toList).map (moveIn spaces) ++ after →
      parse owner other = parse owner source) ∧
    (cut owner source).run = some (parse owner source) :=
  ⟨fun spaces before after other => parse_moveIn owner source other spaces before after, run_cut owner source⟩

/-- A source with wide letters around a wide blank, moved in below a tab. -/
theorem parse_ignores_margin_wide :
    (∀ line ∈ [['\t']] ++ [], Text.isAllBlank line = true) ∧
      Text.lines "\t\n  é%<a>\n\u3000\n    →\n".toList =
        [['\t']] ++ (Text.lines "é%<a>\n\u3000\n  →".toList).map (moveIn 2) ++ [] ∧
      parse "pair" "\t\n  é%<a>\n\u3000\n    →\n" = parse "pair" "é%<a>\n\u3000\n  →" := by
  have blank : ∀ line ∈ [['\t']] ++ [], Text.isAllBlank line = true := by decide
  have lines : Text.lines "\t\n  é%<a>\n\u3000\n    →\n".toList =
      [['\t']] ++ (Text.lines "é%<a>\n\u3000\n  →".toList).map (moveIn 2) ++ [] := by decide
  exact ⟨blank, lines, (parse_ignores_margin "pair" "é%<a>\n\u3000\n  →").1 2 [['\t']] [] _ blank lines⟩

end Template
end Retarget
