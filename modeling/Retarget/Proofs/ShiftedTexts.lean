import Mathlib.Data.List.DropRight
import Retarget.Proofs.Pieces
import Retarget.Render.Lines

/-! Shifted texts: a margin is put in front of every line but the first, except that lines may stay empty. Two
texts are related piece by piece, so that the relation carries over from the parts of a line to what is laid out
from such lines at one depth and at another. -/
namespace Retarget

/-- A text with a margin behind its line feeds, and the text without it. A line feed before another one may have
none. -/
inductive ShiftedBy (margin : List Char) : List Char → List Char → Prop
  | nil : ShiftedBy margin [] []
  | char {moved text : List Char} (c : Char) (other : c ≠ '\n') :
      ShiftedBy margin moved text → ShiftedBy margin (c :: moved) (c :: text)
  | line {moved text : List Char} :
      ShiftedBy margin moved text → ShiftedBy margin ('\n' :: (margin ++ moved)) ('\n' :: text)
  | blankLine {moved text : List Char} :
      ShiftedBy margin moved text → ShiftedBy margin ('\n' :: '\n' :: (margin ++ moved)) ('\n' :: '\n' :: text)

namespace ShiftedBy

variable {margin moved text : List Char}

theorem append {others rest : List Char} (shifted : ShiftedBy margin moved text)
    (following : ShiftedBy margin others rest) : ShiftedBy margin (moved ++ others) (text ++ rest) := by
  induction shifted with
  | nil => exact following
  | char c other _ ih => exact ih.char c other
  | line _ ih => simpa using ih.line
  | blankLine _ ih => simpa using ih.blankLine

/-- A text without line feeds stays as it is. -/
theorem of_notMem (unbroken : '\n' ∉ text) : ShiftedBy margin text text := by
  induction text with
  | nil => exact .nil
  | cons c rest ih =>
    simp only [List.mem_cons, not_or] at unbroken
    exact (ih unbroken.2).char c (Ne.symm unbroken.1)

/-- Where a margin is blank, it does not fill a blank text. -/
theorem isAllBlank_eq (blank : Text.isAllBlank margin = true) (shifted : ShiftedBy margin moved text) :
    Text.isAllBlank moved = Text.isAllBlank text := by
  simp only [Text.isAllBlank] at blank ⊢
  induction shifted with
  | nil => rfl
  | char c _ _ ih => simp [ih]
  | line _ ih => simp [ih, blank]
  | blankLine _ ih => simp [ih, blank]

end ShiftedBy

section Lines

namespace Text

def isSpaceOrTab (c : Char) : Bool := c == ' ' || c == '\t'

/-- The lines of a text, without the spaces and tabs at their ends. -/
def bareLines (text : List Char) : List (List Char) := (splitOn '\n' text).map (List.rdropWhile isSpaceOrTab)

/-- A margin in front of a line, unless it is empty. -/
def behindMargin (margin line : List Char) : List Char := if line.isEmpty then [] else margin ++ line

/-- A margin in front of all lines but the first. -/
def shiftLines (margin : List Char) : List (List Char) → List (List Char)
  | [] => []
  | first :: rest => first :: rest.map (behindMargin margin)

theorem notMem_of_all_isSpaceOrTab (text : List Char) (spaces : text.all isSpaceOrTab = true) : '\n' ∉ text :=
  fun feed => absurd (List.all_eq_true.mp spaces '\n' feed) (by decide)

theorem rdropWhile_append_left (margin line : List Char) (spaces : margin.all isSpaceOrTab = true) :
    (margin ++ line).rdropWhile isSpaceOrTab = behindMargin margin (line.rdropWhile isSpaceOrTab) := by
  rw [behindMargin, List.rdropWhile, List.reverse_append, List.dropWhile_append]
  have none : margin.reverse.dropWhile isSpaceOrTab = [] := by
    simpa using spaces
  rw [List.rdropWhile, none]
  simp only [List.isEmpty_reverse]
  split <;> simp

theorem splitOn_append (separator : Char) (front rest first : List Char) (pieces : List (List Char))
    (clean : separator ∉ front) (split : splitOn separator rest = first :: pieces) :
    splitOn separator (front ++ rest) = (front ++ first) :: pieces := by
  induction front with
  | nil => exact split
  | cons c front ih =>
    simp only [List.mem_cons, not_or] at clean
    obtain ⟨piece, others, split, whole⟩ := splitOn_cons_other separator c (Ne.symm clean.1) (front ++ rest)
    cases (ih clean.2).symm.trans split
    exact whole

end Text

variable {margin moved text : List Char}

/-- The pieces of a shifted text: the first is what it was, the others stand behind the margin or are empty. -/
theorem ShiftedBy.splitOn (spaces : margin.all Text.isSpaceOrTab = true) (shifted : ShiftedBy margin moved text) :
    ∃ first pieces lines, Text.splitOn '\n' moved = first :: pieces ∧ Text.splitOn '\n' text = first :: lines ∧
      List.Forall₂ (fun piece line => piece = margin ++ line ∨ piece = [] ∧ line = []) pieces lines := by
  have clean : '\n' ∉ margin := Text.notMem_of_all_isSpaceOrTab margin spaces
  induction shifted with
  | nil => exact ⟨[], [], [], rfl, rfl, .nil⟩
  | char c other _ ih =>
    obtain ⟨first, pieces, lines, split, splitText, related⟩ := ih
    have alone : '\n' ∉ [c] := by simpa using Ne.symm other
    exact ⟨c :: first, pieces, lines, Text.splitOn_append '\n' [c] _ _ _ alone split,
      Text.splitOn_append '\n' [c] _ _ _ alone splitText, related⟩
  | line _ ih =>
    obtain ⟨first, pieces, lines, split, splitText, related⟩ := ih
    refine ⟨[], (margin ++ first) :: pieces, first :: lines, ?_, ?_, .cons (.inl rfl) related⟩
    · rw [Text.splitOn_cons_self, Text.splitOn_append '\n' margin _ _ _ clean split]
    · rw [Text.splitOn_cons_self, splitText]
  | blankLine _ ih =>
    obtain ⟨first, pieces, lines, split, splitText, related⟩ := ih
    refine ⟨[], [] :: (margin ++ first) :: pieces, [] :: first :: lines, ?_, ?_,
      .cons (.inr ⟨rfl, rfl⟩) (.cons (.inl rfl) related)⟩
    · rw [Text.splitOn_cons_self, Text.splitOn_cons_self, Text.splitOn_append '\n' margin _ _ _ clean split]
    · rw [Text.splitOn_cons_self, Text.splitOn_cons_self, splitText]

/-- Line by line, a shifted text is the text behind the margin. -/
theorem ShiftedBy.bareLines_eq (spaces : margin.all Text.isSpaceOrTab = true) (shifted : ShiftedBy margin moved text) :
    Text.bareLines moved = Text.shiftLines margin (Text.bareLines text) := by
  obtain ⟨first, pieces, lines, split, splitText, related⟩ := shifted.splitOn spaces
  rw [Text.bareLines, Text.bareLines, split, splitText, List.map_cons, List.map_cons, Text.shiftLines]
  congr 1
  clear split splitText
  induction related with
  | nil => rfl
  | cons here _ ih =>
    rw [List.map_cons, List.map_cons, List.map_cons, ih]
    rcases here with rfl | ⟨rfl, rfl⟩
    · rw [Text.rdropWhile_append_left margin _ spaces]
    · rfl

end Lines

section Margins

namespace Indent

variable (indent : Indent) (depth more : Nat)

theorem all_margin : (indent.margin depth).toList.all Text.isSpaceOrTab = true := by
  have unit : Text.isSpaceOrTab (character indent.unit) = true := by
    cases indent.unit <;> rfl
  simp [margin, unit]

theorem notMem_margin : '\n' ∉ (indent.margin depth).toList :=
  Text.notMem_of_all_isSpaceOrTab _ (indent.all_margin depth)

theorem isAllBlank_margin : Text.isAllBlank (indent.margin depth).toList = true := by
  have unit : Text.isBlank (character indent.unit) = true := by
    cases indent.unit <;> decide
  simp [margin, Text.isAllBlank, unit]

theorem margin_add : indent.margin (depth + more) = indent.margin more ++ indent.margin depth := by
  rw [margin, Nat.mul_add, Nat.add_comm, ← List.replicate_append_replicate, String.ofList_append]
  rfl

end Indent

/-- A text at a depth that is greater by some steps, and the text at the smaller one. -/
abbrev Shifted (indent : Indent) (more : Nat) (moved text : String) : Prop :=
  ShiftedBy (indent.margin more).toList moved.toList text.toList

namespace Shifted

variable {indent : Indent} {more : Nat} {moved text others rest : String}

theorem append (shifted : Shifted indent more moved text) (following : Shifted indent more others rest) :
    Shifted indent more (moved ++ others) (text ++ rest) := by
  simpa [Shifted] using ShiftedBy.append shifted following

/-- Texts without line feeds around a shifted one. -/
theorem enclose (front back : String) (cleanFront : '\n' ∉ front.toList) (cleanBack : '\n' ∉ back.toList)
    (shifted : Shifted indent more moved text) : Shifted indent more (front ++ moved ++ back) (front ++ text ++ back) :=
  (append (.of_notMem cleanFront) shifted).append (.of_notMem cleanBack)

theorem join {pieces texts : List String} (related : List.Forall₂ (Shifted indent more) pieces texts) :
    Shifted indent more (String.join pieces) (String.join texts) := by
  induction related with
  | nil => exact .nil
  | cons first _ ih =>
    rw [String.join_cons, String.join_cons]
    exact append first ih

theorem intercalate {pieces texts : List String} (separators : Shifted indent more moved text)
    (related : List.Forall₂ (Shifted indent more) pieces texts) :
    Shifted indent more (moved.intercalate pieces) (text.intercalate texts) := by
  induction related with
  | nil => exact .nil
  | cons first rest ih =>
    cases rest with
    | nil => simpa using first
    | cons second rest =>
      rw [String.intercalate_cons_cons, String.intercalate_cons_cons]
      exact append (append first separators) ih

/-- A line feed with the margin of a depth behind it. -/
theorem lineBreak (depth : Nat) :
    Shifted indent more ("\n" ++ indent.margin (depth + more)) ("\n" ++ indent.margin depth) := by
  simpa [Shifted, Indent.margin_add] using (ShiftedBy.of_notMem (indent.notMem_margin depth)).line

theorem blankLine (depth : Nat) :
    Shifted indent more ("\n\n" ++ indent.margin (depth + more)) ("\n\n" ++ indent.margin depth) := by
  simpa [Shifted, Indent.margin_add] using (ShiftedBy.of_notMem (indent.notMem_margin depth)).blankLine

end Shifted

end Margins

section Layout

variable (indent : Indent) (more : Nat)

/-- A line at a depth, and the same line at a depth that is greater. -/
inductive MovedLine : RenderedLine → RenderedLine → Prop
  | blank : MovedLine .blank .blank
  | content (depth : Nat) (hasDirective : Bool) (moved text : String) :
      Shifted indent more moved text →
        MovedLine (.content (depth + more) hasDirective moved) (.content depth hasDirective text)

/-- The lines behind the first, as they follow it. -/
def OutputLine.tail (lines : List OutputLine) : List Char :=
  lines.flatMap fun line => '\n' :: (line.indented indent).toList

theorem OutputLine.toList_join (first : OutputLine) (rest : List OutputLine) :
    (join indent (first :: rest)).toList = first.unindented.toList ++ tail indent rest := by
  have pieces (text : List Char) (rest : List OutputLine) :
      ['\n'].intercalate (text :: rest.map fun line => (line.indented indent).toList) = text ++ tail indent rest := by
    induction rest generalizing text with
    | nil => simp [tail]
    | cons line rest ih => simp [List.intercalate_cons_cons, ih, tail]
  simpa [join, String.toList_intercalate, Function.comp_def] using pieces first.unindented.toList rest

theorem OutputLine.tail_filled (depth : Nat) (text : String) (rest : List OutputLine) :
    tail indent (.filled depth text :: rest) =
      '\n' :: ((indent.margin depth).toList ++ (text.toList ++ tail indent rest)) := by
  simp [tail, indented]

theorem OutputLine.tail_blank (rest : List OutputLine) : tail indent (.blank :: rest) = '\n' :: tail indent rest := rfl

variable {indent more} {lines base : List RenderedLine} (related : List.Forall₂ (MovedLine indent more) lines base)
include related

theorem tail_kept_shifted (afterDirective pending dropped : Bool) :
    ShiftedBy (indent.margin more).toList
      (OutputLine.tail indent (RenderedLine.kept afterDirective pending dropped lines))
      (OutputLine.tail indent (RenderedLine.kept afterDirective pending dropped base)) := by
  induction related generalizing afterDirective pending dropped with
  | nil => exact .nil
  | cons here _ ih =>
    cases here with
    | blank => exact ih _ _ _
    | content depth hasDirective moved text shifted =>
      simp only [RenderedLine.kept, shifted.isAllBlank_eq (indent.isAllBlank_margin more)]
      split
      · exact ih _ _ _
      · -- The wider margin is the new one, then the one that the line had.
        have inner := (ShiftedBy.of_notMem (indent.notMem_margin depth)).append
          (ShiftedBy.append shifted (ih hasDirective false false))
        split
        all_goals
          simp only [OutputLine.tail_blank, OutputLine.tail_filled, indent.margin_add, String.toList_append,
            List.append_assoc]
        · exact inner.blankLine
        · exact inner.line

/-- Lines at a greater depth are laid out as the others are, behind a wider margin. The first line that stays has
no blank one before it. -/
theorem layOut_shifted : Shifted indent more (layOut indent lines) (layOut indent base) := by
  have start (dropped : Bool) : Shifted indent more
      (OutputLine.join indent (RenderedLine.kept false false dropped lines))
      (OutputLine.join indent (RenderedLine.kept false false dropped base)) := by
    induction related generalizing dropped with
    | nil => exact .nil
    | cons here rest ih =>
      cases here with
      | blank => exact ih _
      | content depth hasDirective moved text shifted =>
        simp only [RenderedLine.kept, shifted.isAllBlank_eq (indent.isAllBlank_margin more)]
        split
        · exact ih _
        · simp only [Shifted, Bool.false_and, Bool.false_eq_true, if_false, OutputLine.toList_join,
            OutputLine.unindented]
          exact ShiftedBy.append shifted (tail_kept_shifted rest hasDirective false false)
  exact start false

end Layout

end Retarget
