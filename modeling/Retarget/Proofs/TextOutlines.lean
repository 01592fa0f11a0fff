import Mathlib.Data.List.Chain
import Retarget.Proofs.ShiftedTexts

/-! Outlines of texts: whether a text is filled, and whether blanks are at its edges. No blank comes to stand at the
end of a line where texts with suitable edges are put together, or laid out line by line. -/
namespace Retarget

/-- No line that a line feed ends has a blank at its end. -/
def NeatBreaks (chars : List Char) : Prop :=
  List.IsChain (fun c next => next = '\n' → c = '\n' ∨ Text.isBlank c = false) chars

theorem NeatBreaks.of_notMem {chars : List Char} (unbroken : '\n' ∉ chars) : NeatBreaks chars := by
  induction chars with
  | nil => exact .nil
  | cons c rest ih =>
    rw [List.mem_cons, not_or] at unbroken
    cases rest with
    | nil => exact .singleton c
    | cons next rest =>
      have elsewhere : next ≠ '\n' := fun feed => unbroken.2 (feed ▸ List.mem_cons_self)
      exact .cons_cons (fun feed => absurd feed elsewhere) (ih unbroken.2)

/-- What is known of a text: that it is filled, that it starts with no blank or at least with no line feed, and that
it ends with no blank. -/
structure Outline where
  filled : Bool
  visibleStart : Bool
  sameLine : Bool
  visibleEnd : Bool
  deriving DecidableEq

namespace Outline

/-- A text with no blank at its edges. -/
def solid : Outline := ⟨true, true, true, true⟩

/-- A text that is empty or has no blank at its edges. -/
def dispensable : Outline := ⟨false, true, true, true⟩

/-- What is known of a text that one of two outlines holds of. -/
def either (first second : Outline) : Outline where
  filled := first.filled && second.filled
  visibleStart := first.visibleStart && second.visibleStart
  sameLine := first.sameLine && second.sameLine
  visibleEnd := first.visibleEnd && second.visibleEnd

/-- What is known of two texts in a row, unless a line feed may come behind a blank. -/
def append? (first second : Outline) : Option Outline :=
  if first.visibleEnd || second.sameLine then
    some {
      filled := first.filled || second.filled
      visibleStart := first.visibleStart && (first.filled || second.visibleStart)
      sameLine := first.sameLine && (first.filled || second.sameLine)
      visibleEnd := second.visibleEnd && (second.filled || first.visibleEnd) }
  else none

/-- The outline of a known text. -/
def ofChars? (chars : List Char) : Option Outline :=
  if chars.contains '\n' then none
  else
    some {
      filled := !chars.isEmpty
      visibleStart := chars.head?.all fun c => !Text.isBlank c
      sameLine := true
      visibleEnd := chars.getLast?.all fun c => !Text.isBlank c }

structure Holds (outline : Outline) (chars : List Char) : Prop where
  neat : NeatBreaks chars
  filled : outline.filled = true → chars ≠ []
  visibleStart : outline.visibleStart = true → ∀ c ∈ chars.head?, Text.isBlank c = false
  sameLine : outline.sameLine = true → ∀ c ∈ chars.head?, c ≠ '\n'
  visibleEnd : outline.visibleEnd = true → ∀ c ∈ chars.getLast?, Text.isBlank c = false

variable {first second outline : Outline} {chars others : List Char}

theorem holds_nil_of_not_filled (empty : outline.filled = false) : outline.Holds [] where
  neat := .nil
  filled known := absurd (empty.symm.trans known) Bool.false_ne_true
  visibleStart _ := nofun
  sameLine _ := nofun
  visibleEnd _ := nofun

theorem holds_nil : dispensable.Holds [] := holds_nil_of_not_filled rfl

theorem Holds.left (holds : first.Holds chars) (second : Outline) : (first.either second).Holds chars where
  neat := holds.neat
  filled known := holds.filled (Bool.and_eq_true_iff.mp known).1
  visibleStart known := holds.visibleStart (Bool.and_eq_true_iff.mp known).1
  sameLine known := holds.sameLine (Bool.and_eq_true_iff.mp known).1
  visibleEnd known := holds.visibleEnd (Bool.and_eq_true_iff.mp known).1

theorem Holds.right (holds : second.Holds chars) (first : Outline) : (first.either second).Holds chars where
  neat := holds.neat
  filled known := holds.filled (Bool.and_eq_true_iff.mp known).2
  visibleStart known := holds.visibleStart (Bool.and_eq_true_iff.mp known).2
  sameLine known := holds.sameLine (Bool.and_eq_true_iff.mp known).2
  visibleEnd known := holds.visibleEnd (Bool.and_eq_true_iff.mp known).2

theorem ne_feed_of_visible {c : Char} (visible : Text.isBlank c = false) : c ≠ '\n' := by
  rintro rfl
  cases visible

theorem Holds.dispensable (holds : solid.Holds chars) : dispensable.Holds chars where
  neat := holds.neat
  filled := nofun
  visibleStart := holds.visibleStart
  sameLine := holds.sameLine
  visibleEnd := holds.visibleEnd

theorem Holds.solid (holds : Outline.dispensable.Holds chars) (filled : chars ≠ []) : solid.Holds chars where
  neat := holds.neat
  filled _ := filled
  visibleStart := holds.visibleStart
  sameLine := holds.sameLine
  visibleEnd := holds.visibleEnd

theorem Holds.append (holds : first.Holds chars) (following : second.Holds others)
    (fit : first.append? second = some outline) : outline.Holds (chars ++ others) := by
  rw [append?] at fit
  split at fit
  · rename_i apart
    cases fit
    rw [Bool.or_eq_true] at apart
    refine ⟨?_, ?_, ?_, ?_, ?_⟩
    · refine List.isChain_append.mpr ⟨holds.neat, following.neat, fun c last next starts feed => ?_⟩
      rcases apart with visible | same
      · exact .inr (holds.visibleEnd visible c last)
      · exact absurd feed (following.sameLine same next starts)
    · intro known empty
      rw [List.append_eq_nil_iff] at empty
      rcases Bool.or_eq_true_iff.mp known with filled | filled
      · exact holds.filled filled empty.1
      · exact following.filled filled empty.2
    · intro known c starts
      simp only [Bool.and_eq_true, Bool.or_eq_true] at known
      rw [List.head?_append] at starts
      cases chars with
      | nil => exact following.visibleStart (known.2.resolve_left fun filled => holds.filled filled rfl) c starts
      | cons => exact holds.visibleStart known.1 c starts
    · intro known c starts
      simp only [Bool.and_eq_true, Bool.or_eq_true] at known
      rw [List.head?_append] at starts
      cases chars with
      | nil => exact following.sameLine (known.2.resolve_left fun filled => holds.filled filled rfl) c starts
      | cons => exact holds.sameLine known.1 c starts
    · intro known c ends
      simp only [Bool.and_eq_true, Bool.or_eq_true] at known
      rw [List.getLast?_append] at ends
      cases last : others.getLast? with
      | none =>
        rw [last] at ends
        have empty := List.getLast?_eq_none_iff.mp last
        exact holds.visibleEnd (known.2.resolve_left fun filled => following.filled filled empty) c ends
      | some final =>
        rw [last] at ends
        exact following.visibleEnd known.1 c (last.trans ends)
  · cases fit

theorem holds_ofChars (known : ofChars? chars = some outline) : outline.Holds chars := by
  rw [ofChars?] at known
  split at known
  · cases known
  · rename_i unbroken
    have unbroken : '\n' ∉ chars := by simpa using unbroken
    cases known
    refine ⟨.of_notMem unbroken, ?_, ?_, ?_, ?_⟩
    · rintro filled rfl
      cases filled
    · intro visible c starts
      rw [Option.mem_def] at starts
      simpa [starts] using visible
    · rintro _ c starts rfl
      exact unbroken (List.mem_of_mem_head? starts)
    · intro visible c ends
      rw [Option.mem_def] at ends
      simpa [ends] using visible

/-- A text without blanks. -/
theorem holds_of_visible (filled : chars ≠ []) (visible : ∀ c ∈ chars, Text.isBlank c = false) : solid.Holds chars where
  neat := .of_notMem fun feed => absurd (visible _ feed) (by decide)
  filled _ := filled
  visibleStart _ c starts := visible c (List.mem_of_mem_head? starts)
  sameLine _ c starts := ne_feed_of_visible (visible c (List.mem_of_mem_head? starts))
  visibleEnd _ c ends := visible c (List.mem_of_mem_getLast? ends)

/-- A text on one line with visible characters at its edges. -/
theorem holds_of_edges (unbroken : '\n' ∉ chars) (start finish : Char) (starts : chars.head? = some start)
    (finishes : chars.getLast? = some finish) (visible : Text.isBlank start = false ∧ Text.isBlank finish = false) :
    solid.Holds chars where
  neat := .of_notMem unbroken
  filled _ := fun empty => by simp [empty] at starts
  visibleStart _ := by simpa [starts] using visible.1
  sameLine _ := by simpa [starts] using ne_feed_of_visible visible.1
  visibleEnd _ := by simpa [finishes] using visible.2

theorem Holds.append_solid (holds : Outline.solid.Holds chars) (following : Outline.solid.Holds others) :
    Outline.solid.Holds (chars ++ others) := holds.append following rfl

/-- What may stand between two solid texts, as long as no blank is in front of a line feed in it. -/
theorem Holds.around {between : List Char} (holds : Outline.solid.Holds chars) (neat : NeatBreaks between)
    (following : Outline.solid.Holds others) : Outline.solid.Holds (chars ++ between ++ others) := by
  have middle : Outline.Holds ⟨false, false, false, false⟩ between := ⟨neat, nofun, nofun, nofun, nofun⟩
  exact (holds.append middle rfl).append following rfl

/-- What may stand in front of a solid text. -/
theorem Holds.behind {front : List Char} (holds : Outline.solid.Holds chars) (neat : NeatBreaks front) :
    Outline.Holds ⟨true, false, false, true⟩ (front ++ chars) := by
  have before : Outline.Holds ⟨false, false, false, false⟩ front := ⟨neat, nofun, nofun, nofun, nofun⟩
  exact before.append holds rfl

theorem holds_intercalate {separator : String} (neat : NeatBreaks separator.toList) (pieces : List String)
    (holds : ∀ piece ∈ pieces, solid.Holds piece.toList) (some : pieces ≠ []) :
    solid.Holds (separator.intercalate pieces).toList := by
  induction pieces with
  | nil => exact absurd rfl some
  | cons piece rest ih =>
    rw [List.forall_mem_cons] at holds
    cases rest with
    | nil => simpa using holds.1
    | cons next rest =>
      rw [String.intercalate_cons_cons, String.toList_append, String.toList_append]
      exact holds.1.around neat (ih holds.2 nofun)

theorem holds_intercalate_dispensable {separator : String} (neat : NeatBreaks separator.toList) (pieces : List String)
    (holds : ∀ piece ∈ pieces, solid.Holds piece.toList) :
    Outline.dispensable.Holds (separator.intercalate pieces).toList := by
  cases pieces with
  | nil => exact holds_nil
  | cons piece rest => exact (holds_intercalate neat _ holds nofun).dispensable

end Outline

section Layout

theorem Indent.neatBreaks_lineBreak (indent : Indent) (depth : Nat) :
    NeatBreaks ("\n" ++ indent.margin depth).toList := by
  have margin := NeatBreaks.of_notMem (indent.notMem_margin depth)
  rw [String.toList_append]
  refine List.isChain_append.mpr ⟨.singleton '\n', margin, fun c last next starts feed => .inl ?_⟩
  simpa using last.symm

theorem Indent.neatBreaks_blankLine (indent : Indent) (depth : Nat) :
    NeatBreaks ("\n\n" ++ indent.margin depth).toList := by
  have separated : "\n\n" ++ indent.margin depth = "\n" ++ ("\n" ++ indent.margin depth) := by
    rw [← String.append_assoc]
    rfl
  rw [separated, String.toList_append]
  refine List.isChain_append.mpr ⟨.singleton '\n', indent.neatBreaks_lineBreak depth, fun c last next _ _ => .inl ?_⟩
  simpa using last.symm

/-- A line whose text is dispensable, and stands on it if it has no directive. -/
inductive RenderedLine.Solid : RenderedLine → Prop
  | blank : Solid .blank
  | content {depth : Nat} {hasDirective : Bool} {text : String} : Outline.dispensable.Holds text.toList →
      (hasDirective = false → text.toList ≠ []) → Solid (.content depth hasDirective text)

def RenderedLine.Filled : RenderedLine → Prop
  | .blank => False
  | .content _ _ text => text.toList ≠ []

/-- What follows the first line of a text. -/
structure Continues (chars : List Char) : Prop where
  neat : NeatBreaks chars
  start : ∀ c ∈ chars.head?, c = '\n'
  visibleEnd : ∀ c ∈ chars.getLast?, Text.isBlank c = false

theorem Outline.Holds.continued {chars rest : List Char} (holds : Outline.solid.Holds chars)
    (continues : Continues rest) : Outline.solid.Holds (chars ++ rest) := by
  have following : Outline.Holds ⟨false, false, false, true⟩ rest :=
    ⟨continues.neat, nofun, nofun, nofun, fun _ => continues.visibleEnd⟩
  exact holds.append following rfl

theorem Continues.lineBreak {chars margin : List Char} (solid : Outline.solid.Holds chars)
    (neat : NeatBreaks ('\n' :: margin)) : Continues ('\n' :: margin ++ chars) := by
  have opening : Outline.Holds ⟨true, false, false, false⟩ ('\n' :: margin) :=
    ⟨neat, fun _ => nofun, nofun, nofun, nofun⟩
  have whole := opening.append solid rfl
  exact ⟨whole.neat, fun c starts => by simpa using starts.symm, whole.visibleEnd rfl⟩

theorem Outline.Holds.isAllBlank_iff {chars : List Char} (holds : Outline.dispensable.Holds chars) :
    Text.isAllBlank chars = true ↔ chars = [] := by
  cases chars with
  | nil => simp [Text.isAllBlank]
  | cons c rest => simp [Text.isAllBlank, holds.visibleStart rfl c rfl]

/-- A filled text with no blank at one of its edges is not blank. -/
theorem Outline.Holds.isAllBlank_eq_false {outline : Outline} {chars : List Char} (holds : outline.Holds chars)
    (filled : outline.filled = true) (visible : outline.visibleStart = true ∨ outline.visibleEnd = true) :
    Text.isAllBlank chars = false := by
  have some := holds.filled filled
  rw [← Bool.not_eq_true, Text.isAllBlank, List.all_eq_true]
  intro blank
  rcases visible with visible | visible
  · have start := holds.visibleStart visible _ (List.head?_eq_some_head some)
    rw [blank _ (List.head_mem some)] at start
    cases start
  · have finish := holds.visibleEnd visible _ (List.getLast?_eq_some_getLast some)
    rw [blank _ (List.getLast_mem some)] at finish
    cases finish

/-- A line goes only if it is blank. -/
theorem layOut_content (indent : Indent) (depth : Nat) (hasDirective : Bool) (text : String) :
    layOut indent [.content depth hasDirective text] =
      if hasDirective && Text.isAllBlank text.toList then "" else text := by
  simp only [layOut, RenderedLine.kept, Bool.false_and, Bool.false_eq_true, if_false]
  split
  · rfl
  · simp [OutputLine.join, OutputLine.unindented]

variable (indent : Indent) {lines : List RenderedLine} (solid : ∀ line ∈ lines, line.Solid)
include solid

theorem continues_tail_kept (afterDirective pending dropped : Bool) :
    Continues (OutputLine.tail indent (RenderedLine.kept afterDirective pending dropped lines)) := by
  induction lines generalizing afterDirective pending dropped with
  | nil => exact ⟨.nil, nofun, nofun⟩
  | cons line rest ih =>
    rw [List.forall_mem_cons] at solid
    obtain ⟨here, solid⟩ := solid
    cases here with
    | blank => exact ih solid _ _ _
    | @content depth hasDirective text holds filled =>
      simp only [RenderedLine.kept, Bool.and_eq_true, holds.isAllBlank_iff]
      split
      · exact ih solid _ _ _
      · rename_i stays
        have stands : text.toList ≠ [] := fun empty => by
          cases hasDirective with
          | false => exact filled rfl empty
          | true => exact stays ⟨rfl, empty⟩
        have inner := (holds.solid stands).continued (ih solid hasDirective false false)
        split
        all_goals simp only [OutputLine.tail_blank, OutputLine.tail_filled]
        · have neat := indent.neatBreaks_blankLine depth
          simp only [String.toList_append] at neat
          exact .lineBreak inner neat
        · have neat := indent.neatBreaks_lineBreak depth
          simp only [String.toList_append] at neat
          exact .lineBreak inner neat

/-- Solid lines are laid out as a solid text, or as none if no line is filled. -/
theorem holds_layOut : Outline.dispensable.Holds (layOut indent lines).toList ∧
    ((∃ line ∈ lines, line.Filled) → (layOut indent lines).toList ≠ []) := by
  have start (dropped : Bool) :
      Outline.dispensable.Holds (OutputLine.join indent (RenderedLine.kept false false dropped lines)).toList ∧
        ((∃ line ∈ lines, line.Filled) →
          (OutputLine.join indent (RenderedLine.kept false false dropped lines)).toList ≠ []) := by
    induction lines generalizing dropped with
    | nil => exact ⟨Outline.holds_nil, fun ⟨_, listed, _⟩ => nomatch listed⟩
    | cons line rest ih =>
      rw [List.forall_mem_cons] at solid
      rw [List.exists_mem_cons_iff]
      obtain ⟨here, solid⟩ := solid
      cases here with
      | blank =>
        rw [or_iff_right (id : ¬RenderedLine.blank.Filled)]
        exact ih solid false
      | @content depth hasDirective text holds filled =>
        simp only [RenderedLine.kept, Bool.and_eq_true, holds.isAllBlank_iff]
        split
        · rename_i empty
          rw [or_iff_right fun stands => stands empty.2]
          exact ih solid true
        · rename_i stays
          have stands : text.toList ≠ [] := fun empty => by
            cases hasDirective with
            | false => exact filled rfl empty
            | true => exact stays ⟨rfl, empty⟩
          have whole := (holds.solid stands).continued (continues_tail_kept indent solid hasDirective false false)
          simp only [Bool.false_eq_true, false_and, if_false, OutputLine.toList_join, OutputLine.unindented]
          exact ⟨whole.dispensable, fun _ => whole.filled rfl⟩
  exact start false

end Layout

section Lines

/-- Where breaks are neat and no blank is at the end, no line has a blank at its end. -/
theorem visibleEnd_of_mem_splitOn {chars : List Char} (neat : NeatBreaks chars)
    (visibleEnd : ∀ c ∈ chars.getLast?, Text.isBlank c = false) :
    ∀ line ∈ Text.splitOn '\n' chars, ∀ c ∈ line.getLast?, Text.isBlank c = false := by
  induction chars with
  | nil =>
    intro line member
    cases List.mem_singleton.mp member
    exact nofun
  | cons c rest ih =>
    have later := ih neat.tail fun final ends => visibleEnd final (by
      rw [Option.mem_def] at ends
      rw [List.getLast?_cons, ends]
      rfl)
    by_cases feed : c = '\n'
    · subst feed
      rw [Text.splitOn_cons_self, List.forall_mem_cons]
      exact ⟨nofun, later⟩
    · obtain ⟨piece, pieces, split, whole⟩ := Text.splitOn_cons_other '\n' c feed rest
      rw [split, List.forall_mem_cons] at later
      rw [whole, List.forall_mem_cons]
      refine ⟨fun final ends => ?_, later.2⟩
      cases piece with
      | cons d piece => exact later.1 final ends
      | nil =>
        -- The line is the one character, which a line feed or the end follows.
        cases ends
        cases rest with
        | nil => exact visibleEnd c rfl
        | cons d rest =>
          by_cases feeds : d = '\n'
          · exact ((List.isChain_cons_cons.mp neat).1 feeds).resolve_left feed
          · obtain ⟨first, others, _, same⟩ := Text.splitOn_cons_other '\n' d feeds rest
            cases same.symm.trans split

theorem Outline.Holds.trimEnd_eq {chars : List Char} (holds : Outline.solid.Holds chars) :
    ∀ line ∈ Text.splitOn '\n' chars, Text.trimEnd line = line := fun line listed =>
  Text.trimEnd_eq_self line (visibleEnd_of_mem_splitOn holds.neat (holds.visibleEnd rfl) line listed)

end Lines

end Retarget
