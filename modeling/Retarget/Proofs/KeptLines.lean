import Mathlib.Data.List.DropRight
import Retarget.Proofs.Building
import Retarget.Proofs.WritingTrees

/-! Kept lines. Which lines of a template are seen in its text, and where a blank line is left between two of them, is
said without a run over the lines: each kept line is taken with the lines that are passed over before it. -/
namespace Retarget

/-- A template line with the text of its segments. -/
structure WrittenLine where
  line : Line
  text : String

namespace WrittenLine

def isBlank (written : WrittenLine) : Bool := written.line.isBlank

def hasDirective (written : WrittenLine) : Bool := written.line.hasDirective

/-- Whether a line with a directive shows nothing. -/
def isDropped (written : WrittenLine) : Bool := written.hasDirective && Text.isAllBlank written.text.toList

def isKept (written : WrittenLine) : Bool := !written.isBlank && !written.isDropped

/-- A renderer writes the line where its template stands at a depth. -/
def WrittenBy (renderer : Renderer) (overrides : OverrideTable) (node : Node) (depth : Nat) (line : Line)
    (written : WrittenLine) : Prop :=
  written.line = line ∧ ∃ texts, written.text = String.join texts ∧
    List.Forall₂ (fun segment text => renderer.segment overrides node (depth + line.level) segment = .ok text)
      line.segments texts

/-- The line as it is laid out. -/
def rendered (depth : Nat) (written : WrittenLine) : RenderedLine :=
  if written.isBlank then .blank else .content (depth + written.line.level) written.hasDirective written.text

end WrittenLine

/-- A kept line with the lines passed over since the one before it. -/
structure KeptLine where
  skipped : List WrittenLine
  line : WrittenLine

namespace KeptLine

/-- The lines passed over behind the last blank one. -/
def behindBlank (next : KeptLine) : List WrittenLine := next.skipped.rtakeWhile fun line => !line.isBlank

/-- Whether a blank line is left before a kept line: the one kept before it has a directive, there are blank lines
between them, and it has a directive itself or no line was dropped behind the last of them. -/
def isApart (previous : WrittenLine) (next : KeptLine) : Bool :=
  previous.hasDirective && next.skipped.any WrittenLine.isBlank &&
    (next.line.hasDirective || !next.behindBlank.any WrittenLine.isDropped)

/-- A kept line that is not the first, and the blank line that is left before it. -/
def output (depth : Nat) (previous : WrittenLine) (next : KeptLine) : List OutputLine :=
  let shown := .filled (depth + next.line.line.level) next.line.text
  if next.isApart previous then [.blank, shown] else [shown]

/-- The kept lines behind one, with the blank lines between them. -/
def outputs (depth : Nat) (previous : WrittenLine) : List KeptLine → List OutputLine
  | [] => []
  | next :: later => next.output depth previous ++ outputs depth next.line later

/-- The text of kept lines; the first one stands where its template does. -/
def text (indent : Indent) (depth : Nat) : List KeptLine → String
  | [] => ""
  | first :: later =>
    "\n".intercalate (first.line.text :: (outputs depth first.line later).map (OutputLine.indented indent))

end KeptLine

/-- Lines parted at those that are kept. -/
structure KeptLines (lines : List WrittenLine) (kept : List KeptLine) (rest : List WrittenLine) : Prop where
  parted : lines = kept.flatMap (fun next => next.skipped ++ [next.line]) ++ rest
  isKept : ∀ next ∈ kept, next.line.isKept = true
  skipped : ∀ next ∈ kept, ∀ line ∈ next.skipped, line.isKept = false
  rest : ∀ line ∈ rest, line.isKept = false

namespace KeptLines

variable {lines rest : List WrittenLine} {kept : List KeptLine}

theorem filter_isKept (parted : KeptLines lines kept rest) :
    lines.filter WrittenLine.isKept = kept.map KeptLine.line := by
  have alone (next : KeptLine) (member : next ∈ kept) :
      (next.skipped ++ [next.line]).filter WrittenLine.isKept = [next.line] := by
    have passed : next.skipped.filter WrittenLine.isKept = [] :=
      List.filter_eq_nil_iff.mpr fun line skipped => by simp [parted.skipped next member line skipped]
    rw [List.filter_append, passed, List.nil_append, List.filter_singleton, parted.isKept next member, cond_true]
  have passed : rest.filter WrittenLine.isKept = [] :=
    List.filter_eq_nil_iff.mpr fun line member => by simp [parted.rest line member]
  rw [parted.parted, List.filter_append, passed, List.append_nil, List.filter_flatMap, List.flatMap_congr alone]
  exact List.flatMap_pure_eq_map KeptLine.line kept

theorem exists_kept (lines : List WrittenLine) : ∃ kept rest, KeptLines lines kept rest := by
  induction lines with
  | nil => exact ⟨[], [], rfl, nofun, nofun, nofun⟩
  | cons line lines ih =>
    obtain ⟨kept, rest, parted⟩ := ih
    cases isKept : line.isKept with
    | true =>
      refine ⟨⟨[], line⟩ :: kept, rest, by simp [parted.parted], ?_, ?_, parted.rest⟩
      · exact List.forall_mem_cons.mpr ⟨isKept, parted.isKept⟩
      · exact List.forall_mem_cons.mpr ⟨nofun, parted.skipped⟩
    | false =>
      -- The line is passed over: before the first kept line, or before the end.
      cases kept with
      | nil =>
        refine ⟨[], line :: rest, by simp [parted.parted], nofun, nofun, ?_⟩
        exact List.forall_mem_cons.mpr ⟨isKept, parted.rest⟩
      | cons first kept =>
        obtain ⟨firstKept, laterKept⟩ := List.forall_mem_cons.mp parted.isKept
        obtain ⟨firstSkipped, laterSkipped⟩ := List.forall_mem_cons.mp parted.skipped
        refine ⟨⟨line :: first.skipped, first.line⟩ :: kept, rest, by simp [parted.parted], ?_, ?_, parted.rest⟩
        · exact List.forall_mem_cons.mpr ⟨firstKept, laterKept⟩
        · exact List.forall_mem_cons.mpr ⟨List.forall_mem_cons.mpr ⟨isKept, firstSkipped⟩, laterSkipped⟩

end KeptLines

namespace RenderedLine

variable (depth : Nat)

/-- What the run over the lines remembers of those it passes over. -/
theorem kept_skipped (afterDirective : Bool) (skipped : List WrittenLine)
    (passed : ∀ line ∈ skipped, line.isKept = false) (later : List RenderedLine) :
    kept afterDirective false false (skipped.map (WrittenLine.rendered depth) ++ later) =
      kept afterDirective (afterDirective && skipped.any WrittenLine.isBlank)
        ((skipped.rtakeWhile fun line => !line.isBlank).any WrittenLine.isDropped) later := by
  induction skipped using List.reverseRecOn generalizing later with
  | nil => simp
  | append_singleton skipped line ih =>
    obtain ⟨before, last⟩ := List.forall_mem_append.mp passed
    have notKept := last line (List.mem_singleton_self line)
    rw [List.map_append, List.append_assoc, ih before, List.map_singleton, List.singleton_append]
    cases blank : line.isBlank with
    | true =>
      rw [List.rtakeWhile_concat_neg _ _ _ (by simp [blank])]
      cases afterDirective <;> simp [WrittenLine.rendered, kept, blank]
    | false =>
      have dropped : line.isDropped = true := by simpa [WrittenLine.isKept, blank] using notKept
      have nothing : (line.hasDirective && Text.isAllBlank line.text.toList) = true := dropped
      rw [List.rtakeWhile_concat_pos _ _ _ (by simp [blank])]
      simp [WrittenLine.rendered, kept, blank, dropped, nothing]

theorem kept_line (afterDirective pending dropped : Bool) (line : WrittenLine) (isKept : line.isKept = true)
    (later : List RenderedLine) :
    kept afterDirective pending dropped (line.rendered depth :: later) =
      (if pending && (line.hasDirective || !dropped) then [.blank] else []) ++
        .filled (depth + line.line.level) line.text :: kept line.hasDirective false false later := by
  rw [WrittenLine.isKept, Bool.and_eq_true, Bool.not_eq_true', Bool.not_eq_true'] at isKept
  obtain ⟨shown, something⟩ := isKept
  rw [WrittenLine.isDropped] at something
  simp only [WrittenLine.rendered, shown, Bool.false_eq_true, if_false, kept, something]
  split <;> rfl

/-- A kept line and those passed over before it. -/
theorem kept_next (afterDirective : Bool) (next : KeptLine) (isKept : next.line.isKept = true)
    (passed : ∀ line ∈ next.skipped, line.isKept = false) (later : List WrittenLine) :
    kept afterDirective false false ((next.skipped ++ next.line :: later).map (WrittenLine.rendered depth)) =
      (if afterDirective && next.skipped.any WrittenLine.isBlank &&
          (next.line.hasDirective || !next.behindBlank.any WrittenLine.isDropped) then [.blank] else []) ++
        .filled (depth + next.line.line.level) next.line.text ::
          kept next.line.hasDirective false false (later.map (WrittenLine.rendered depth)) := by
  rw [List.map_append, List.map_cons, kept_skipped depth afterDirective _ passed, kept_line depth _ _ _ _ isKept]
  rfl

end RenderedLine

namespace KeptLines

variable {depth : Nat} {lines rest : List WrittenLine} {kept : List KeptLine} {next : KeptLine}

theorem exists_behind (parted : KeptLines lines (next :: kept) rest) :
    ∃ later, lines = next.skipped ++ next.line :: later ∧ next.line.isKept = true ∧
      (∀ line ∈ next.skipped, line.isKept = false) ∧ KeptLines later kept rest := by
  obtain ⟨nextKept, laterKept⟩ := List.forall_mem_cons.mp parted.isKept
  obtain ⟨nextSkipped, laterSkipped⟩ := List.forall_mem_cons.mp parted.skipped
  exact ⟨_, by simp [parted.parted], nextKept, nextSkipped, rfl, laterKept, laterSkipped, parted.rest⟩

theorem kept_rest (afterDirective : Bool) (parted : KeptLines lines [] rest) :
    RenderedLine.kept afterDirective false false (lines.map (WrittenLine.rendered depth)) = [] := by
  have passed := RenderedLine.kept_skipped depth afterDirective rest parted.rest []
  rw [List.append_nil] at passed
  rw [parted.parted]
  exact passed

theorem kept_behind (previous : WrittenLine) (parted : KeptLines lines kept rest) :
    RenderedLine.kept previous.hasDirective false false (lines.map (WrittenLine.rendered depth)) =
      KeptLine.outputs depth previous kept := by
  induction kept generalizing lines previous with
  | nil => exact parted.kept_rest previous.hasDirective
  | cons next kept ih =>
    obtain ⟨later, rfl, nextKept, passed, behind⟩ := parted.exists_behind
    rw [RenderedLine.kept_next depth _ next nextKept passed, ih next.line behind, KeptLine.outputs, KeptLine.output,
      KeptLine.isApart]
    split <;> rfl

theorem layOut_eq (indent : Indent) (parted : KeptLines lines kept rest) :
    layOut indent (lines.map (WrittenLine.rendered depth)) = KeptLine.text indent depth kept := by
  rw [layOut]
  cases kept with
  | nil =>
    rw [parted.kept_rest false]
    rfl
  | cons first kept =>
    obtain ⟨later, rfl, firstKept, passed, behind⟩ := parted.exists_behind
    rw [RenderedLine.kept_next depth false first firstKept passed, behind.kept_behind first.line]
    rfl

end KeptLines

namespace Renderer

variable (overrides : OverrideTable) (renderer : Renderer) (node : Node) (depth : Nat)

theorem line_eq_ok_iff (line : Line) (shown : RenderedLine) :
    renderer.line overrides node depth line = .ok shown ↔
      ∃ written, WrittenLine.WrittenBy renderer overrides node depth line written ∧
        written.rendered depth = shown := by
  have bare (blank : line.isBlank = true) : line.segments = [] := List.isEmpty_iff.mp blank
  rw [Renderer.line]
  split
  case isTrue blank =>
    constructor
    · intro same
      cases same
      refine ⟨⟨line, ""⟩, ⟨rfl, [], rfl, ?_⟩, ?_⟩
      · rw [bare blank]
        exact .nil
      · simp [WrittenLine.rendered, WrittenLine.isBlank, blank]
    · rintro ⟨written, ⟨rfl, -⟩, rfl⟩
      simp [WrittenLine.rendered, WrittenLine.isBlank, blank]
  case isFalse filled =>
    simp only [bind_eq_ok_iff, mapM_eq_ok_iff]
    constructor
    · rintro ⟨texts, rendered, same⟩
      cases same
      exact ⟨⟨line, String.join texts⟩, ⟨rfl, texts, rfl, rendered⟩,
        by simp [WrittenLine.rendered, WrittenLine.isBlank, WrittenLine.hasDirective, filled]⟩
    · rintro ⟨written, ⟨rfl, texts, joined, rendered⟩, rfl⟩
      refine ⟨texts, rendered, ?_⟩
      simp [WrittenLine.rendered, WrittenLine.isBlank, WrittenLine.hasDirective, filled, joined, pure, Except.pure]

theorem lines_eq_ok_iff (lines : List Line) (shown : List RenderedLine) :
    lines.mapM (renderer.line overrides node depth) = .ok shown ↔
      ∃ written, List.Forall₂ (WrittenLine.WrittenBy renderer overrides node depth) lines written ∧
        written.map (WrittenLine.rendered depth) = shown := by
  simp only [mapM_eq_ok_iff, line_eq_ok_iff]
  induction lines generalizing shown with
  | nil => simp [eq_comm]
  | cons line lines ih =>
    simp only [List.forall₂_cons_left_iff, ih]
    constructor
    · rintro ⟨_, _, ⟨first, firstWritten, rfl⟩, ⟨later, laterWritten, rfl⟩, rfl⟩
      exact ⟨first :: later, ⟨first, later, firstWritten, laterWritten, rfl⟩, rfl⟩
    · rintro ⟨_, ⟨first, later, firstWritten, laterWritten, rfl⟩, rfl⟩
      exact ⟨_, _, ⟨first, firstWritten, rfl⟩, ⟨later, laterWritten, rfl⟩, rfl⟩

end Renderer

/-- A template is written if each of its lines is. Its text has those lines, in their order, that are not blank and have
no directive or something to show, and blank lines where two of them are apart. -/
theorem Profile.expand_eq_ok_iff_kept (profile : Profile) (declared : List String) (fuel : Nat) (template : Template)
    (node : Node) (depth : Nat) (text : String) :
    (Rules.rendererAt profile declared fuel).expand template node depth = .ok text ↔
      ∃ less lines kept rest, fuel = less + 1 ∧
        List.Forall₂ (WrittenLine.WrittenBy (Rules.rendererAt profile declared less) profile.overrides node depth)
          template.lines lines ∧
        KeptLines lines kept rest ∧ kept.map KeptLine.line = lines.filter WrittenLine.isKept ∧
        text = KeptLine.text profile.indent depth kept := by
  cases fuel with
  | zero => exact ⟨nofun, by rintro ⟨less, _, _, _, enough, _⟩; omega⟩
  | succ less =>
    change Renderer.step profile.overrides (Rules.rendererAt profile declared less) template node depth = .ok text ↔ _
    simp only [Renderer.step, bind_eq_ok_iff, Renderer.lines_eq_ok_iff]
    constructor
    · rintro ⟨_, ⟨lines, written, rfl⟩, same⟩
      cases same
      obtain ⟨kept, rest, parted⟩ := KeptLines.exists_kept lines
      exact ⟨less, lines, kept, rest, rfl, written, parted, parted.filter_isKept.symm, parted.layOut_eq _⟩
    · rintro ⟨_, lines, kept, rest, enough, written, parted, -, rfl⟩
      cases enough
      exact ⟨_, ⟨lines, written, rfl⟩, congrArg Except.ok (parted.layOut_eq _)⟩

end Retarget
