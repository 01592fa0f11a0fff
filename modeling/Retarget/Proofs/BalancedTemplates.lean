import Retarget.Proofs.BalancedTexts
import Retarget.Proofs.Building
import Retarget.Proofs.TemplateOutlines

/-! Balanced templates. Whether a template closes all brackets and literals that it opens is computed from its texts:
what a directive writes is complete in itself, wherever it stands. On the way, the parts of a line outside all brackets
are found. -/
namespace Retarget

/-- A check passes all templates that are parsed. -/
def Parsed.passes (check : Ground → Template → Bool) : Parsed → Bool
  | .entry tag added => added.passes check tag
  | .optional tag _ pair => check (.ofTag tag) pair.present && check (.ofTag tag) pair.fallback
  | .function _ _ added => check (.ofTag .standardCall) added.template
  | .method _ _ added => check (.ofTag .standardMethodCall) added.template
  | _ => true

namespace CSharp

/-- A part of a line outside all brackets: a piece of a text, or the place of a directive. -/
inductive Part where
  | piece (piece : Piece)
  | slot (directive : Directive)
  deriving DecidableEq

/-- What the text of a directive leaves the next character in: a verbatim literal may go on. -/
def contextBehind : Directive → Context
  | .override name => if name = "verbatim_string" then .closed else .code
  | _ => .code

/-- The tag of the nodes that an override is for, if it is for one tag only. -/
def overrideTag? (name : String) : Option Tag :=
  if name = "standard_call" then some .standardCall
  else if name = "standard_method_call" then some .standardMethodCall
  else none

/-- Whether all that a directive writes is complete, if names are. -/
def keepsBrackets (ground : Ground) : Directive → Bool
  | .placeholder path => ground.avoidsQuoted path
  | .join _ (.separator text) => decide (Balanced text.toList)
  | .override name => (overrideTag? name).all (· == ground.tag)
  | _ => true

/-- The position behind the segments of a line, and the parts of it outside all brackets. -/
def outline (ground : Ground) (position : Position) : List Segment → Option (Position × List Part)
  | [] => some (position, [])
  | .text value :: rest => do
    let (middle, pieces) ← scan position value.toList
    let (last, parts) ← outline ground middle rest
    return (last, pieces.map .piece ++ parts)
  | .directive directive :: rest =>
    if position.context = .code ∧ keepsBrackets ground directive = true then do
      let (last, parts) ← outline ground ⟨position.brackets, contextBehind directive⟩ rest
      return (last, if position.brackets = [] then .slot directive :: parts else parts)
    else none

/-- The position behind lines, none of which ends in a literal. -/
def outlineLines (ground : Ground) (position : Position) : List Line → Option Position
  | [] => some position
  | line :: rest => do
    let (last, _) ← outline ground position line.segments
    if last.context = .code then outlineLines ground last rest else none

/-- Whether a template closes what it opens. -/
def isBalanced (ground : Ground) (template : Template) : Bool :=
  outlineLines ground .outermost template.lines = some .outermost

/-- The text of a directive is complete, and shows some pieces. -/
def Completes (directive : Directive) (text : String) (pieces : List Piece) : Prop :=
  scan .outermost text.toList = some (⟨[], contextBehind directive⟩, pieces)

/-- Pieces that parts come to, with the texts that are written for their directives. -/
inductive Fills (written : Directive → String → Prop) : List Part → List Piece → Prop
  | nil : Fills written [] []
  | piece (piece : Piece) {parts : List Part} {row : List Piece} : Fills written parts row →
      Fills written (.piece piece :: parts) (piece :: row)
  | slot {directive : Directive} {text : String} {own : List Piece} {parts : List Part} {row : List Piece} :
      written directive text → Completes directive text own → Fills written parts row →
      Fills written (.slot directive :: parts) (own ++ row)

section Lines

variable {ground : Ground} {written : Directive → String → Prop}

theorem Fills.pieces {parts : List Part} {row : List Piece} (fills : Fills written parts row) (front : List Piece) :
    Fills written (front.map .piece ++ parts) (front ++ row) := by
  induction front with
  | nil => exact fills
  | cons piece front ih => exact .piece piece ih

section Filled

variable {parts : List Part} {row : List Piece}

theorem Fills.eq_of_nil (fills : Fills written [] row) : row = [] := by
  cases fills
  rfl

theorem Fills.exists_of_piece {piece : Piece} (fills : Fills written (.piece piece :: parts) row) :
    ∃ rest, Fills written parts rest ∧ row = piece :: rest := by
  cases fills with
  | piece _ fills => exact ⟨_, fills, rfl⟩

theorem Fills.exists_of_slot {directive : Directive} (fills : Fills written (.slot directive :: parts) row) :
    ∃ text own rest, written directive text ∧ Completes directive text own ∧ Fills written parts rest ∧
      row = own ++ rest := by
  cases fills with
  | slot came completes fills => exact ⟨_, _, _, came, completes, fills, rfl⟩

theorem Fills.exists_of_pieces (pieces : List Piece) (fills : Fills written (pieces.map .piece ++ parts) row) :
    ∃ rest, Fills written parts rest ∧ row = pieces ++ rest := by
  induction pieces generalizing row with
  | nil => exact ⟨row, fills, rfl⟩
  | cons piece pieces ih =>
    obtain ⟨_, later, rfl⟩ := fills.exists_of_piece
    obtain ⟨rest, behind, rfl⟩ := ih later
    exact ⟨rest, behind, rfl⟩

theorem Fills.eq_of_pieces (pieces : List Piece) (fills : Fills written (pieces.map .piece) row) : row = pieces := by
  rw [← List.append_nil (pieces.map _)] at fills
  obtain ⟨rest, ends, rfl⟩ := fills.exists_of_pieces pieces
  rw [ends.eq_of_nil, List.append_nil]

end Filled

theorem Completes.scan_eq {directive : Directive} {text : String} {pieces : List Piece}
    (completes : Completes directive text pieces) (bracket : Bracket) (around : List Bracket) :
    scan ⟨bracket :: around, .code⟩ text.toList = some (⟨bracket :: around, contextBehind directive⟩, []) :=
  scan_around bracket around completes

/-- What is written for a segment. -/
def Segment.Written (written : Directive → String → Prop) : Segment → String → Prop
  | .text value, text => text = value
  | .directive directive, text => written directive text

/-- A line is scanned as its outline says. -/
theorem scan_outline
    (complete : ∀ directive, keepsBrackets ground directive = true → ∀ text, written directive text →
      ∃ pieces, Completes directive text pieces)
    {segments : List Segment} {texts : List String} (matched : List.Forall₂ (Segment.Written written) segments texts)
    {position last : Position} {parts : List Part} (outlined : outline ground position segments = some (last, parts)) :
    ∃ row, scan position (String.join texts).toList = some (last, row) ∧ Fills written parts row := by
  induction matched generalizing position parts with
  | nil =>
    cases outlined
    exact ⟨[], rfl, .nil⟩
  | @cons segment text segments texts here _ ih =>
    rw [String.join_cons, String.toList_append]
    cases segment with
    | text value =>
      cases (here : text = value)
      simp only [outline, Option.bind_eq_bind, Option.bind_eq_some_iff, Option.pure_def, Option.some.injEq,
        Prod.mk.injEq] at outlined
      obtain ⟨⟨middle, pieces⟩, scanned, ⟨final, others⟩, outlined, rfl, rfl⟩ := outlined
      obtain ⟨row, later, fills⟩ := ih outlined
      exact ⟨pieces ++ row, scan_append scanned later, fills.pieces pieces⟩
    | directive directive =>
      rw [outline] at outlined
      split at outlined
      case isFalse => cases outlined
      rename_i condition
      obtain ⟨inCode, keeps⟩ := condition
      simp only [Option.bind_eq_bind, Option.bind_eq_some_iff, Option.pure_def, Option.some.injEq,
        Prod.mk.injEq] at outlined
      obtain ⟨⟨final, others⟩, outlined, rfl, rfl⟩ := outlined
      obtain ⟨row, later, fills⟩ := ih outlined
      obtain ⟨pieces, completes⟩ := complete directive keeps text here
      obtain ⟨brackets, context⟩ := position
      cases (inCode : context = .code)
      cases brackets with
      | nil => exact ⟨pieces ++ row, scan_append completes later, .slot here completes fills⟩
      | cons bracket around => exact ⟨row, scan_append (completes.scan_eq bracket around) later, fills⟩

end Lines

section Layout

/-- Rendered lines lead from one position to another, and each of them ends in code. -/
inductive Leads : Position → List RenderedLine → Position → Prop
  | nil (position : Position) : Leads position [] position
  | blank {position last : Position} {rest : List RenderedLine} : Leads position rest last →
      Leads position (.blank :: rest) last
  | content (depth : Nat) (hasDirective : Bool) {text : String} {position middle last : Position}
      {pieces : List Piece} {rest : List RenderedLine} : scan position text.toList = some (middle, pieces) →
      middle.context = .code → Leads middle rest last →
      Leads position (.content depth hasDirective text :: rest) last

theorem scan_plain (brackets : List Bracket) (chars : List Char) (plain : ∀ c ∈ chars, isPlain c = true) :
    ∃ pieces, scan ⟨brackets, .code⟩ chars = some (⟨brackets, .code⟩, pieces) :=
  (Balanced.plain plain).scan_eq brackets

theorem balanced_of_isAllBlank (chars : List Char) (blank : Text.isAllBlank chars = true) : Balanced chars :=
  .plain fun c member => isPlain_of_isBlank c (List.all_eq_true.mp blank c member)

/-- A blank line does not change the position. -/
theorem eq_of_isAllBlank {position last : Position} {chars : List Char} {pieces : List Piece}
    (blank : Text.isAllBlank chars = true) (inCode : position.context = .code)
    (scanned : scan position chars = some (last, pieces)) : last = position := by
  obtain ⟨brackets, context⟩ := position
  cases (inCode : context = .code)
  obtain ⟨_, stays⟩ := (balanced_of_isAllBlank chars blank).scan_eq brackets
  cases scanned.symm.trans stays
  rfl

variable (indent : Indent) {lines : List RenderedLine} {position last : Position} (leads : Leads position lines last)
  (inCode : position.context = .code)
include leads inCode

theorem scan_tail_kept (afterDirective pending dropped : Bool) :
    ∃ pieces, scan position (OutputLine.tail indent (RenderedLine.kept afterDirective pending dropped lines)) =
      some (last, pieces) := by
  induction leads generalizing afterDirective pending dropped with
  | nil => exact ⟨[], rfl⟩
  | blank _ ih => exact ih inCode _ _ _
  | @content depth hasDirective text position middle last pieces rest scanned ends _ ih =>
    rw [RenderedLine.kept]
    split
    · rename_i gone
      rw [Bool.and_eq_true] at gone
      cases eq_of_isAllBlank gone.2 inCode scanned
      exact ih inCode _ _ _
    · obtain ⟨brackets, context⟩ := position
      cases (inCode : context = .code)
      obtain ⟨others, later⟩ := ih ends hasDirective false false
      obtain ⟨_, feed⟩ := scan_plain brackets ['\n'] (List.forall_mem_singleton.mpr rfl)
      obtain ⟨_, margin⟩ := (balanced_margin indent depth).scan_eq brackets
      have line := scan_append feed (scan_append margin (scan_append scanned later))
      dsimp only
      split
      all_goals simp only [OutputLine.tail_blank, OutputLine.tail_filled]
      · exact ⟨_, scan_append feed line⟩
      · exact ⟨_, line⟩

/-- Where lines lead to, a text leads to that they are laid out as. -/
theorem scan_layOut : ∃ pieces, scan position (layOut indent lines).toList = some (last, pieces) := by
  have start (dropped : Bool) : ∃ pieces,
      scan position (OutputLine.join indent (RenderedLine.kept false false dropped lines)).toList =
        some (last, pieces) := by
    induction leads generalizing dropped with
    | nil => exact ⟨[], rfl⟩
    | blank _ ih => exact ih inCode _
    | @content depth hasDirective text position middle last pieces rest scanned ends rest ih =>
      rw [RenderedLine.kept]
      split
      · rename_i gone
        rw [Bool.and_eq_true] at gone
        cases eq_of_isAllBlank gone.2 inCode scanned
        exact ih inCode _
      · obtain ⟨others, later⟩ := scan_tail_kept indent rest ends hasDirective false false
        simp only [Bool.false_and, Bool.false_eq_true, if_false, OutputLine.toList_join, OutputLine.unindented]
        exact ⟨_, scan_append scanned later⟩
  exact start false

end Layout

end CSharp
end Retarget
