import Retarget.Proofs.TemplateSources
import Retarget.Proofs.UnbrokenTexts

/-! Templates without line feeds. The texts and separators of a template that is parsed come from the lines of its
source, so that no line feed is in them; the tables of a profile that is built hold no other templates. -/
namespace Retarget

/-- The separator of a join is unbroken. -/
def JoinMode.Inline : JoinMode → Prop
  | .separator text => Unbroken text
  | _ => True

def Segment.Inline : Segment → Prop
  | .text value => Unbroken value
  | .directive (.join _ mode) => mode.Inline
  | .directive _ => True

def Template.Inline (template : Template) : Prop := ∀ line ∈ template.lines, ∀ segment ∈ line.segments, segment.Inline

section Parsing

theorem JoinMode.inline_of_parse? (source : List Char) (mode : JoinMode) (parsed : parse? source = some mode)
    (clean : '\n' ∉ source) : mode.Inline := by
  cases mode with
  | separator text =>
    have asked : separator? source = some (.separator text) := by
      rw [parse?] at parsed
      split at parsed
      · cases parsed
      split at parsed
      · cases parsed
      split at parsed
      · cases parsed
      · exact parsed
    obtain ⟨quoted, inner, rfl, trimmed, same⟩ := (separator?_eq_some_iff _ _).mp asked
    cases same
    obtain ⟨left, right, split, _⟩ := Text.exists_trim quoted
    rw [trimmed] at split
    subst split
    exact (unbroken_ofList inner).mpr fun feed => clean (by simp [feed])
  | _ => trivial

theorem Directive.inline_of_parse? (body : List Char) (directive : Directive) (parsed : parse? body = some directive)
    (clean : '\n' ∉ body) : (Segment.directive directive).Inline := by
  cases directive with
  | join path mode =>
    rw [parse?.eq_def] at parsed
    split at parsed
    · simp at parsed
    · simp at parsed
    · simp at parsed
    · split at parsed
      · simp at parsed
      · rename_i front c rest split
        obtain ⟨_, rfl⟩ := eq_of_span body front c rest split
        simp only [Option.bind_eq_bind, Option.bind_eq_some_iff, Option.pure_def, Option.some.injEq] at parsed
        obtain ⟨_, _, way, read, same⟩ := parsed
        cases same
        exact JoinMode.inline_of_parse? rest mode read fun feed => clean (by simp [feed])
  | _ => trivial

/-- What is scanned so far, in text or in a directive. -/
def ScanState.read : ScanState → List Char
  | .text read => read
  | .directive read _ => read

theorem inline_of_scanSegments (owner line : String) (state : ScanState) (source : List Char) (segments : List Segment)
    (scanned : scanSegments owner line state source = .ok segments) (clean : '\n' ∉ state.read ++ source) :
    ∀ segment ∈ segments, segment.Inline := by
  have before (read : List Char) (others : List Segment) (unbroken : '\n' ∉ read)
      (inline : ∀ segment ∈ others, segment.Inline) : ∀ segment ∈ Segment.consText read others, segment.Inline := by
    rw [Segment.consText]
    split
    · exact inline
    · rw [List.forall_mem_cons]
      exact ⟨(unbroken_ofList _).mpr (by simpa using unbroken), inline⟩
  fun_induction scanSegments owner line state source generalizing segments with
  | case1 read =>
    cases scanned
    exact before read [] (by simpa [ScanState.read] using clean) (List.forall_mem_nil _)
  | case2 read rest ih =>
    obtain ⟨others, inner, rfl⟩ := (map_eq_ok_iff _ _ _).mp scanned
    simp only [ScanState.read, List.mem_append, List.mem_cons, not_or] at clean ih
    exact before read others clean.1 (ih others inner (by simpa using clean.2.2.2))
  | case3 read c rest _ ih =>
    refine ih segments scanned ?_
    simp only [ScanState.read, List.mem_append, List.mem_cons, not_or] at clean ⊢
    tauto
  | case4 => cases scanned
  | case5 => cases scanned
  | case6 read quoted c rest _ directive parsed ih =>
    obtain ⟨others, inner, rfl⟩ := (map_eq_ok_iff _ _ _).mp scanned
    simp only [ScanState.read, List.mem_append, List.mem_cons, not_or] at clean ih
    rw [List.forall_mem_cons]
    constructor
    · exact Directive.inline_of_parse? read.reverse directive parsed (by simpa using clean.1)
    · exact ih others inner (by simpa using clean.2.2)
  | case7 read quoted c rest _ ih =>
    refine ih segments scanned ?_
    simp only [ScanState.read, List.mem_append, List.mem_cons, not_or] at clean ⊢
    tauto

theorem Line.inline_of_parse (owner : String) (margin : Nat) (source : List Char) (line : Line) (clean : '\n' ∉ source)
    (parsed : parse owner margin source = .ok line) : ∀ segment ∈ line.segments, segment.Inline := by
  rw [parse] at parsed
  split at parsed
  · cases parsed
    exact List.forall_mem_nil _
  · obtain ⟨segments, scanned, rfl⟩ := (map_eq_ok_iff _ _ _).mp parsed
    exact inline_of_scanSegments owner _ _ _ segments scanned fun feed => clean (List.mem_of_mem_drop feed)

theorem Template.inline_of_parse (owner source : String) (template : Template)
    (parsed : parse owner source = .ok template) : template.Inline := by
  obtain ⟨lines, read, rfl⟩ := (map_eq_ok_iff _ _ _).mp parsed
  rw [mapM_eq_ok_iff] at read
  intro line listed
  obtain ⟨text, among, parsed⟩ := exists_of_forall₂ read.flip line listed
  refine Line.inline_of_parse owner _ text line ?_ parsed
  exact (Text.of_mem_lines source.toList text (mem_lines_of_mem_sourceLines _ text among)).1

end Parsing

section Building

def Switch.Inline (switch : Switch) : Prop := ∀ key template, switch.select? key = some template → template.Inline

def Entry.Inline : Entry → Prop
  | .template body => body.Inline
  | .switch choice => choice.Inline

def OptionalPair.Inline (pair : OptionalPair) : Prop := pair.present.Inline ∧ pair.fallback.Inline

/-- All templates in the tables of a target are inline. -/
structure Target.Inline (target : Target) : Prop where
  entries : ∀ tag entry, target.entry? tag = some entry → entry.Inline
  optionals : ∀ tag name pair, target.optional? tag name = some pair → pair.Inline
  functions : ∀ space name entry, target.library.function? space name = some entry → entry.template.Inline
  methods : ∀ receiver name entry, target.library.method? receiver name = some entry → entry.template.Inline

def Parsed.Inline : Parsed → Prop
  | .entry _ added => added.Inline
  | .optional _ _ pair => pair.Inline
  | .function _ _ added => added.template.Inline
  | .method _ _ added => added.template.Inline
  | _ => True

namespace Registration

theorem inline_of_parseSwitch (owner on : String) (cases : List (String × String)) (default : Option String)
    (switch : Switch) (parsed : parseSwitch owner on cases default = .ok switch) : switch.Inline := by
  rw [parseSwitch] at parsed
  split at parsed
  · cases parsed
  · simp only [bind_eq_ok_iff] at parsed
    obtain ⟨templates, read, fallback, readDefault, same⟩ := parsed
    cases same
    rw [mapM_eq_ok_iff] at read
    intro key template selected
    simp only [Switch.select?, Option.or_eq_some_iff] at selected
    rcases selected with inCases | ⟨_, isDefault⟩
    · obtain ⟨before, after, listed, _⟩ := List.lookup_eq_some_iff.mp inCases
      have member : (key, template) ∈ templates := by simp [listed]
      obtain ⟨entry, _, parsed⟩ := exists_of_forall₂ read.flip _ member
      obtain ⟨body, parsed, same⟩ := (bind_eq_ok_iff _ _ _).mp parsed
      cases same
      exact Template.inline_of_parse _ _ template parsed
    · subst isDefault
      cases default with
      | none => cases readDefault
      | some source =>
        rw [Option.mapM_some, map_eq_ok_iff] at readDefault
        obtain ⟨body, parsed, same⟩ := readDefault
        cases same
        exact Template.inline_of_parse _ _ template parsed

theorem inline_of_parsed (registration : Registration) (found : Parsed) (parses : registration.parsed = .ok found) :
    found.Inline := by
  cases registration.parsesTo_of_parsed found parses with
  | template read => exact Template.inline_of_parse _ _ _ read
  | switch read => exact inline_of_parseSwitch _ _ _ _ _ read
  | optional first second => exact ⟨Template.inline_of_parse _ _ _ first, Template.inline_of_parse _ _ _ second⟩
  | function _ read => exact Template.inline_of_parse _ _ _ read
  | method _ read => exact Template.inline_of_parse _ _ _ read
  | _ => trivial

end Registration

/-- The tables of a profile that is built hold inline templates only. -/
theorem Profile.inline_of_build (name extension : String) (registrations : List Registration) (built : Profile)
    (builds : build name extension registrations = .ok built) : built.toTarget.Inline := by
  have holds := holds_of_build builds fun registration _ found parses => registration.inline_of_parsed found parses
  exact ⟨holds.entries, holds.optionals, holds.functions, holds.methods⟩

end Building
end Retarget
