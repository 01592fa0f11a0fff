import Retarget.Proofs.RealignedTexts
import Retarget.Proofs.Totality

/-! Runs that are cut short. The steps given do not suffice for a template exactly if they do not for one of its
directives, and all that stands before this one comes to a text. -/
namespace Retarget

section Unending

/-- The steps did not suffice. -/
def IsUnending (result : Except GenerateError α) : Prop := ∃ tag, result = .error (.unending tag)

theorem not_isUnending_ok (value : α) : ¬IsUnending (.ok value : Except GenerateError α) := nofun

theorem isUnending_bind_iff (first : Except GenerateError α) (next : α → Except GenerateError β) :
    IsUnending (first >>= next) ↔ IsUnending first ∨ ∃ value, first = .ok value ∧ IsUnending (next value) := by
  cases first with
  | error cause =>
    constructor
    · rintro ⟨tag, same⟩
      cases same
      exact .inl ⟨tag, rfl⟩
    · rintro (⟨tag, same⟩ | ⟨_, same, _⟩)
      · cases same
        exact ⟨tag, rfl⟩
      · cases same
  | ok value =>
    constructor
    · exact fun unending => .inr ⟨value, rfl, unending⟩
    · rintro (⟨_, same⟩ | ⟨_, same, unending⟩)
      · cases same
      · cases same
        exact unending

/-- A traversal runs out of steps at the first member that does. -/
theorem isUnending_mapM_iff (f : α → Except GenerateError β) (xs : List α) :
    IsUnending (xs.mapM f) ↔
      ∃ before x after, xs = before ++ x :: after ∧ (∀ y ∈ before, ∃ value, f y = .ok value) ∧ IsUnending (f x) := by
  induction xs with
  | nil =>
    constructor
    · exact fun unending => absurd unending (not_isUnending_ok _)
    · rintro ⟨before, x, after, split, _⟩
      simp at split
  | cons x xs ih =>
    have afterwards (value : β) (ys : Except GenerateError (List β)) :
        IsUnending (do return value :: (← ys)) ↔ IsUnending ys := by
      rw [isUnending_bind_iff]
      simp only [or_iff_left_iff_imp]
      rintro ⟨_, _, unending⟩
      exact absurd unending (not_isUnending_ok _)
    rw [List.mapM_cons, isUnending_bind_iff]
    simp only [afterwards, ih]
    constructor
    · rintro (unending | ⟨value, first, before, y, after, rfl, texts, unending⟩)
      · exact ⟨[], x, xs, rfl, nofun, unending⟩
      · exact ⟨x :: before, y, after, rfl, List.forall_mem_cons.mpr ⟨⟨value, first⟩, texts⟩, unending⟩
    · rintro ⟨before, y, after, split, texts, unending⟩
      cases before with
      | nil =>
        cases split
        exact .inl unending
      | cons z before =>
        cases split
        rw [List.forall_mem_cons] at texts
        obtain ⟨⟨value, first⟩, texts⟩ := texts
        exact .inr ⟨value, first, before, y, after, rfl, texts, unending⟩

/-- Where one member is unending, and those before it come to a value if they are not, there is a first unending one. -/
theorem exists_first_isUnending (f : α → Except GenerateError β) (before : List α) (x : α) (after : List α)
    (earlier : ∀ y ∈ before, (∃ value, f y = .ok value) ∨ IsUnending (f y)) (unending : IsUnending (f x)) :
    ∃ front first rest, before ++ x :: after = front ++ first :: rest ∧ (∀ y ∈ front, ∃ value, f y = .ok value) ∧
      IsUnending (f first) := by
  induction before with
  | nil => exact ⟨[], x, after, rfl, nofun, unending⟩
  | cons y before ih =>
    rw [List.forall_mem_cons] at earlier
    rcases earlier.1 with value | sooner
    · obtain ⟨front, first, rest, split, texts, unending⟩ := ih earlier.2
      exact ⟨y :: front, first, rest, congrArg (y :: ·) split, List.forall_mem_cons.mpr ⟨value, texts⟩, unending⟩
    · exact ⟨[], y, before ++ x :: after, rfl, nofun, sooner⟩

end Unending

section Runs

/-- Runs that end end alike, whatever their steps and depths are; more steps never cut a run short. -/
def Coherent (run : Nat → Nat → Except GenerateError String) : Prop :=
  ∀ fuel extra depth other, Follows GenerateError.TooFewSteps SameLines (run fuel depth) (run (fuel + extra) other)

/-- Enough steps come to a text. -/
def Succeeds (run : Nat → Nat → Except GenerateError String) : Prop := ∃ fuel depth text, run fuel depth = .ok text

variable {run : Nat → Nat → Except GenerateError String} (coherent : Coherent run)
include coherent

theorem Coherent.isUnending_of_le {less fuel : Nat} (le : less ≤ fuel) {depth : Nat}
    (unending : IsUnending (run fuel depth)) (other : Nat) : IsUnending (run less other) := by
  obtain ⟨extra, rfl⟩ := Nat.exists_eq_add_of_le le
  obtain ⟨tag, same⟩ := unending
  have follows := coherent less extra other depth
  rw [same] at follows
  generalize run less other = result at follows ⊢
  cases follows with
  | error => exact ⟨tag, rfl⟩
  | cut may =>
    obtain ⟨own, rfl⟩ := may
    exact ⟨own, rfl⟩

/-- What comes to a text with enough steps is cut short with fewer, or comes to a text as well. -/
theorem Coherent.ok_of_succeeds (succeeds : Succeeds run) (fuel depth : Nat) :
    (∃ text, run fuel depth = .ok text) ∨ IsUnending (run fuel depth) := by
  obtain ⟨enough, other, text, same⟩ := succeeds
  rcases Nat.le_total fuel enough with le | le
  · obtain ⟨extra, rfl⟩ := Nat.exists_eq_add_of_le le
    have follows := coherent fuel extra depth other
    rw [same] at follows
    generalize run fuel depth = result at follows ⊢
    cases follows with
    | ok => exact .inl ⟨_, rfl⟩
    | cut may =>
      obtain ⟨tag, rfl⟩ := may
      exact .inr ⟨tag, rfl⟩
  · obtain ⟨extra, rfl⟩ := Nat.exists_eq_add_of_le le
    have follows := coherent enough extra other depth
    rw [same] at follows
    generalize run (enough + extra) depth = result at follows ⊢
    cases follows with
    | ok => exact .inl ⟨_, rfl⟩

end Runs

section Attributes

theorem not_isUnending_resolve (node : Node) (path : Path) : ¬IsUnending (node.resolve path) := by
  obtain ⟨first, rest⟩ := path
  rw [Node.resolve]
  induction rest generalizing node first with
  | nil =>
    simp only [Node.resolveFrom]
    split <;> rintro ⟨tag, same⟩ <;> cases same
  | cons next rest ih =>
    simp only [Node.resolveFrom]
    split
    · exact ih _ next
    all_goals
      rintro ⟨tag, same⟩
      cases same

theorem not_isUnending_discriminant (resolved : Resolved) : ¬IsUnending resolved.discriminant := by
  rw [Resolved.discriminant]
  split <;> rintro ⟨tag, same⟩ <;> cases same

theorem not_isUnending_renderType (renderer : Renderer) (type : SemType) : ¬IsUnending (renderer.renderType type) := by
  have safe : Safe (fun cause => ∃ name, cause = .unknownType name) (renderer.renderType type) :=
    SemType.render_safe _ _ type (.inr fun name => ⟨name, rfl⟩)
  rintro ⟨tag, same⟩
  rw [same] at safe
  obtain ⟨name, same⟩ := safe
  cases same

/-- The template of a node, by the entry for its tag. -/
def Target.templateFor (target : Target) (node : Node) : Except GenerateError Template :=
  match target.entry? node.tag with
  | none => .error (.noTemplate node.tag)
  | some (.template template) => .ok template
  | some (.switch switch) => do
    let key ← (← node.resolve switch.on).discriminant
    match switch.select? key with
    | none => .error (.discriminantMismatch node.tag key)
    | some template => .ok template

theorem Renderer.render_eq (renderer : Renderer) (node : Node) (depth : Nat) :
    renderer.render node depth =
      renderer.target.templateFor node >>= fun template => renderer.expand template node depth := by
  rw [render, Target.templateFor]
  cases renderer.target.entry? node.tag with
  | none => rfl
  | some entry =>
    cases entry with
    | template template => rfl
    | switch switch =>
      simp only [bind_assoc]
      congr 1
      funext resolved
      congr 1
      funext key
      cases switch.select? key <;> rfl

theorem Target.not_isUnending_templateFor (target : Target) (node : Node) : ¬IsUnending (target.templateFor node) := by
  rw [templateFor]
  split
  · rintro ⟨tag, same⟩
    cases same
  · exact not_isUnending_ok _
  · simp only [isUnending_bind_iff, not_isUnending_resolve, not_isUnending_discriminant, false_or, not_exists, not_and]
    intro resolved _ key _
    split
    · rintro ⟨tag, same⟩
      cases same
    · exact not_isUnending_ok _

theorem Renderer.isUnending_render_iff (renderer : Renderer) (node : Node) (depth : Nat) :
    IsUnending (renderer.render node depth) ↔
      ∃ template, renderer.target.templateFor node = .ok template ∧
        IsUnending (renderer.expand template node depth) := by
  rw [render_eq, isUnending_bind_iff, or_iff_right (Target.not_isUnending_templateFor _ _)]

end Attributes

section Templates

namespace Renderer

variable (overrides : OverrideTable) (renderer : Renderer) (node : Node) (depth : Nat)

theorem line_ok_iff (line : Line) :
    (∃ rendered, renderer.line overrides node depth line = .ok rendered) ↔
      ∀ segment ∈ line.segments, ∃ text, renderer.segment overrides node (depth + line.level) segment = .ok text := by
  rw [Renderer.line]
  split
  · rename_i blank
    rw [Line.isBlank, List.isEmpty_iff] at blank
    rw [blank]
    exact ⟨fun _ => List.forall_mem_nil _, fun _ => ⟨_, rfl⟩⟩
  · simp only [bind_eq_ok_iff]
    constructor
    · rintro ⟨_, texts, rendered, _⟩ segment member
      obtain ⟨text, _, same⟩ := exists_of_forall₂ ((mapM_eq_ok_iff _ _ _).mp rendered) segment member
      exact ⟨text, same⟩
    · intro texts
      obtain ⟨parts, rendered⟩ := exists_mapM_eq_ok _ _ texts
      exact ⟨_, parts, rendered, rfl⟩

theorem isUnending_line_iff (line : Line) :
    IsUnending (renderer.line overrides node depth line) ↔
      ∃ earlier segment later, line.segments = earlier ++ segment :: later ∧
        (∀ other ∈ earlier, ∃ text, renderer.segment overrides node (depth + line.level) other = .ok text) ∧
        IsUnending (renderer.segment overrides node (depth + line.level) segment) := by
  rw [← isUnending_mapM_iff, Renderer.line]
  split
  · rename_i blank
    rw [Line.isBlank, List.isEmpty_iff] at blank
    rw [blank]
    exact ⟨fun unending => absurd unending (not_isUnending_ok _), fun unending => absurd unending (not_isUnending_ok _)⟩
  · rw [isUnending_bind_iff, or_iff_left]
    rintro ⟨_, _, unending⟩
    exact absurd unending (not_isUnending_ok _)

theorem isUnending_step_iff (template : Template) :
    IsUnending (renderer.step overrides template node depth) ↔
      ∃ before line after, template.lines = before ++ line :: after ∧
        (∀ other ∈ before, ∃ rendered, renderer.line overrides node depth other = .ok rendered) ∧
        IsUnending (renderer.line overrides node depth line) := by
  rw [← isUnending_mapM_iff, Renderer.step, isUnending_bind_iff, or_iff_left]
  rintro ⟨_, _, unending⟩
  exact absurd unending (not_isUnending_ok _)

/-- The members of a sequence in the order in which they are rendered. -/
theorem isUnending_renderBlock_iff (renderer : Renderer) (nodes : List Node) (depth : Nat) (mode : JoinMode) :
    IsUnending (renderer.renderBlock nodes depth mode) ↔
      ∃ before child after, nodes = before ++ child :: after ∧
        (∀ earlier ∈ before, ∃ text, renderer.render earlier depth = .ok text) ∧
        IsUnending (renderer.render child depth) := by
  rw [renderBlock, isUnending_bind_iff, or_iff_left]
  · rw [isUnending_mapM_iff]
    refine exists_congr fun before => exists_congr fun child => exists_congr fun after => and_congr_right fun _ => ?_
    refine and_congr (forall₂_congr fun earlier _ => ?_) ?_
    · constructor
      · rintro ⟨_, ended⟩
        obtain ⟨text, rendered, _⟩ := (bind_eq_ok_iff _ _ _).mp ended
        exact ⟨text, rendered⟩
      · rintro ⟨text, rendered⟩
        exact ⟨_, (bind_eq_ok_iff _ _ _).mpr ⟨text, rendered, rfl⟩⟩
    · rw [isUnending_bind_iff, or_iff_left]
      rintro ⟨_, _, unending⟩
      exact absurd unending (not_isUnending_ok _)
  · rintro ⟨_, _, unending⟩
    exact absurd unending (not_isUnending_ok _)

end Renderer

end Templates

end Retarget
