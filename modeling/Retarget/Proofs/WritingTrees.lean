import Retarget.Proofs.Writing

/-! Trees can be written. Every nested template takes one step of the expansion, and a node takes at most
two of them before its children take theirs, so that twice the size of a tree is always enough. -/
namespace Retarget

namespace Rules

variable {allowed : GenerateError → Prop} {rules : Rules} {profile : Profile} {node : Node}

/-- A switch finds a case that fits the node. -/
theorem exists_case (switch : Switch) (checked : rules.switchFits node.tag switch = true) (parts : node.PartsMatch) :
    ∃ resolved key template situation, node.resolve switch.on = .ok resolved ∧ resolved.discriminant = .ok key ∧
      switch.select? key = some template ∧ situation.Holds node ∧
      rules.templateFits situation false template = true := by
  rw [switchFits, Bool.and_eq_true, List.isEmpty_iff] at checked
  obtain ⟨single, cases⟩ := checked
  have resolved (field : Field Node) (stored : node.attr? switch.on.first = some field) :
      node.resolve switch.on = .ok ⟨node.tag, switch.on.first, field⟩ := by
    simp only [Node.resolve, single, Node.resolveFrom, stored]
  split at cases
  · rename_i flag
    obtain ⟨field, stored, fitting⟩ := node.attr?_of_shapeOf? _ _ flag
    cases field with
    | bool value =>
      have inCases : (if value then "true" else "false") ∈ ["true", "false"] := by cases value <;> simp
      have found := List.all_eq_true.mp cases _ inCases
      rw [Option.any_eq_true] at found
      obtain ⟨template, selected, templateFits⟩ := found
      exact ⟨_, _, template, _, resolved _ stored, rfl, selected, Situation.holds_ofTag node _ rfl, templateFits⟩
    | _ => cases fitting
  · simp only [Bool.and_eq_true, beq_iff_eq] at cases
    obtain ⟨⟨loop, isIterators⟩, cases⟩ := cases
    obtain ⟨kind, type⟩ := node
    cases kind with
    | forStatement iterators sequences body =>
      have found := List.all_eq_true.mp cases _ parts.1.1
      rw [Option.any_eq_true] at found
      obtain ⟨template, selected, templateFits⟩ := found
      refine ⟨_, _, template, _, resolved (.node iterators) ?_, rfl, selected, ?_, templateFits⟩
      · rw [isIterators]
        rfl
      · refine ⟨rfl, fun _ member => absurd member List.not_mem_nil, fun pair same => ?_⟩
        cases same
        exact ⟨iterators, sequences, body, rfl, rfl, rfl⟩
    | _ => cases loop
  · cases cases

section Trees

variable (fits : rules.FitsProfile profile) (sound : ∀ rule ∈ rules.overrides, rule.Sound profile.toTarget)
  (declared : List String)
include fits sound

/-- The renderer of a profile that has so many expansions left. -/
def rendererAt (profile : Profile) (declared : List String) (fuel : Nat) : Renderer :=
  ⟨profile.toTarget, declared, expand profile.toTarget profile.overrides declared fuel⟩

variable {declared}
variable (writable : node.AllWritable allowed profile.toTarget declared)
  (below : ∀ fuel, 2 * node.size ≤ fuel + 2 → (rendererAt profile declared fuel).WritesBelow allowed node.size)
include writable below

theorem nested_safe (fuel : Nat) (enough : 2 * node.size ≤ fuel + 1) (situation : Situation) (template : Template)
    (depth : Nat) (holds : situation.Holds node) (checked : rules.templateFits situation true template = true) :
    Safe allowed ((rendererAt profile declared fuel).expand template node depth) := by
  obtain ⟨inner, rfl⟩ : ∃ inner, fuel = inner + 1 := ⟨fuel - 1, by have := node.size_pos; omega⟩
  have ready : (rendererAt profile declared inner).Ready allowed node true := ⟨writable, below inner (by omega), nofun⟩
  exact step_safe fits sound rfl ready holds nofun template checked depth

theorem entry_safe (fuel : Nat) (enough : 2 * node.size ≤ fuel) (situation : Situation) (template : Template)
    (depth : Nat) (holds : situation.Holds node) (checked : rules.templateFits situation false template = true) :
    Safe allowed ((rendererAt profile declared fuel).expand template node depth) := by
  obtain ⟨inner, rfl⟩ : ∃ inner, fuel = inner + 1 := ⟨fuel - 1, by have := node.size_pos; omega⟩
  have expands := nested_safe fits sound writable below inner (by omega)
  refine step_safe fits sound rfl ⟨writable, below inner (by omega), fun _ entry called depth => ?_⟩ holds
    (fun _ => expands) template checked depth
  change Imports.operation? profile.library node = some entry at called
  obtain ⟨kind, type⟩ := node
  cases kind with
  | standardCall space function args =>
    exact expands _ _ depth (Situation.holds_ofTag _ _ rfl) (fits.functions space function entry called)
  | standardMethodCall receiver message args =>
    exact expands _ _ depth (Situation.holds_ofTag _ _ rfl) (fits.methods _ message entry called)
  | _ => cases called

theorem render_safe_of_below (plain : node.tag.isPart = false) (fuel : Nat) (enough : 2 * node.size ≤ fuel)
    (depth : Nat) : Safe allowed ((rendererAt profile declared fuel).render node depth) := by
  have expands := entry_safe fits sound writable below fuel enough
  obtain ⟨entry, registered, entryFits⟩ := fits.entries node.tag plain
  have found : (rendererAt profile declared fuel).target.entry? node.tag = some entry := registered
  rw [Renderer.render, found]
  cases entry with
  | template template => exact expands _ template depth (Situation.holds_ofTag node _ rfl) entryFits
  | switch switch =>
    obtain ⟨resolved, key, template, situation, path, discriminant, selected, holds, templateFits⟩ :=
      exists_case switch entryFits writable.self.parts
    simp only [path, discriminant, selected, bind, Except.bind]
    exact expands situation template depth holds templateFits

end Trees

/-- A tree whose nodes are writable is rendered, or what goes wrong is allowed. -/
theorem render_safe (fits : rules.FitsProfile profile) (sound : ∀ rule ∈ rules.overrides, rule.Sound profile.toTarget)
    (declared : List String) (node : Node) (writable : node.AllWritable allowed profile.toTarget declared)
    (plain : node.tag.isPart = false) (fuel : Nat) (enough : 2 * node.size ≤ fuel) (depth : Nat) :
    Safe allowed ((rendererAt profile declared fuel).render node depth) := by
  induction bound : node.size using Nat.strongRecOn generalizing node fuel depth with
  | ind size ih =>
    refine render_safe_of_below fits sound writable (fun left enough inner smaller writable plain depth => ?_)
      plain fuel enough depth
    exact ih inner.size (by omega) inner writable plain left (by omega) depth rfl

end Rules
end Retarget
