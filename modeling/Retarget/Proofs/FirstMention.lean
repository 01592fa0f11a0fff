import Retarget.Proofs.MarkChanges
import Retarget.Proofs.MarkedEvents
import Retarget.Tree.Build

/-! Marking is right in every scope. The scopes of a marked tree are those of the tree, each of them
marked in the names that it starts with, and the names declared at an event are those visible there. -/
namespace Retarget

open Declaration

namespace Scope

theorem mem_declare (scope : Scope) (name other : String) :
    other ∈ scope.declare name ↔ other ∈ scope ∨ other = name := by
  rw [declare]
  split
  · rename_i declared
    constructor
    · exact Or.inl
    · rintro (member | rfl)
      · exact member
      · exact declared
  · rw [List.mem_cons, or_comm]

theorem mem_declareAll (scope : Scope) (names : List String) (name : String) :
    name ∈ scope.declareAll names ↔ name ∈ scope ∨ name ∈ names := by
  induction names generalizing scope with
  | nil => simp [declareAll]
  | cons first rest ih =>
    have step := ih (scope.declare first)
    rw [declareAll] at step
    rw [declareAll, List.foldl_cons, step, mem_declare, List.mem_cons, or_assoc]

theorem mem_ofMentions (mentions : List Mention) (name : String) :
    name ∈ ofMentions mentions ↔ ∃ mention ∈ mentions, mention.name = name := by
  rw [ofMentions, mem_declareAll, List.mem_map]
  simp

theorem declareAll_ofMentions (seed mentions : List Mention) :
    (ofMentions seed).declareAll (mentions.map Mention.name) = ofMentions (seed ++ mentions) := by
  rw [ofMentions, ofMentions, List.map_append, declareAll, declareAll, declareAll, List.foldl_append]

end Scope

namespace Event

theorem advance_eq (scope : Scope) (events : List Event) :
    advance scope events = scope.declareAll ((events.filterMap mention?).map Mention.name) := by
  induction events generalizing scope with
  | nil => rfl
  | cons event rest ih =>
    rw [advance, List.foldl_cons, extend, List.filterMap_cons]
    cases event.mention? with
    | none => exact ih scope
    | some mention => exact ih (scope.declare mention.name)

/-- The scope at an event holds exactly the names that are visible there. -/
theorem advance_ofMentions (seed : List Mention) (before : List Event) :
    advance (.ofMentions seed) before = .ofMentions (visible seed before) := by
  rw [advance_eq, Scope.declareAll_ofMentions, visible]

theorem mention?_remark (scope : Scope) (event : Event) : (event.remark scope).mention? = event.mention? := by
  cases event <;> rfl

theorem filterMap_mention?_remarkAll (scope : Scope) (events : List Event) :
    (remarkAll scope events).filterMap mention? = events.filterMap mention? := by
  induction events generalizing scope with
  | nil => rfl
  | cons event rest ih => rw [remarkAll, List.filterMap_cons, List.filterMap_cons, mention?_remark, ih]

theorem visible_remarkAll (seed : List Mention) (scope : Scope) (before : List Event) :
    visible seed (remarkAll scope before) = visible seed before := by
  rw [visible, filterMap_mention?_remarkAll, visible]

theorem remarkAll_cons_append (scope : Scope) (before : List Event) (event : Event) (after : List Event) :
    remarkAll scope (before ++ event :: after) =
      remarkAll scope before ++ event.remark (advance scope before) ::
        remarkAll (event.extend (advance scope before)) after := by
  rw [remarkAll_append]
  rfl

/-- Every event of a marked body is one of the body before, marked in the scope there. -/
theorem exists_of_remarkAll_eq (scope : Scope) (events before : List Event) (event : Event) (after : List Event)
    (same : remarkAll scope events = before ++ event :: after) :
    ∃ start original rest, events = start ++ original :: rest ∧ before = remarkAll scope start ∧
      event = original.remark (advance scope start) := by
  induction before generalizing scope events with
  | nil =>
    cases events with
    | nil => cases same
    | cons original rest =>
      rw [remarkAll, List.nil_append, List.cons.injEq] at same
      exact ⟨[], original, rest, rfl, rfl, same.1.symm⟩
  | cons first before ih =>
    cases events with
    | nil => cases same
    | cons original rest =>
      rw [remarkAll, List.cons_append, List.cons.injEq] at same
      obtain ⟨start, found, others, rfl, rfl, rfl⟩ := ih (original.extend scope) rest same.2
      exact ⟨original :: start, found, others, rfl, by rw [remarkAll, same.1], rfl⟩

end Event

/-- Forgetting the marks. -/
def unmarking : Relabelling where
  apply
    | .assignment target value _ => .assignment target value false
    | kind => kind
  map f kind := by cases kind <;> rfl
  tag kind := by cases kind <;> rfl
  children kind := by cases kind <;> rfl

namespace Declaration

theorem eventsOf_markBody (scope : Scope) (body : List Node) :
    eventsOf (markBody scope body) = Event.remarkAll scope (eventsOf body) :=
  (tracks_body body (fun node _ => tracks node) scope).1

/-- The bodies of a marked body are those of the body, each marked in its own seed. -/
theorem reaches_of_reaches_markBody {start seed : List Mention} {outer body : List Node}
    (reached : Reaches start (markBody (.ofMentions start) outer) seed body) :
    ∃ original, Reaches start outer seed original ∧ body = markBody (.ofMentions seed) original := by
  induction reached with
  | self => exact ⟨outer, .self, rfl⟩
  | opens _ opened ih =>
    obtain ⟨around, reached, rfl⟩ := ih
    obtain ⟨before, after, split⟩ := List.append_of_mem opened
    rw [eventsOf_markBody] at split
    obtain ⟨start, event, rest, events, rfl, same⟩ := Event.exists_of_remarkAll_eq _ _ _ _ _ split
    cases event with
    | opens seed original =>
      rw [Event.remark, Event.opens.injEq] at same
      obtain ⟨rfl, rfl⟩ := same
      exact ⟨original, .opens reached (by rw [events]; simp), rfl⟩
    | _ => cases same
  | @closure seed _ _ _ _ _ _ split ih =>
    obtain ⟨around, reached, rfl⟩ := ih
    rw [eventsOf_markBody] at split
    obtain ⟨start, event, rest, events, rfl, same⟩ := Event.exists_of_remarkAll_eq _ _ _ _ _ split
    cases event with
    | closure params original =>
      rw [Event.remark, Event.closure.injEq, Event.advance_ofMentions, Scope.declareAll_ofMentions, visible] at same
      obtain ⟨rfl, rfl⟩ := same
      rw [Event.filterMap_mention?_remarkAll]
      exact ⟨original, .closure reached events, rfl⟩
    | _ => cases same

theorem reaches_markBody {start seed : List Mention} {outer body : List Node}
    (reached : Reaches start outer seed body) :
    Reaches start (markBody (.ofMentions start) outer) seed (markBody (.ofMentions seed) body) := by
  induction reached with
  | self => exact .self
  | opens _ opened ih =>
    obtain ⟨before, after, split⟩ := List.append_of_mem opened
    refine .opens ih ?_
    rw [eventsOf_markBody, split, Event.remarkAll_cons_append]
    exact List.mem_append_right _ List.mem_cons_self
  | @closure around _ middle _ _ _ _ split ih =>
    have marked := eventsOf_markBody (.ofMentions around) middle
    rw [split, Event.remarkAll_cons_append, Event.remark, Event.advance_ofMentions,
      Scope.declareAll_ofMentions] at marked
    have further := Reaches.closure ih marked
    rwa [Event.filterMap_mention?_remarkAll] at further

theorem firstMentions_markBody (seed : List Mention) (body : List Node) :
    FirstMentions seed (eventsOf (markBody (.ofMentions seed) body)) := by
  intro before name marked after split
  have visibility := exists_visible_iff seed before name
  rw [eventsOf_markBody] at split
  obtain ⟨start, event, rest, events, rfl, same⟩ := Event.exists_of_remarkAll_eq _ _ _ _ _ split
  cases event with
  | assigns original _ =>
    rw [Event.remark, Event.assigns.injEq, Event.advance_ofMentions] at same
    obtain ⟨rfl, rfl⟩ := same
    rw [Event.visible_remarkAll] at visibility
    rw [decide_eq_true_iff, Scope.mem_ofMentions, visibility]
    simp only [not_or, not_exists, not_and]
  | _ => cases same

/-- Marking changes nothing but marks. -/
theorem unmark_mark (node : Node) (scope : Scope) :
    ((mark node).run scope).1.relabel unmarking = node.relabel unmarking := by
  have left := changeMarks_mark (fun _ => false) false node scope
  rwa [Node.changeMarks_eq_relabel, Node.changeMarks_eq_relabel] at left

/-- A program that sets locals to zero, one after the other. -/
def zeroing (names : List String) : Node :=
  (ModuleDraft.statements {} (names.map fun name => .assignment (.localVar name (.named "Int")) (.int 0))).build

end Declaration
end Retarget
