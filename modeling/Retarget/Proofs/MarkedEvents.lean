import Retarget.Proofs.Marking
import Retarget.Proofs.Relabel

/-! What marking does to the events of a tree. It changes nothing in them but the marks and the
bodies inside, and where it changes no event it changes nothing at all. -/
namespace Retarget

open Declaration

namespace Event

/-- The scope behind an event. -/
def extend (scope : Scope) (event : Event) : Scope :=
  match event.mention? with
  | some mention => scope.declare mention.name
  | none => scope

/-- An event as the marking leaves it, in the scope before it. -/
def remark (scope : Scope) : Event → Event
  | binds mention => .binds mention
  | assigns name _ => .assigns name (name ∉ scope)
  | closure params body => .closure params (markBody (scope.declareAll (params.map Mention.name)) body)
  | opens seed body => .opens seed (markBody (.ofMentions seed) body)

def advance (scope : Scope) (events : List Event) : Scope := events.foldl extend scope

def remarkAll (scope : Scope) : List Event → List Event
  | [] => []
  | event :: rest => event.remark scope :: remarkAll (event.extend scope) rest

theorem advance_append (scope : Scope) (first second : List Event) :
    advance scope (first ++ second) = advance (advance scope first) second := List.foldl_append

theorem remarkAll_append (scope : Scope) (first second : List Event) :
    remarkAll scope (first ++ second) = remarkAll scope first ++ remarkAll (advance scope first) second := by
  induction first generalizing scope with
  | nil => rfl
  | cons event rest ih => simp [remarkAll, advance, ih]

theorem length_remarkAll (scope : Scope) (events : List Event) :
    (remarkAll scope events).length = events.length := by
  induction events generalizing scope with
  | nil => rfl
  | cons event rest ih => simp [remarkAll, ih]

theorem remarkAll_of_silent (scope : Scope) (events : List Event)
    (silent : ∀ event ∈ events, event.mention? = none) : remarkAll scope events = events.map (remark scope) := by
  induction events with
  | nil => rfl
  | cons event rest ih =>
    rw [List.forall_mem_cons] at silent
    rw [remarkAll, extend, silent.1, List.map_cons]
    exact congrArg _ (ih silent.2)

theorem advance_of_silent (scope : Scope) (events : List Event)
    (silent : ∀ event ∈ events, event.mention? = none) : advance scope events = scope := by
  induction events with
  | nil => rfl
  | cons event rest ih =>
    rw [List.forall_mem_cons] at silent
    rw [advance, List.foldl_cons, extend, silent.1]
    exact ih silent.2

theorem advance_binds (scope : Scope) (mentions : List Mention) :
    advance scope (mentions.map .binds) = scope.declareAll (mentions.map Mention.name) := by
  simp [advance, List.foldl_map, Scope.declareAll, extend, mention?]

theorem remarkAll_binds (scope : Scope) (mentions : List Mention) :
    remarkAll scope (mentions.map .binds) = mentions.map .binds := by
  induction mentions generalizing scope with
  | nil => rfl
  | cons mention rest ih => simp [remarkAll, remark, ih]

end Event

namespace Declaration

/-- What marking does to the events of a node, and to the scope. -/
def Tracks (node : Node) : Prop :=
  ∀ scope, ((mark node).run scope).1.events = Event.remarkAll scope node.events ∧
    ((mark node).run scope).2 = Event.advance scope node.events

theorem tracks_body (body : List Node) (tracked : ∀ node ∈ body, Tracks node) (scope : Scope) :
    eventsOf ((body.mapM mark).run scope).1 = Event.remarkAll scope (eventsOf body) ∧
      ((body.mapM mark).run scope).2 = Event.advance scope (eventsOf body) := by
  induction body generalizing scope with
  | nil => exact ⟨rfl, rfl⟩
  | cons node rest ih =>
    obtain ⟨events, after⟩ := tracked node List.mem_cons_self scope
    obtain ⟨restEvents, restAfter⟩ := ih (fun other member => tracked other (List.mem_cons_of_mem _ member))
      ((mark node).run scope).2
    rw [run_mapM_cons]
    simp only [eventsOf, List.flatMap_cons, Event.remarkAll_append, Event.advance_append] at *
    rw [events, restEvents, restAfter, after]
    exact ⟨rfl, rfl⟩

theorem tracks_option (node : Option Node) (tracked : ∀ inner ∈ node.toList, Tracks inner) (scope : Scope) :
    eventsOf ((node.mapM mark).run scope).1.toList = Event.remarkAll scope (eventsOf node.toList) ∧
      ((node.mapM mark).run scope).2 = Event.advance scope (eventsOf node.toList) := by
  have asList := tracks_body node.toList tracked scope
  rwa [run_mapM_toList] at asList

/-- Marking changes nothing in the events but marks and inner bodies, and leaves the scope that the
events lead to. -/
theorem tracks (node : Node) : Tracks node := by
  induction node using Node.inductScope with
  | transparent node transparent ih =>
    intro scope
    have inner := tracks_body node.children ih scope
    have marked := (isTransparent_mark scope node).trans transparent
    rw [children_mark scope node transparent] at inner
    rw [Node.events_of_isTransparent _ marked, Node.events_of_isTransparent _ transparent]
    exact inner
  | module definitions dependencies constants customExceptions main type =>
    intro scope
    rw [mark_module, Node.events_module, Node.events_module, Event.remarkAll_of_silent, Event.advance_of_silent]
    · simp [Event.remark, markBody_singleton, Scope.ofMentions, Scope.declareAll]
    all_goals
      intro event member
      rcases List.mem_append.mp member with opened | opened
      · obtain ⟨definition, _, rfl⟩ := List.mem_map.mp opened
        rfl
      · rw [List.mem_singleton.mp opened]
        rfl
  | function =>
    intro scope
    rw [mark_function, Node.events_function, Node.events_function]
    exact ⟨rfl, rfl⟩
  | method =>
    intro scope
    rw [mark_method, Node.events_method, Node.events_method]
    exact ⟨rfl, rfl⟩
  | constructor =>
    intro scope
    rw [mark_constructor, Node.events_constructor, Node.events_constructor]
    exact ⟨rfl, rfl⟩
  | closure =>
    intro scope
    rw [mark_closure, Node.events_closure, Node.events_closure]
    exact ⟨rfl, rfl⟩
  | assignmentLocal target value marked type name isLocal inValue =>
    intro scope
    obtain ⟨valueEvents, valueAfter⟩ := inValue scope
    rw [mark_assignment_local type scope target value marked name isLocal,
      Node.events_assignment_local type target value marked name isLocal]
    simp only [Node.events_assignment_local type target _ _ name isLocal, Event.remarkAll_append,
      Event.advance_append, valueEvents, valueAfter]
    exact ⟨rfl, rfl⟩
  | assignmentOther target value marked type other inTarget inValue =>
    intro scope
    obtain ⟨valueEvents, valueAfter⟩ := inValue scope
    obtain ⟨targetEvents, targetAfter⟩ := inTarget ((mark value).run scope).2
    have still : ((mark target).run ((mark value).run scope).2).1.tag ≠ .localVar := by
      rwa [tag_mark]
    rw [mark_assignment_other type scope target value marked other,
      Node.events_assignment_other type target value marked other]
    simp only [Node.events_assignment_other type _ _ _ still, Event.remarkAll_append,
      Event.advance_append, valueEvents, targetEvents, targetAfter]
    simp only [valueAfter, and_self]
  | loop iterators sequences body type inSequences inBody =>
    intro scope
    obtain ⟨sequenceEvents, sequenceAfter⟩ := inSequences scope
    rw [mark_for, Node.events_for]
    simp only [Node.events_for, Event.remarkAll_append, Event.advance_append, Event.remarkAll_binds,
      Event.advance_binds, sequenceEvents, sequenceAfter, tracks_body body inBody, and_self]
  | range counter first last step body type inFirst inLast inStep inBody =>
    intro scope
    have firstTracked := tracks_option first (by simpa using inFirst)
    have stepTracked := tracks_option step (by simpa using inStep)
    rw [mark_range, Node.events_range]
    simp only [Node.events_range, Event.remarkAll_append, Event.advance_append, Event.remarkAll_binds,
      Event.advance_binds, firstTracked, stepTracked, (inLast _).1, (inLast _).2, tracks_body body inBody, and_self]
  | handler exception caught isBuiltin body type inBody =>
    intro scope
    rw [mark_handler, Node.events_handler]
    simp only [Node.events_handler, tracks_body body inBody]
    exact ⟨rfl, rfl⟩

theorem append_events_inj (node : Node) (scope : Scope) (after before : List Event)
    (same : ((mark node).run scope).1.events ++ after = node.events ++ before) :
    ((mark node).run scope).1.events = node.events ∧ after = before :=
  List.append_inj same (by rw [(tracks node scope).1, Event.length_remarkAll])

theorem append_eventsOf_inj (body : List Node) (scope : Scope) (after before : List Event)
    (same : eventsOf (markBody scope body) ++ after = eventsOf body ++ before) :
    eventsOf (markBody scope body) = eventsOf body ∧ after = before := by
  have events := (tracks_body body (fun node _ => tracks node) scope).1
  exact List.append_inj same (by rw [markBody, events, Event.length_remarkAll])

theorem markBody_eq_self_of_events (body : List Node) (scope : Scope)
    (fixed : ∀ node ∈ body, ∀ scope, ((mark node).run scope).1.events = node.events → ((mark node).run scope).1 = node)
    (same : eventsOf (markBody scope body) = eventsOf body) : markBody scope body = body := by
  induction body generalizing scope with
  | nil => rfl
  | cons node rest ih =>
    rw [List.forall_mem_cons] at fixed
    rw [markBody, run_mapM_cons] at same ⊢
    obtain ⟨own, others⟩ := append_events_inj node scope _ _ same
    exact congrArg₂ _ (fixed.1 scope own) (ih _ fixed.2 others)

/-- Likewise for a node that may be missing, with more events behind it. -/
theorem markOption_eq_self_of_append (node : Option Node) (scope : Scope) (after before : List Event)
    (fixed : ∀ inner ∈ node.toList, ∀ scope,
      ((mark inner).run scope).1.events = inner.events → ((mark inner).run scope).1 = inner)
    (same : eventsOf ((node.mapM mark).run scope).1.toList ++ after = eventsOf node.toList ++ before) :
    ((node.mapM mark).run scope).1 = node ∧ after = before := by
  have asBody := run_mapM_toList mark node scope
  obtain ⟨events, rest⟩ := append_eventsOf_inj node.toList scope after before (by rw [markBody, asBody]; exact same)
  have kept := markBody_eq_self_of_events node.toList scope fixed events
  rw [markBody, asBody] at kept
  have mapped := (map_toList_eq_iff id id node ((node.mapM mark).run scope).1).mp (by simpa using kept)
  exact ⟨by simpa using mapped, rest⟩

/-- Where marking changes no event, it changes nothing. -/
theorem mark_eq_self_of_events (node : Node) (scope : Scope)
    (same : ((mark node).run scope).1.events = node.events) : ((mark node).run scope).1 = node := by
  induction node using Node.inductScope generalizing scope with
  | transparent node transparent ih =>
    have marked := (isTransparent_mark scope node).trans transparent
    have children := children_mark scope node transparent
    rw [Node.events_of_isTransparent _ marked, Node.events_of_isTransparent _ transparent] at same
    have body : markBody scope node.children = node.children := by
      apply markBody_eq_self_of_events _ _ ih
      rw [markBody, children, same]
    have kinds := map_kind_mark scope (fun child => child) (fun child => child) node transparent (congrArg _ body)
    rw [Kind.map_id, Kind.map_id] at kinds
    exact Node.ext kinds (type_mark scope node)
  | module definitions dependencies constants customExceptions main type =>
    rw [mark_module, Node.events_module, Node.events_module, List.map_map] at same
    obtain ⟨sameDefinitions, sameMain⟩ := List.append_inj same (by rw [List.length_map, List.length_map])
    have kept : definitions.map (fun definition => ((mark definition).run []).1) = definitions := by
      refine (List.map_congr_left fun definition member => ?_).trans (List.map_id definitions)
      simpa using List.map_inj_left.mp sameDefinitions definition member
    simp only [List.cons.injEq, Event.opens.injEq, true_and, and_true] at sameMain
    rw [mark_module, kept, sameMain]
  | function =>
    rw [mark_function, Node.events_function, Node.events_function] at same
    simp only [List.cons.injEq, Event.opens.injEq, true_and, and_true] at same
    rw [mark_function, same]
  | method =>
    rw [mark_method, Node.events_method, Node.events_method] at same
    simp only [List.cons.injEq, Event.opens.injEq, true_and, and_true] at same
    rw [mark_method, same]
  | constructor =>
    rw [mark_constructor, Node.events_constructor, Node.events_constructor] at same
    simp only [List.cons.injEq, Event.opens.injEq, true_and, and_true] at same
    rw [mark_constructor, same]
  | closure =>
    rw [mark_closure, Node.events_closure, Node.events_closure] at same
    simp only [List.cons.injEq, Event.closure.injEq, true_and, and_true] at same
    rw [mark_closure, same]
  | assignmentLocal target value marked type name isLocal inValue =>
    rw [mark_assignment_local type scope target value marked name isLocal] at same ⊢
    simp only [Node.events_assignment_local type target _ _ name isLocal] at same
    obtain ⟨sameValue, sameMark⟩ := append_events_inj value scope _ _ same
    simp only [List.cons.injEq, Event.assigns.injEq, true_and, and_true] at sameMark
    simp only [sameMark, inValue scope sameValue]
  | assignmentOther target value marked type other inTarget inValue =>
    have still : ((mark target).run ((mark value).run scope).2).1.tag ≠ .localVar := by
      rwa [tag_mark]
    rw [mark_assignment_other type scope target value marked other] at same ⊢
    simp only [Node.events_assignment_other type _ _ _ still, Node.events_assignment_other type _ _ _ other] at same
    obtain ⟨sameValue, sameTarget⟩ := append_events_inj value scope _ _ same
    simp only [inValue scope sameValue, inTarget _ sameTarget]
  | loop iterators sequences body type inSequences inBody =>
    rw [mark_for, Node.events_for] at same
    simp only [Node.events_for, List.append_assoc] at same
    obtain ⟨sameSequences, after⟩ := append_events_inj sequences scope _ _ same
    have inner := markBody_eq_self_of_events body _ inBody (List.append_cancel_left after)
    simp only [markBody] at inner
    simp only [mark_for, inSequences scope sameSequences, inner]
  | range counter first last step body type inFirst inLast inStep inBody =>
    rw [mark_range, Node.events_range] at same
    simp only [Node.events_range, List.append_assoc] at same
    obtain ⟨sameFirst, afterFirst⟩ := markOption_eq_self_of_append first scope _ _ (by simpa using inFirst) same
    obtain ⟨sameStep, afterStep⟩ := markOption_eq_self_of_append step _ _ _ (by simpa using inStep) afterFirst
    obtain ⟨sameLast, after⟩ := append_events_inj last _ _ _ afterStep
    have inner := markBody_eq_self_of_events body _ inBody (List.append_cancel_left after)
    simp only [markBody] at inner
    simp only [mark_range, sameFirst, sameStep, inLast _ sameLast, inner]
  | handler exception caught isBuiltin body type inBody =>
    rw [mark_handler, Node.events_handler, Node.events_handler] at same
    simp only [List.cons.injEq, true_and] at same
    have inner := markBody_eq_self_of_events body (scope.declare caught) inBody same
    simp only [markBody] at inner
    simp only [mark_handler, inner]

end Declaration
end Retarget
