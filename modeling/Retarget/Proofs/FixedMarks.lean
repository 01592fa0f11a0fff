import Retarget.Proofs.Attributes
import Retarget.Proofs.FirstMention

/-! Trees that marking leaves alone. They are those in which every scope marks exactly its first
mentions already. -/
namespace Retarget

open Declaration

theorem Reaches.trans {start around seed : List Mention} {outer middle body : List Node}
    (reached : Reaches start outer around middle) (further : Reaches around middle seed body) :
    Reaches start outer seed body := by
  induction further with
  | self => exact reached
  | opens _ opened ih => exact .opens ih opened
  | closure _ split ih => exact .closure ih split

/-- The events of a kind come from a child, or have nothing but children in their bodies. -/
theorem Kind.mem_events (kind : Kind (Node × List Event)) (event : Event) (member : event ∈ kind.events) :
    (∃ child ∈ kind.children, event ∈ child.2) ∨ ∀ inner ∈ event.body, inner ∈ kind.children.map Prod.fst := by
  by_cases transparent : kind.isTransparent = true
  · rw [events_of_isTransparent kind transparent, List.mem_flatMap] at member
    exact .inl member
  · cases kind with
    | module definitions dependencies constants customExceptions main =>
      right
      rcases List.mem_append.mp member with opened | opened
      · obtain ⟨definition, among, rfl⟩ := List.mem_map.mp opened
        intro inner within
        cases List.mem_singleton.mp within
        exact List.mem_map_of_mem (by simp [children, among])
      · rw [List.mem_singleton.mp opened]
        exact fun inner within => by simp_all [Event.body, children]
    | functionDefinition | methodDefinition | constructor | anonymousFunction =>
      right
      rw [List.mem_singleton.mp member]
      exact fun inner within => by simp_all [Event.body, children]
    | assignment target value marked =>
      rcases List.mem_append.mp member with inValue | inTarget
      · exact .inl ⟨value, by simp [children], inValue⟩
      · split at inTarget
        · rw [List.mem_singleton.mp inTarget]
          exact .inr (List.forall_mem_nil _)
        · exact .inl ⟨target, by simp [children], inTarget⟩
    | forStatement iterators sequences body =>
      simp only [events, List.mem_append, List.mem_map, List.mem_flatMap] at member
      rcases member with (inSequences | ⟨mention, _, rfl⟩) | ⟨child, among, inBody⟩
      · exact .inl ⟨sequences, by simp [children], inSequences⟩
      · exact .inr (List.forall_mem_nil _)
      · exact .inl ⟨child, by simp [children, among], inBody⟩
    | forRangeStatement counter first last step body =>
      simp only [events, List.mem_append, List.mem_map, List.mem_flatMap] at member
      rcases member with (((⟨child, among, within⟩ | ⟨child, among, within⟩) | inLast) | ⟨mention, _, rfl⟩) |
        ⟨child, among, within⟩
      · exact .inl ⟨child, by simp_all [children], within⟩
      · exact .inl ⟨child, by simp_all [children], within⟩
      · exact .inl ⟨last, by simp [children], inLast⟩
      · exact .inr (List.forall_mem_nil _)
      · exact .inl ⟨child, by simp [children, among], within⟩
    | exceptionHandler exception caught isBuiltin body =>
      rcases List.mem_cons.mp member with rfl | inBody
      · exact .inr (List.forall_mem_nil _)
      · exact .inl (List.mem_flatMap.mp inBody)
    | _ => exact absurd rfl transparent

/-- The bodies that are opened under a node are made of smaller nodes. -/
theorem Node.size_lt_of_mem_body (node : Node) :
    ∀ event ∈ node.events, ∀ inner ∈ event.body, inner.size < node.size := by
  induction node using Node.induct with
  | h node ih =>
    intro event member inner within
    rw [events_eq] at member
    have origin := Kind.mem_events _ event member
    rw [Kind.children_map, List.map_map] at origin
    rcases origin with ⟨_, among, inChild⟩ | own
    · obtain ⟨child, isChild, rfl⟩ := List.mem_map.mp among
      have below := ih child isChild event inChild inner within
      have smaller := size_lt_of_mem_children node child isChild
      omega
    · obtain ⟨child, isChild, rfl⟩ := List.mem_map.mp (own inner within)
      exact size_lt_of_mem_children node child isChild

theorem Event.remarkAll_eq_self (scope : Scope) (events : List Event)
    (fixed : ∀ before event after, events = before ++ event :: after → event.remark (advance scope before) = event) :
    remarkAll scope events = events := by
  induction events generalizing scope with
  | nil => rfl
  | cons event rest ih =>
    have head := fixed [] event rest rfl
    have tail := ih (event.extend scope) fun before other after split =>
      fixed (event :: before) other after (by rw [split, List.cons_append])
    rw [remarkAll, tail]
    exact congrArg (· :: rest) head

theorem firstMentions_iff (seed : List Mention) (events : List Event) :
    FirstMentions seed events ↔ ∀ before name marked after, events = before ++ .assigns name marked :: after →
      (marked = true ↔ ¬∃ mention ∈ visible seed before, mention.name = name) := by
  have literal (before : List Event) (name : String) := not_congr (exists_visible_iff seed before name)
  simp only [FirstMentions, literal, not_or, not_exists, not_and, ne_eq]

namespace Declaration

/-- A body stays as it is if all its scopes mark their first mentions; by induction on a bound of the
sizes of its nodes. -/
theorem markBody_eq_self (bound : Nat) (seed : List Mention) (body : List Node)
    (small : ∀ node ∈ body, node.size < bound)
    (right : ∀ inner nested, Reaches seed body inner nested → FirstMentions inner (eventsOf nested)) :
    markBody (.ofMentions seed) body = body := by
  induction bound generalizing seed body with
  | zero =>
    cases body with
    | nil => rfl
    | cons node rest => exact absurd (small node List.mem_cons_self) (Nat.not_lt_zero _)
  | succ bound ih =>
    apply markBody_eq_self_of_events body _ fun node _ scope => mark_eq_self_of_events node scope
    rw [eventsOf_markBody]
    refine Event.remarkAll_eq_self _ _ fun before event after split => ?_
    have smaller : ∀ inner ∈ event.body, inner.size < bound := by
      intro inner within
      have among : event ∈ eventsOf body := by simp [split]
      obtain ⟨node, member, happens⟩ := List.mem_flatMap.mp among
      have below := node.size_lt_of_mem_body event happens inner within
      have limited := small node member
      omega
    rw [Event.advance_ofMentions]
    cases event with
    | binds mention => rfl
    | assigns name marked =>
      have mark := (firstMentions_iff seed _).mp (right _ _ .self) before name marked after split
      rw [Event.remark, Event.assigns.injEq]
      refine ⟨rfl, ?_⟩
      rw [Bool.eq_iff_iff, decide_eq_true_iff, Scope.mem_ofMentions, mark]
    | closure params nested =>
      have reached : Reaches seed body (visible seed before ++ params) nested := .closure .self split
      have same := ih _ nested smaller fun _ _ further => right _ _ (reached.trans further)
      rw [Event.remark, Scope.declareAll_ofMentions, same]
    | opens start nested =>
      have reached : Reaches seed body start nested := .opens .self (by simp [split])
      have same := ih _ nested smaller fun _ _ further => right _ _ (reached.trans further)
      rw [Event.remark, same]

theorem run_eq_self_iff (tree : Node) :
    run tree = tree ↔ ∀ seed body, tree.HasScope seed body → FirstMentions seed (eventsOf body) := by
  have single : markBody (.ofMentions []) [tree] = [run tree] := markBody_singleton ..
  constructor
  · intro same seed body reached
    have marked : Reaches [] (markBody (.ofMentions []) [tree]) seed body := by
      rwa [single, same]
    obtain ⟨original, _, rfl⟩ := reaches_of_reaches_markBody marked
    exact firstMentions_markBody seed original
  · intro right
    have same := markBody_eq_self (tree.size + 1) [] [tree] (by simp) right
    rw [single] at same
    exact List.singleton_inj.mp same

end Declaration
end Retarget
