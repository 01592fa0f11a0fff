import Retarget.Pass.Declaration

/-! Scopes of a tree. A statement does things to the scope that it stands in, in the order of
evaluation: it binds names, assigns to locals, and opens scopes inside. What an inner body does is
not among the events of the statement around it. -/
namespace Retarget

/-- A name together with the role in which it enters a scope. -/
inductive Mention where
  | constant (name : String)
  | localVar (name : String)
  /-- The instance of a caught exception. -/
  | caught (name : String)
  deriving DecidableEq

def Mention.name : Mention → String
  | constant name => name
  | localVar name => name
  | caught name => name

/-- What happens in a scope. -/
inductive Event where
  /-- A loop variable, a range index or a caught instance. -/
  | binds (mention : Mention)
  /-- An assignment to a local, and whether it is marked as the first mention. -/
  | assigns (name : String) (marked : Bool)
  /-- The body of an anonymous function, which sees the names around it and its parameters. -/
  | closure (params : List Mention) (body : List Node)
  /-- A body with a scope of its own, which starts with the seed. -/
  | opens (seed : List Mention) (body : List Node)

namespace Event

/-- The name that an event adds to its scope. -/
def mention? : Event → Option Mention
  | binds mention => some mention
  | assigns name _ => some (.localVar name)
  | closure _ _ => none
  | opens _ _ => none

def body : Event → List Node
  | binds _ => []
  | assigns _ _ => []
  | closure _ body => body
  | opens _ body => body

end Event

def mentionsUnder (nodes : List Node) : List Mention :=
  (nodes.flatMap Node.localNames).map .localVar

def constantMentions (constants : List Node) : List Mention :=
  (constants.filterMap Node.constantName?).map .constant

/-- The events of a kind, its children given beside their events. -/
def Kind.events : Kind (Node × List Event) → List Event
  | .module definitions _ constants _ main =>
    definitions.map (fun definition => .opens [] [definition.1]) ++
      [.opens (constantMentions (constants.map (·.1))) (main.map (·.1))]
  | .functionDefinition _ params _ body =>
    [.opens (mentionsUnder (params.map (·.1))) (body.map (·.1))]
  | .methodDefinition _ params _ _ _ body =>
    [.opens (mentionsUnder (params.map (·.1))) (body.map (·.1))]
  | .constructor params _ body =>
    [.opens (mentionsUnder (params.map (·.1))) (body.map (·.1))]
  | .anonymousFunction params _ body =>
    [.closure (mentionsUnder (params.map (·.1))) (body.map (·.1))]
  | .assignment target value marked =>
    value.2 ++ match target.1.kind with
      | .localVar name => [.assigns name marked]
      | _ => target.2
  | .forStatement iterators sequences body =>
    sequences.2 ++ (mentionsUnder [iterators.1]).map .binds ++ body.flatMap (·.2)
  | .forRangeStatement counter first last step body =>
    first.toList.flatMap (·.2) ++ step.toList.flatMap (·.2) ++ last.2 ++
      (mentionsUnder [counter.1]).map .binds ++ body.flatMap (·.2)
  | .exceptionHandler _ caught _ body => .binds (.caught caught) :: body.flatMap (·.2)
  | kind => kind.children.flatMap (·.2)

/-- Tags of nodes that bind names, assign or open a scope. -/
def scopeTags : List Tag :=
  [.module, .functionDefinition, .methodDefinition, .constructor, .anonymousFunction, .assignment, .forStatement,
    .forRangeStatement, .exceptionHandler]

/-- Kinds that a scope is seen through: their events are those of their children. -/
def Kind.isTransparent (kind : Kind α) : Bool := !scopeTags.contains kind.tag

theorem Kind.events_of_isTransparent (kind : Kind (Node × List Event))
    (transparent : kind.isTransparent = true) : kind.events = kind.children.flatMap (·.2) := by
  cases kind <;> first | rfl | exact absurd transparent Bool.false_ne_true

/-- The events of a tree in the scope that it stands in. -/
def Node.events : Node → List Event := fold fun kind _ => kind.events

def eventsOf (body : List Node) : List Event := body.flatMap Node.events

namespace Node

theorem events_eq (node : Node) :
    node.events = (node.kind.map fun child => (child, child.events)).events := by
  rw [events, fold_eq]

theorem events_of_isTransparent (node : Node) (transparent : node.kind.isTransparent = true) :
    node.events = eventsOf node.children := by
  rw [events_eq, Kind.events_of_isTransparent _ (by simpa [Kind.isTransparent] using transparent),
    Kind.children_map, List.flatMap_map]
  rfl

theorem exists_name_of_tag (node : Node) (isLocal : node.tag = .localVar) : ∃ name, node.kind = .localVar name := by
  obtain ⟨kind, type⟩ := node
  cases kind <;> first | exact ⟨_, rfl⟩ | cases isLocal

section Equations

variable (type : SemType)

theorem events_module (definitions dependencies constants customExceptions main : List Node) :
    (mk (.module definitions dependencies constants customExceptions main) type).events =
      definitions.map (fun definition => .opens [] [definition]) ++
        [.opens (constantMentions constants) main] := by
  rw [events_eq]
  simp [Kind.map, Kind.events, Function.comp_def]

theorem events_function (name : String) (params body : List Node) (returnType : SemType) :
    (mk (.functionDefinition name params returnType body) type).events = [.opens (mentionsUnder params) body] := by
  rw [events_eq]
  simp [Kind.map, Kind.events, Function.comp_def]

theorem events_method (name : String) (params body : List Node) (receiver : Node) (returnType : SemType)
    (isPublic : Bool) :
    (mk (.methodDefinition name params receiver returnType isPublic body) type).events =
      [.opens (mentionsUnder params) body] := by
  rw [events_eq]
  simp [Kind.map, Kind.events, Function.comp_def]

theorem events_constructor (params body : List Node) (receiver : Node) :
    (mk (.constructor params receiver body) type).events = [.opens (mentionsUnder params) body] := by
  rw [events_eq]
  simp [Kind.map, Kind.events, Function.comp_def]

theorem events_closure (params body : List Node) (returnType : SemType) :
    (mk (.anonymousFunction params returnType body) type).events = [.closure (mentionsUnder params) body] := by
  rw [events_eq]
  simp [Kind.map, Kind.events, Function.comp_def]

theorem events_assignment_local (target value : Node) (marked : Bool) (name : String)
    (isLocal : target.kind = .localVar name) :
    (mk (.assignment target value marked) type).events = value.events ++ [.assigns name marked] := by
  rw [events_eq]
  simp only [Kind.map, Kind.events, isLocal]

theorem events_assignment_other (target value : Node) (marked : Bool) (other : target.tag ≠ .localVar) :
    (mk (.assignment target value marked) type).events = value.events ++ target.events := by
  rw [events_eq]
  simp only [Kind.map, Kind.events]
  split
  · rename_i name same
    exact absurd (by rw [tag, same]; rfl) other
  · rfl

theorem events_for (iterators sequences : Node) (body : List Node) :
    (mk (.forStatement iterators sequences body) type).events =
      sequences.events ++ (mentionsUnder [iterators]).map .binds ++ eventsOf body := by
  rw [events_eq]
  simp [Kind.map, Kind.events, eventsOf, List.flatMap_map]

theorem events_range (counter : Node) (first : Option Node) (last : Node) (step : Option Node)
    (body : List Node) :
    (mk (.forRangeStatement counter first last step body) type).events =
      eventsOf first.toList ++ eventsOf step.toList ++ last.events ++
        (mentionsUnder [counter]).map .binds ++ eventsOf body := by
  rw [events_eq]
  simp [Kind.map, Kind.events, eventsOf, List.flatMap_map, Option.toList_map]

theorem events_handler (exception : Option String) (caught : String) (isBuiltin : Bool) (body : List Node) :
    (mk (.exceptionHandler exception caught isBuiltin body) type).events =
      .binds (.caught caught) :: eventsOf body := by
  rw [events_eq]
  simp [Kind.map, Kind.events, eventsOf, List.flatMap_map]

end Equations

/-- Induction along scopes. A node opens scopes, assigns, binds names, or is one that a scope is seen through. Nothing is
asked of what only gives names: parameters, targets that are locals, loop variables. -/
@[elab_as_elim]
theorem inductScope {motive : Node → Prop}
    (transparent : ∀ node, node.kind.isTransparent = true → (∀ child ∈ node.children, motive child) → motive node)
    (module : ∀ definitions dependencies constants customExceptions main type, (∀ node ∈ definitions, motive node) →
      (∀ node ∈ main, motive node) → motive ⟨.module definitions dependencies constants customExceptions main, type⟩)
    (function : ∀ name params returnType body type, (∀ node ∈ body, motive node) →
      motive ⟨.functionDefinition name params returnType body, type⟩)
    (method : ∀ name params receiver returnType isPublic body type, (∀ node ∈ body, motive node) →
      motive ⟨.methodDefinition name params receiver returnType isPublic body, type⟩)
    (constructor : ∀ params receiver body type, (∀ node ∈ body, motive node) →
      motive ⟨.constructor params receiver body, type⟩)
    (closure : ∀ params returnType body type, (∀ node ∈ body, motive node) →
      motive ⟨.anonymousFunction params returnType body, type⟩)
    (assignmentLocal : ∀ target value marked type name, target.kind = .localVar name → motive value →
      motive ⟨.assignment target value marked, type⟩)
    (assignmentOther : ∀ target value marked type, target.tag ≠ .localVar → motive target → motive value →
      motive ⟨.assignment target value marked, type⟩)
    (loop : ∀ iterators sequences body type, motive sequences → (∀ node ∈ body, motive node) →
      motive ⟨.forStatement iterators sequences body, type⟩)
    (range : ∀ counter first last step body type, (∀ node ∈ first, motive node) → motive last →
      (∀ node ∈ step, motive node) → (∀ node ∈ body, motive node) →
      motive ⟨.forRangeStatement counter first last step body, type⟩)
    (handler : ∀ exception caught isBuiltin body type, (∀ node ∈ body, motive node) →
      motive ⟨.exceptionHandler exception caught isBuiltin body, type⟩)
    (node : Node) : motive node := by
  induction node using induct with
  | h node ih =>
    by_cases seenThrough : node.kind.isTransparent = true
    · exact transparent node seenThrough ih
    · obtain ⟨kind, type⟩ := node
      simp only [children] at ih
      cases kind with
      | module definitions dependencies constants customExceptions main =>
        exact module _ _ _ _ _ _ (fun node member => ih node (by simp [Kind.children, member]))
          fun node member => ih node (by simp [Kind.children, member])
      | functionDefinition name params returnType body =>
        exact function _ _ _ _ _ fun node member => ih node (by simp [Kind.children, member])
      | methodDefinition name params receiver returnType isPublic body =>
        exact method _ _ _ _ _ _ _ fun node member => ih node (by simp [Kind.children, member])
      | constructor params receiver body =>
        exact constructor _ _ _ _ fun node member => ih node (by simp [Kind.children, member])
      | anonymousFunction params returnType body =>
        exact closure _ _ _ _ fun node member => ih node (by simp [Kind.children, member])
      | assignment target value marked =>
        have inValue := ih value (by simp [Kind.children])
        by_cases isLocal : target.tag = .localVar
        · obtain ⟨name, named⟩ := target.exists_name_of_tag isLocal
          exact assignmentLocal _ _ _ _ name named inValue
        · exact assignmentOther _ _ _ _ isLocal (ih target (by simp [Kind.children])) inValue
      | forStatement iterators sequences body =>
        exact loop _ _ _ _ (ih sequences (by simp [Kind.children]))
          fun node member => ih node (by simp [Kind.children, member])
      | forRangeStatement counter first last step body =>
        exact range _ _ _ _ _ _ (fun node member => ih node (by simp_all [Kind.children]))
          (ih last (by simp [Kind.children])) (fun node member => ih node (by simp_all [Kind.children]))
          fun node member => ih node (by simp [Kind.children, member])
      | exceptionHandler exception caught isBuiltin body =>
        exact handler _ _ _ _ _ fun node member => ih node (by simpa [Kind.children] using member)
      | _ => exact absurd rfl seenThrough

end Node

/-- The scopes of a body that starts with a seed: its own, and those that are opened in it. -/
inductive Reaches (seed : List Mention) (body : List Node) : List Mention → List Node → Prop where
  | self : Reaches seed body seed body
  | opens {around start : List Mention} {outer nested : List Node} : Reaches seed body around outer →
      .opens start nested ∈ eventsOf outer → Reaches seed body start nested
  | closure {around params : List Mention} {outer nested : List Node} {before after : List Event} :
      Reaches seed body around outer → eventsOf outer = before ++ .closure params nested :: after →
      Reaches seed body (around ++ before.filterMap Event.mention? ++ params) nested

/-- The names that are visible behind some events of a scope. -/
def visible (seed : List Mention) (before : List Event) : List Mention :=
  seed ++ before.filterMap Event.mention?

theorem exists_visible_iff (seed : List Mention) (before : List Event) (name : String) :
    (∃ mention ∈ visible seed before, mention.name = name) ↔
      (∃ mention ∈ seed, mention.name = name) ∨ (∃ mention, .binds mention ∈ before ∧ mention.name = name) ∨
        ∃ marked, .assigns name marked ∈ before := by
  simp only [visible, List.mem_append, List.mem_filterMap]
  constructor
  · rintro ⟨mention, inSeed | ⟨event, member, mentions⟩, rfl⟩
    · exact .inl ⟨mention, inSeed, rfl⟩
    · cases event with
      | binds bound =>
        cases mentions
        exact .inr (.inl ⟨_, member, rfl⟩)
      | assigns assigned marked =>
        cases mentions
        exact .inr (.inr ⟨marked, member⟩)
      | _ => cases mentions
  · rintro (⟨mention, inSeed, rfl⟩ | ⟨mention, member, rfl⟩ | ⟨marked, member⟩)
    · exact ⟨mention, .inl inSeed, rfl⟩
    · exact ⟨mention, .inr ⟨_, member, rfl⟩, rfl⟩
    · exact ⟨.localVar name, .inr ⟨_, member, rfl⟩, rfl⟩

/-- Of the assignments to a local that stand in the scope itself, the first is marked exactly if the
name is not in the seed and not bound before, and no other is marked. -/
def FirstMentions (seed : List Mention) (events : List Event) : Prop :=
  ∀ before name marked after, events = before ++ .assigns name marked :: after →
    (marked = true ↔ (∀ mention ∈ seed, mention.name ≠ name) ∧
      (∀ mention, .binds mention ∈ before → mention.name ≠ name) ∧ ∀ earlier, .assigns name earlier ∉ before)

namespace Node

/-- The scopes of a whole tree, with nothing declared around it. -/
def HasScope (tree : Node) (seed : List Mention) (body : List Node) : Prop :=
  Reaches [] [tree] seed body

end Node
end Retarget
