import Retarget.Proofs.FirstMention
import Retarget.Proofs.Skeleton

/-! Scopes of a tree with its names cased. Casing renames what happens in a scope and moves nothing, so
the scopes of the new tree are those of the old one, renamed. -/
namespace Retarget

section Renamed

variable (naming : Naming) (names : DefinedNames)

/-- A mention as casing leaves it. -/
def Mention.renamed : Mention → Mention
  | constant name => .constant name
  | localVar name => .localVar (naming.reference names name)
  | caught name => .caught (naming.normal.apply name)

def Node.renamed (node : Node) : Node := node.relabel (naming.renaming names)

def Event.renamed : Event → Event
  | binds mention => .binds (mention.renamed naming names)
  | assigns name marked => .assigns (naming.reference names name) marked
  | closure params body => .closure (params.map (Mention.renamed naming names)) (body.map (Node.renamed naming names))
  | opens seed body => .opens (seed.map (Mention.renamed naming names)) (body.map (Node.renamed naming names))

namespace Node

theorem renamed_mk (kind : Kind Node) (type : SemType) :
    Node.renamed naming names ⟨kind, type⟩ = ⟨(naming.renameKind names kind).map (Node.renamed naming names), type⟩ :=
  relabel_mk ..

theorem tag_renamed (node : Node) : (node.renamed naming names).tag = node.tag := tag_relabel ..

theorem localNames_renamed (node : Node) :
    (node.renamed naming names).localNames = node.localNames.map (naming.reference names) := by
  rw [localNames, localNames, renamed, walk_relabel, List.filterMap_map, List.map_filterMap]
  refine List.filterMap_congr fun inner _ => ?_
  obtain ⟨kind, type⟩ := inner
  rw [Function.comp_apply, relabel_mk]
  cases kind <;> rfl

end Node

theorem mentionsUnder_renamed (nodes : List Node) :
    mentionsUnder (nodes.map (Node.renamed naming names)) =
      (mentionsUnder nodes).map (Mention.renamed naming names) := by
  simp only [mentionsUnder, List.flatMap_map, Node.localNames_renamed, List.map_flatMap, List.map_map]
  rfl

theorem binds_renamed (node : Node) :
    (mentionsUnder [node.renamed naming names]).map .binds =
      ((mentionsUnder [node]).map .binds).map (Event.renamed naming names) := by
  have mentions := mentionsUnder_renamed naming names [node]
  rw [List.map_singleton] at mentions
  rw [mentions, List.map_map, List.map_map]
  rfl

theorem constantMentions_renamed (constants : List Node) :
    constantMentions (constants.map (Node.renamed naming names)) =
      (constantMentions constants).map (Mention.renamed naming names) := by
  rw [constantMentions, constantMentions, List.filterMap_map, List.map_map]
  have kept : Mention.renamed naming names ∘ Mention.constant = Mention.constant := rfl
  rw [kept]
  refine congrArg _ (List.filterMap_congr fun constant _ => ?_)
  obtain ⟨kind, type⟩ := constant
  rw [Function.comp_apply, Node.renamed_mk]
  cases kind <;> rfl

theorem Event.mention?_renamed (event : Event) :
    (event.renamed naming names).mention? = event.mention?.map (Mention.renamed naming names) := by
  cases event <;> rfl

theorem eventsOf_renamed (body : List Node)
    (renamed : ∀ node ∈ body, (node.renamed naming names).events = node.events.map (Event.renamed naming names)) :
    eventsOf (body.map (Node.renamed naming names)) = (eventsOf body).map (Event.renamed naming names) := by
  rw [eventsOf, eventsOf, List.flatMap_map, List.map_flatMap]
  exact List.flatMap_congr renamed

theorem Node.events_renamed (node : Node) :
    (node.renamed naming names).events = node.events.map (Event.renamed naming names) := by
  induction node using Node.inductScope with
  | transparent node transparent ih =>
    have still : (node.renamed naming names).kind.isTransparent = true := by
      have same := tag_renamed naming names node
      rw [tag, tag] at same
      rwa [Kind.isTransparent, same]
    rw [events_of_isTransparent _ still, events_of_isTransparent _ transparent, renamed, children_relabel]
    exact eventsOf_renamed naming names node.children ih
  | module definitions dependencies constants customExceptions main type =>
    simp only [renamed_mk, Naming.renameKind, Kind.map, events_module, constantMentions_renamed, List.map_append,
      List.map_map, List.map_cons, List.map_nil, Event.renamed]
    rfl
  | function name params returnType body type =>
    simp only [renamed_mk, Naming.renameKind, Kind.map, events_function, mentionsUnder_renamed, List.map_cons,
      List.map_nil, Event.renamed]
  | method name params receiver returnType isPublic body type =>
    simp only [renamed_mk, Naming.renameKind, Kind.map, events_method, mentionsUnder_renamed, List.map_cons,
      List.map_nil, Event.renamed]
  | constructor params receiver body type =>
    simp only [renamed_mk, Naming.renameKind, Kind.map, events_constructor, mentionsUnder_renamed, List.map_cons,
      List.map_nil, Event.renamed]
  | closure params returnType body type =>
    simp only [renamed_mk, Naming.renameKind, Kind.map, events_closure, mentionsUnder_renamed, List.map_cons,
      List.map_nil, Event.renamed]
  | assignmentLocal target value marked type name isLocal inValue =>
    have still : (target.renamed naming names).kind = .localVar (naming.reference names name) := by
      rw [renamed, kind_relabel, isLocal]
      rfl
    rw [renamed_mk, events_assignment_local type target value marked name isLocal]
    exact (events_assignment_local type _ _ marked _ still).trans (by rw [inValue, List.map_append]; rfl)
  | assignmentOther target value marked type notLocal inTarget inValue =>
    have other : (target.renamed naming names).tag ≠ .localVar := by rwa [tag_renamed]
    rw [renamed_mk, events_assignment_other type target value marked notLocal]
    exact (events_assignment_other type _ _ marked other).trans (by rw [inValue, inTarget, List.map_append])
  | loop iterators sequences body type inSequences inBody =>
    simp only [renamed_mk, Naming.renameKind, Kind.map, events_for, List.map_append, binds_renamed, inSequences,
      eventsOf_renamed naming names body inBody]
  | range counter first last step body type inFirst inLast inStep inBody =>
    have inOption (inner : Option Node)
        (each : ∀ node ∈ inner, (node.renamed naming names).events = node.events.map (Event.renamed naming names)) :
        eventsOf (inner.map (Node.renamed naming names)).toList =
          (eventsOf inner.toList).map (Event.renamed naming names) := by
      rw [Option.toList_map]
      exact eventsOf_renamed naming names inner.toList (by simpa using each)
    simp only [renamed_mk, Naming.renameKind, Kind.map, events_range, List.map_append, binds_renamed,
      inOption first inFirst, inOption step inStep, inLast, eventsOf_renamed naming names body inBody]
  | handler exception caught isBuiltin body type inBody =>
    simp only [renamed_mk, Naming.renameKind, Kind.map, events_handler, eventsOf_renamed naming names body inBody,
      List.map_cons]
    rfl

theorem eventsOf_map_renamed (body : List Node) :
    eventsOf (body.map (Node.renamed naming names)) = (eventsOf body).map (Event.renamed naming names) :=
  eventsOf_renamed naming names body fun node _ => node.events_renamed naming names

theorem filterMap_mention?_renamed (events : List Event) :
    (events.map (Event.renamed naming names)).filterMap Event.mention? =
      (events.filterMap Event.mention?).map (Mention.renamed naming names) := by
  rw [List.filterMap_map, List.map_filterMap]
  exact List.filterMap_congr fun event _ => event.mention?_renamed naming names

theorem visible_renamed (seed : List Mention) (before : List Event) :
    visible (seed.map (Mention.renamed naming names)) (before.map (Event.renamed naming names)) =
      (visible seed before).map (Mention.renamed naming names) := by
  rw [visible, filterMap_mention?_renamed, visible, List.map_append]

variable {start seed : List Mention} {outer body : List Node}

theorem reaches_renamed (reached : Reaches start outer seed body) :
    Reaches (start.map (Mention.renamed naming names)) (outer.map (Node.renamed naming names))
      (seed.map (Mention.renamed naming names)) (body.map (Node.renamed naming names)) := by
  induction reached with
  | self => exact .self
  | opens _ opened ih =>
    refine .opens ih ?_
    rw [eventsOf_map_renamed]
    exact List.mem_map_of_mem opened
  | closure _ split ih =>
    have further := Reaches.closure ih (by rw [eventsOf_map_renamed, split, List.map_append, List.map_cons]; rfl)
    rw [filterMap_mention?_renamed] at further
    simpa only [List.map_append] using further

/-- The scopes of a renamed body are those of the body, renamed. -/
theorem exists_of_reaches_renamed
    (reached : Reaches (start.map (Mention.renamed naming names)) (outer.map (Node.renamed naming names)) seed body) :
    ∃ original nested, Reaches start outer original nested ∧ seed = original.map (Mention.renamed naming names) ∧
      body = nested.map (Node.renamed naming names) := by
  induction reached with
  | self => exact ⟨start, outer, .self, rfl, rfl⟩
  | opens _ opened ih =>
    obtain ⟨around, middle, reached, rfl, rfl⟩ := ih
    rw [eventsOf_map_renamed] at opened
    obtain ⟨event, member, same⟩ := List.mem_map.mp opened
    cases event with
    | opens original nested =>
      rw [Event.renamed, Event.opens.injEq] at same
      exact ⟨original, nested, .opens reached member, same.1.symm, same.2.symm⟩
    | _ => cases same
  | closure _ split ih =>
    obtain ⟨around, middle, reached, rfl, rfl⟩ := ih
    rw [eventsOf_map_renamed] at split
    obtain ⟨before, rest, events, rfl, others⟩ := List.map_eq_append_iff.mp split
    obtain ⟨event, after, rfl, same, rfl⟩ := List.map_eq_cons_iff.mp others
    cases event with
    | closure params nested =>
      rw [Event.renamed, Event.closure.injEq] at same
      obtain ⟨rfl, rfl⟩ := same
      refine ⟨_, nested, .closure reached events, ?_, rfl⟩
      rw [filterMap_mention?_renamed, List.map_append, List.map_append]
    | _ => cases same

end Renamed
end Retarget
