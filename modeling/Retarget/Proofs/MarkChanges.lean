import Retarget.Proofs.Marking
import Retarget.Proofs.Relabel

/-! Changes of marks. Marking decides the marks of assignments to locals, but for those in the nodes that it passes over.
Whatever the marks of a tree are changed to, it decides as before, and it changes nothing but what it decides. -/
namespace Retarget

open Declaration

/-- Every mark changed. -/
def markChange (change : Bool → Bool) : Relabelling where
  apply
    | .assignment target value marked => .assignment target value (change marked)
    | kind => kind
  map f kind := by cases kind <;> rfl
  tag kind := by cases kind <;> rfl
  children kind := by cases kind <;> rfl

/-- The marks of a kind changed, its children given beside their changed forms: by one function what marking decides,
and by another what it keeps, as everywhere in the children that it passes over. -/
def Kind.changeMarks (decided kept : Bool → Bool) : Kind (Node × Node) → Kind Node
  | .module definitions dependencies constants customExceptions main =>
    .module (definitions.map (·.2)) (dependencies.map (·.1.relabel (markChange kept)))
      (constants.map (·.1.relabel (markChange kept))) (customExceptions.map (·.1.relabel (markChange kept)))
      (main.map (·.2))
  | .functionDefinition name params returnType body =>
    .functionDefinition name (params.map (·.1.relabel (markChange kept))) returnType (body.map (·.2))
  | .methodDefinition name params receiver returnType isPublic body =>
    .methodDefinition name (params.map (·.1.relabel (markChange kept))) (receiver.1.relabel (markChange kept)) returnType
      isPublic (body.map (·.2))
  | .constructor params receiver body =>
    .constructor (params.map (·.1.relabel (markChange kept))) (receiver.1.relabel (markChange kept)) (body.map (·.2))
  | .anonymousFunction params returnType body =>
    .anonymousFunction (params.map (·.1.relabel (markChange kept))) returnType (body.map (·.2))
  | .assignment target value marked =>
    if target.1.tag = .localVar then .assignment (target.1.relabel (markChange kept)) value.2 (decided marked)
    else .assignment target.2 value.2 (kept marked)
  | .forStatement iterators sequences body =>
    .forStatement (iterators.1.relabel (markChange kept)) sequences.2 (body.map (·.2))
  | .forRangeStatement counter first last step body =>
    .forRangeStatement (counter.1.relabel (markChange kept)) (first.map (·.2)) last.2 (step.map (·.2)) (body.map (·.2))
  | kind => kind.map (·.2)

namespace Node

def changeMarks (decided kept : Bool → Bool) : Node → Node := fold fun kind type => ⟨kind.changeMarks decided kept, type⟩

variable (decided kept : Bool → Bool)

theorem changeMarks_mk (kind : Kind Node) (type : SemType) :
    (mk kind type).changeMarks decided kept =
      ⟨(kind.map fun child => (child, child.changeMarks decided kept)).changeMarks decided kept, type⟩ := by
  rw [changeMarks, fold_eq]

theorem changeMarks_of_isTransparent (node : Node) (transparent : node.kind.isTransparent = true) :
    node.changeMarks decided kept = ⟨node.kind.map (changeMarks decided kept), node.type⟩ := by
  obtain ⟨kind, type⟩ := node
  rw [changeMarks_mk]
  cases kind <;> first
    | exact absurd transparent Bool.false_ne_true
    | simp only [Kind.changeMarks, Kind.map, List.map_map, Option.map_map, Function.comp_def]

theorem tag_changeMarks (node : Node) : (node.changeMarks decided kept).tag = node.tag := by
  obtain ⟨kind, type⟩ := node
  rw [changeMarks_mk]
  cases kind with
  | assignment target value marked =>
    simp only [Kind.map, Kind.changeMarks]
    split <;> rfl
  | _ => rfl

theorem changeMarks_assignment_local (target value : Node) (marked : Bool) (type : SemType)
    (isLocal : target.tag = .localVar) :
    (mk (.assignment target value marked) type).changeMarks decided kept =
      ⟨.assignment (target.relabel (markChange kept)) (value.changeMarks decided kept) (decided marked), type⟩ := by
  rw [changeMarks_mk, Kind.map, Kind.changeMarks, if_pos isLocal]

theorem changeMarks_assignment_other (target value : Node) (marked : Bool) (type : SemType)
    (other : target.tag ≠ .localVar) :
    (mk (.assignment target value marked) type).changeMarks decided kept =
      ⟨.assignment (target.changeMarks decided kept) (value.changeMarks decided kept) (kept marked), type⟩ := by
  rw [changeMarks_mk, Kind.map, Kind.changeMarks, if_neg other]

end Node

theorem mentionsUnder_markChange (change : Bool → Bool) (nodes : List Node) :
    mentionsUnder (nodes.map (Node.relabel (markChange change))) = mentionsUnder nodes := by
  have names (node : Node) : (node.relabel (markChange change)).localNames = node.localNames := by
    rw [Node.localNames, Node.localNames, Node.walk_relabel, List.filterMap_map]
    refine List.filterMap_congr fun inner _ => ?_
    obtain ⟨kind, type⟩ := inner
    rw [Function.comp_apply, Node.relabel_mk]
    cases kind <;> rfl
  simp only [mentionsUnder, List.flatMap_map, names]

theorem constantMentions_markChange (change : Bool → Bool) (constants : List Node) :
    constantMentions (constants.map (Node.relabel (markChange change))) = constantMentions constants := by
  rw [constantMentions, constantMentions, List.filterMap_map]
  congr 1
  refine List.filterMap_congr fun constant _ => ?_
  obtain ⟨kind, type⟩ := constant
  rw [Function.comp_apply, Node.relabel_mk]
  cases kind <;> rfl

namespace Declaration

section Bodies

/-- Marking a changed node comes to a change of the marked node, and to the same scope. -/
def Follows (before after : Node → Node) (node : Node) : Prop :=
  ∀ scope, (mark (before node)).run scope = (after ((mark node).run scope).1, ((mark node).run scope).2)

variable {before after : Node → Node}

theorem Follows.body (body : List Node) (all : ∀ node ∈ body, Follows before after node) (scope : Scope) :
    ((body.map before).mapM mark).run scope =
      (((body.mapM mark).run scope).1.map after, ((body.mapM mark).run scope).2) := by
  induction body generalizing scope with
  | nil => rfl
  | cons node rest ih =>
    rw [List.forall_mem_cons] at all
    rw [List.map_cons, run_mapM_cons, run_mapM_cons, all.1 scope, ih all.2, List.map_cons]

theorem Follows.option (node : Option Node) (all : ∀ inner ∈ node, Follows before after inner) (scope : Scope) :
    ((node.map before).mapM mark).run scope =
      (((node.mapM mark).run scope).1.map after, ((node.mapM mark).run scope).2) := by
  cases node with
  | none => rfl
  | some inner =>
    exact congrArg (fun marked : Node × Scope => (some marked.1, marked.2)) (all inner rfl scope)

/-- A function of nodes that marking does not affect can be taken of a body before it is marked. -/
theorem map_markBody (f : Node → β) (body : List Node) (scope : Scope)
    (kept : ∀ node ∈ body, ∀ scope, f ((mark node).run scope).1 = f node) : (markBody scope body).map f = body.map f := by
  induction body generalizing scope with
  | nil => rfl
  | cons node rest ih =>
    rw [List.forall_mem_cons] at kept
    rw [markBody, run_mapM_cons, List.map_cons, List.map_cons, kept.1]
    exact congrArg _ (ih _ kept.2)

theorem map_markOption (f : Node → β) (node : Option Node) (scope : Scope)
    (kept : ∀ inner ∈ node, ∀ scope, f ((mark inner).run scope).1 = f inner) :
    ((node.mapM mark).run scope).1.map f = node.map f := by
  cases node with
  | none => rfl
  | some inner => exact congrArg some (kept inner rfl scope)

end Bodies

section Changes

variable (decided kept : Bool → Bool)

/-- A kind that a scope is seen through is not changed by marking but in its children. -/
theorem map_const_kind_mark (node : Node) (transparent : node.kind.isTransparent = true) (scope : Scope) :
    ((mark node).run scope).1.kind.map (fun _ => ()) = node.kind.map fun _ => () := by
  refine map_kind_mark scope _ _ node transparent ?_
  rw [List.map_const', List.map_const', length_run_mapM]

/-- Where a scope is seen through a node, marking goes along its children and changes nothing else. -/
theorem follows_of_isTransparent (node : Node) (transparent : node.kind.isTransparent = true)
    (all : ∀ child ∈ node.children, Follows (Node.changeMarks decided kept) (Node.changeMarks id kept) child) :
    Follows (Node.changeMarks decided kept) (Node.changeMarks id kept) node := by
  intro scope
  have same := node.changeMarks_of_isTransparent decided kept transparent
  have result := ((mark node).run scope).1.changeMarks_of_isTransparent id kept
    ((isTransparent_mark scope node).trans transparent)
  have changed : (node.changeMarks decided kept).kind.isTransparent = true := by
    have tags := node.tag_changeMarks decided kept
    simp only [Node.tag] at tags
    rwa [Kind.isTransparent, tags]
  have around := map_const_kind_mark (node.changeMarks decided kept) changed scope
  have children := children_mark scope (node.changeMarks decided kept) changed
  have inner := Follows.body node.children all scope
  rw [children_mark scope node transparent] at inner
  rw [Node.children, congrArg Node.kind same, Kind.children_map, ← Node.children, inner, Prod.mk.injEq] at children
  rw [congrArg Node.kind same, Kind.map_map] at around
  refine Prod.ext (Node.ext ?_ ?_) children.2.symm
  · -- Kinds are equal if they agree in their children and in what is left without them.
    rw [congrArg Node.kind result]
    refine Kind.eq_of_map_eq node (fun _ => ()) _ _ ?_ ?_
    · rw [around, Kind.map_map, map_const_kind_mark node transparent]
    · rw [← Node.children, ← children.1, Kind.children_map, Node.children]
  · rw [type_mark, congrArg Node.type same, congrArg Node.type result, type_mark]

/-- Whatever the marks are changed to, marking decides as before: its result is the same but for the marks that it
keeps, which are those of the changed node. -/
theorem follows_changeMarks (node : Node) : Follows (Node.changeMarks decided kept) (Node.changeMarks id kept) node := by
  induction node using Node.inductScope with
  | transparent node transparent ih => exact follows_of_isTransparent decided kept node transparent ih
  | module definitions dependencies constants customExceptions main type inDefinitions inMain =>
    intro scope
    have definitionsFollow : definitions.map (fun definition => ((mark (definition.changeMarks decided kept)).run []).1) =
        definitions.map fun definition => ((mark definition).run []).1.changeMarks id kept :=
      List.map_congr_left fun definition member => congrArg Prod.fst (inDefinitions definition member [])
    simp only [Node.changeMarks_mk, Kind.map, Kind.changeMarks, List.map_map, Function.comp_def, mark_module,
      constantMentions_markChange, markBody, Follows.body main inMain, definitionsFollow]
  | function name params returnType body type inBody =>
    intro scope
    simp only [Node.changeMarks_mk, Kind.map, Kind.changeMarks, List.map_map, Function.comp_def, mark_function,
      mentionsUnder_markChange, markBody, Follows.body body inBody]
  | method name params receiver returnType isPublic body type inBody =>
    intro scope
    simp only [Node.changeMarks_mk, Kind.map, Kind.changeMarks, List.map_map, Function.comp_def, mark_method,
      mentionsUnder_markChange, markBody, Follows.body body inBody]
  | constructor params receiver body type inBody =>
    intro scope
    simp only [Node.changeMarks_mk, Kind.map, Kind.changeMarks, List.map_map, Function.comp_def, mark_constructor,
      mentionsUnder_markChange, markBody, Follows.body body inBody]
  | closure params returnType body type inBody =>
    intro scope
    simp only [Node.changeMarks_mk, Kind.map, Kind.changeMarks, List.map_map, Function.comp_def, mark_closure,
      mentionsUnder_markChange, markBody, Follows.body body inBody]
  | assignmentLocal target value marked type name named inValue =>
    intro scope
    have isLocal : target.tag = .localVar := by rw [Node.tag, named]; rfl
    have renamed : (target.relabel (markChange kept)).kind = .localVar name := by rw [Node.kind_relabel, named]; rfl
    simp only [Node.changeMarks_assignment_local _ _ _ _ _ _ isLocal,
      mark_assignment_local _ _ _ _ _ name named, mark_assignment_local _ _ _ _ _ name renamed, inValue scope, id_eq]
  | assignmentOther target value marked type notLocal inTarget inValue =>
    intro scope
    have other : (target.changeMarks decided kept).tag ≠ .localVar := by rwa [Node.tag_changeMarks]
    have after (scope : Scope) : ((mark target).run scope).1.tag ≠ .localVar := by rwa [tag_mark]
    simp only [Node.changeMarks_assignment_other _ _ _ _ _ _ notLocal,
      mark_assignment_other _ _ _ _ _ notLocal, mark_assignment_other _ _ _ _ _ other, inValue scope, inTarget _,
      Node.changeMarks_assignment_other _ _ _ _ _ _ (after _)]
  | loop iterators sequences body type inSequences inBody =>
    intro scope
    have mentions := mentionsUnder_markChange kept [iterators]
    rw [List.map_singleton] at mentions
    simp only [Node.changeMarks_mk, Kind.map, Kind.changeMarks, List.map_map, Function.comp_def, mark_for,
      mentions, inSequences scope, Follows.body body inBody]
  | range counter first last step body type inFirst inLast inStep inBody =>
    intro scope
    have mentions := mentionsUnder_markChange kept [counter]
    rw [List.map_singleton] at mentions
    simp only [Node.changeMarks_mk, Kind.map, Kind.changeMarks, List.map_map, Option.map_map, Function.comp_def,
      mark_range, mentions, Follows.option first inFirst, Follows.option step inStep, inLast _, Follows.body body inBody]
  | handler exception caught isBuiltin body type inBody =>
    intro scope
    simp only [Node.changeMarks_mk, Kind.map, Kind.changeMarks, List.map_map, Function.comp_def, mark_handler,
      Follows.body body inBody]

/-- Marking changes nothing but the marks that it decides: it can be told from the tree what is left without them. -/
theorem changeMarks_mark (mark? : Bool) (node : Node) (scope : Scope) :
    ((mark node).run scope).1.changeMarks (fun _ => mark?) kept = node.changeMarks (fun _ => mark?) kept := by
  induction node using Node.inductScope generalizing scope with
  | transparent node transparent ih =>
    have marked := (isTransparent_mark scope node).trans transparent
    have children := map_markBody _ node.children scope ih
    rw [Node.changeMarks_of_isTransparent _ _ _ marked, Node.changeMarks_of_isTransparent _ _ _ transparent,
      map_kind_mark scope _ _ node transparent children, type_mark]
  | module definitions dependencies constants customExceptions main type inDefinitions inMain =>
    have definitionsSame : definitions.map
        (fun definition => ((mark definition).run []).1.changeMarks (fun _ => mark?) kept) =
        definitions.map (Node.changeMarks (fun _ => mark?) kept) :=
      List.map_congr_left fun definition member => inDefinitions definition member []
    have mainSame := map_markBody _ main (.ofMentions (constantMentions constants)) inMain
    simp only [mark_module, Node.changeMarks_mk, Kind.map, Kind.changeMarks, List.map_map, Function.comp_def,
      definitionsSame, mainSame]
  | function name params returnType body type inBody =>
    have bodySame := map_markBody _ body (.ofMentions (mentionsUnder params)) inBody
    simp only [mark_function, Node.changeMarks_mk, Kind.map, Kind.changeMarks, List.map_map, Function.comp_def, bodySame]
  | method name params receiver returnType isPublic body type inBody =>
    have bodySame := map_markBody _ body (.ofMentions (mentionsUnder params)) inBody
    simp only [mark_method, Node.changeMarks_mk, Kind.map, Kind.changeMarks, List.map_map, Function.comp_def, bodySame]
  | constructor params receiver body type inBody =>
    have bodySame := map_markBody _ body (.ofMentions (mentionsUnder params)) inBody
    simp only [mark_constructor, Node.changeMarks_mk, Kind.map, Kind.changeMarks, List.map_map, Function.comp_def,
      bodySame]
  | closure params returnType body type inBody =>
    have bodySame := map_markBody _ body (scope.declareAll ((mentionsUnder params).map Mention.name)) inBody
    simp only [mark_closure, Node.changeMarks_mk, Kind.map, Kind.changeMarks, List.map_map, Function.comp_def, bodySame]
  | assignmentLocal target value marked type name named inValue =>
    have isLocal : target.tag = .localVar := by rw [Node.tag, named]; rfl
    simp only [mark_assignment_local type scope target value marked name named,
      Node.changeMarks_assignment_local _ _ _ _ _ _ isLocal, inValue]
  | assignmentOther target value marked type notLocal inTarget inValue =>
    have after : ((mark target).run ((mark value).run scope).2).1.tag ≠ .localVar := by rwa [tag_mark]
    simp only [mark_assignment_other type scope target value marked notLocal,
      Node.changeMarks_assignment_other _ _ _ _ _ _ notLocal, Node.changeMarks_assignment_other _ _ _ _ _ _ after,
      inValue, inTarget]
  | loop iterators sequences body type inSequences inBody =>
    have bodySame (scope : Scope) := map_markBody _ body scope inBody
    simp only [markBody] at bodySame
    simp only [mark_for, Node.changeMarks_mk, Kind.map, Kind.changeMarks, List.map_map, Function.comp_def, inSequences,
      bodySame]
  | range counter first last step body type inFirst inLast inStep inBody =>
    have firstSame (scope : Scope) := map_markOption _ first scope inFirst
    have stepSame (scope : Scope) := map_markOption _ step scope inStep
    have bodySame (scope : Scope) := map_markBody _ body scope inBody
    simp only [markBody] at bodySame
    simp only [mark_range, Node.changeMarks_mk, Kind.map, Kind.changeMarks, List.map_map, Option.map_map,
      Function.comp_def, firstSame, stepSame, inLast, bodySame]
  | handler exception caught isBuiltin body type inBody =>
    have bodySame := map_markBody _ body (scope.declare caught) inBody
    simp only [markBody] at bodySame
    simp only [mark_handler, Node.changeMarks_mk, Kind.map, Kind.changeMarks, List.map_map, Function.comp_def, bodySame]

end Changes
end Declaration

namespace Node

/-- Changing all marks alike is a relabelling. -/
theorem changeMarks_eq_relabel (change : Bool → Bool) (node : Node) :
    node.changeMarks change change = node.relabel (markChange change) := by
  induction node using induct with
  | h node ih =>
    obtain ⟨kind, type⟩ := node
    have children := Kind.map_congr kind fun child member => congrArg (Prod.mk child) (ih child member)
    rw [changeMarks_mk, relabel_mk, children]
    cases kind with
    | assignment target value marked =>
      simp only [Kind.map, Kind.changeMarks, ite_self]
      rfl
    | _ => first
      | rfl
      | simp only [Kind.map, Kind.changeMarks, List.map_map, Option.map_map, Function.comp_def]; rfl

end Node
end Retarget
