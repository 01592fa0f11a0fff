import Retarget.Proofs.Scopes
import Retarget.Proofs.Traverse

/-! Marking, kind by kind. Each kind that opens a scope, binds names or assigns has an equation for
its marking; a node of any other kind is marked child by child. -/
namespace Retarget

open Declaration

def Scope.ofMentions (mentions : List Mention) : Scope :=
  Scope.declareAll [] (mentions.map Mention.name)

theorem map_name_mentionsUnder (nodes : List Node) :
    (mentionsUnder nodes).map Mention.name = nodes.flatMap Node.localNames := by
  simp [mentionsUnder, Function.comp_def, Mention.name]

theorem bindLocals_eq (scope : Scope) (nodes : List Node) :
    Node.bindLocals scope nodes = scope.declareAll ((mentionsUnder nodes).map Mention.name) := by
  rw [map_name_mentionsUnder, Node.bindLocals]

theorem Kind.markKind_of_isTransparent (kind : Kind (Node × Marking)) (transparent : kind.isTransparent = true) :
    markKind kind = kind.traverse fun child => child.2 := by
  cases kind <;> first | rfl | exact absurd transparent Bool.false_ne_true

namespace Declaration

/-- The nodes of a body, marked one after the other. -/
def markBody (scope : Scope) (body : List Node) : List Node := ((body.mapM mark).run scope).1

theorem run_mark (node : Node) (scope : Scope) :
    (mark node).run scope =
      (⟨((markKind (node.kind.map fun child => (child, mark child))).run scope).1, node.type⟩,
        ((markKind (node.kind.map fun child => (child, mark child))).run scope).2) := by
  rw [mark, Node.fold_eq]
  rfl

theorem within_eq (scope : Scope) (body : List Node) :
    within scope (body.map fun node => (node, mark node)) = markBody scope body := by
  rw [within, markAll, List.mapM_map]
  rfl

theorem markBody_singleton (scope : Scope) (node : Node) :
    markBody scope [node] = [((mark node).run scope).1] := by
  rw [markBody, run_mapM_cons]
  rfl

section Equations

variable (type : SemType) (scope : Scope)

theorem mark_module (definitions dependencies constants customExceptions main : List Node) :
    (mark ⟨.module definitions dependencies constants customExceptions main, type⟩).run scope =
      (⟨.module (definitions.map fun definition => ((mark definition).run []).1) dependencies constants
          customExceptions (markBody (.ofMentions (constantMentions constants)) main), type⟩, scope) := by
  have single (definition : Node) :
      within [] [(definition, mark definition)] = [((mark definition).run []).1] :=
    (within_eq [] [definition]).trans (markBody_singleton ..)
  rw [run_mark]
  simp only [markKind, Kind.map, List.flatMap_map, single, ← List.map_eq_flatMap, List.map_map,
    Function.comp_def, List.map_id_fun', id_eq, within_eq, Scope.ofMentions, constantMentions, Mention.name]
  rfl

theorem mark_function (name : String) (params body : List Node) (returnType : SemType) :
    (mark ⟨.functionDefinition name params returnType body, type⟩).run scope =
      (⟨.functionDefinition name params returnType
          (markBody (.ofMentions (mentionsUnder params)) body), type⟩, scope) := by
  rw [run_mark]
  simp only [markKind, Kind.map, List.map_map, Function.comp_def, List.map_id_fun', id_eq, bindLocals_eq, within_eq]
  rfl

theorem mark_method (name : String) (params body : List Node) (receiver : Node) (returnType : SemType)
    (isPublic : Bool) :
    (mark ⟨.methodDefinition name params receiver returnType isPublic body, type⟩).run scope =
      (⟨.methodDefinition name params receiver returnType isPublic
          (markBody (.ofMentions (mentionsUnder params)) body), type⟩, scope) := by
  rw [run_mark]
  simp only [markKind, Kind.map, List.map_map, Function.comp_def, List.map_id_fun', id_eq, bindLocals_eq, within_eq]
  rfl

theorem mark_constructor (params body : List Node) (receiver : Node) :
    (mark ⟨.constructor params receiver body, type⟩).run scope =
      (⟨.constructor params receiver (markBody (.ofMentions (mentionsUnder params)) body), type⟩, scope) := by
  rw [run_mark]
  simp only [markKind, Kind.map, List.map_map, Function.comp_def, List.map_id_fun', id_eq, bindLocals_eq, within_eq]
  rfl

theorem mark_closure (params body : List Node) (returnType : SemType) :
    (mark ⟨.anonymousFunction params returnType body, type⟩).run scope =
      (⟨.anonymousFunction params returnType
          (markBody (scope.declareAll ((mentionsUnder params).map Mention.name)) body), type⟩, scope) := by
  rw [run_mark]
  simp only [markKind, Kind.map, List.map_map, Function.comp_def, List.map_id_fun', id_eq, bindLocals_eq,
    within_eq, run_bind_eq]
  rfl

theorem mark_assignment_local (target value : Node) (marked : Bool) (name : String)
    (isLocal : target.kind = .localVar name) :
    (mark ⟨.assignment target value marked, type⟩).run scope =
      let value := (mark value).run scope
      (⟨.assignment target value.1 (name ∉ value.2), type⟩, value.2.declare name) := by
  rw [run_mark]
  simp only [markKind, Kind.map, run_bind_eq, isLocal]
  rfl

theorem mark_assignment_other (target value : Node) (marked : Bool) (other : target.tag ≠ .localVar) :
    (mark ⟨.assignment target value marked, type⟩).run scope =
      let value := (mark value).run scope
      let target := (mark target).run value.2
      (⟨.assignment target.1 value.1 marked, type⟩, target.2) := by
  rw [run_mark]
  simp only [markKind, Kind.map, run_bind_eq]
  split
  · rename_i name same
    exact absurd (by rw [Node.tag, same]; rfl) other
  · rfl

theorem mark_for (iterators sequences : Node) (body : List Node) :
    (mark ⟨.forStatement iterators sequences body, type⟩).run scope =
      let sequences := (mark sequences).run scope
      let body := (body.mapM mark).run (sequences.2.declareAll ((mentionsUnder [iterators]).map Mention.name))
      (⟨.forStatement iterators sequences.1 body.1, type⟩, body.2) := by
  rw [run_mark]
  simp only [markKind, Kind.map, run_bind_eq, declareAll, bindLocals_eq, markAll, List.mapM_map]
  rfl

theorem mark_range (counter : Node) (first : Option Node) (last : Node) (step : Option Node) (body : List Node) :
    (mark ⟨.forRangeStatement counter first last step body, type⟩).run scope =
      let first := (first.mapM mark).run scope
      let step := (step.mapM mark).run first.2
      let last := (mark last).run step.2
      let body := (body.mapM mark).run (last.2.declareAll ((mentionsUnder [counter]).map Mention.name))
      (⟨.forRangeStatement counter first.1 last.1 step.1 body.1, type⟩, body.2) := by
  rw [run_mark]
  simp only [markKind, Kind.map, run_bind_eq, declareAll, bindLocals_eq, markAll, List.mapM_map]
  cases first <;> cases step <;> rfl

theorem mark_handler (exception : Option String) (caught : String) (isBuiltin : Bool) (body : List Node) :
    (mark ⟨.exceptionHandler exception caught isBuiltin body, type⟩).run scope =
      let body := (body.mapM mark).run (scope.declare caught)
      (⟨.exceptionHandler exception caught isBuiltin body.1, type⟩, body.2) := by
  rw [run_mark]
  simp only [markKind, Kind.map, run_bind_eq, markAll, List.mapM_map]
  rfl

/-- Any other node is marked child by child, in source order. -/
theorem children_mark (node : Node) (transparent : node.kind.isTransparent = true) :
    (node.children.mapM mark).run scope = (((mark node).run scope).1.children, ((mark node).run scope).2) := by
  rw [run_mark, Kind.markKind_of_isTransparent _ (by simpa [Kind.isTransparent] using transparent)]
  have children := Kind.run_mapM_children (fun child => child.2)
    (node.kind.map fun child => (child, mark child)) scope
  rw [Kind.children_map, List.mapM_map] at children
  exact children

theorem type_mark (node : Node) : ((mark node).run scope).1.type = node.type := by
  rw [run_mark]

theorem tag_mark (node : Node) : ((mark node).run scope).1.tag = node.tag := by
  induction node using Node.inductScope with
  | transparent node transparent =>
    rw [run_mark, Kind.markKind_of_isTransparent _ (by simpa [Kind.isTransparent] using transparent)]
    exact (Kind.tag_run_traverse ..).trans (Kind.tag_map ..)
  | module => rw [mark_module]; rfl
  | function => rw [mark_function]; rfl
  | method => rw [mark_method]; rfl
  | constructor => rw [mark_constructor]; rfl
  | closure => rw [mark_closure]; rfl
  | assignmentLocal target value marked type name isLocal =>
    rw [mark_assignment_local type scope target value marked name isLocal]; rfl
  | assignmentOther target value marked type other =>
    rw [mark_assignment_other type scope target value marked other]; rfl
  | loop => rw [mark_for]; rfl
  | range => rw [mark_range]; rfl
  | handler => rw [mark_handler]; rfl

theorem isTransparent_mark (node : Node) :
    ((mark node).run scope).1.kind.isTransparent = node.kind.isTransparent := by
  have tags := tag_mark scope node
  simp only [Node.tag] at tags
  rw [Kind.isTransparent, Kind.isTransparent, tags]

/-- What marking makes of the children decides what it makes of the node. -/
theorem map_kind_mark (h p : Node → β) (node : Node) (transparent : node.kind.isTransparent = true)
    (same : ((node.children.mapM mark).run scope).1.map h = node.children.map p) :
    ((mark node).run scope).1.kind.map h = node.kind.map p := by
  have kinds := Kind.map_run_traverse h (fun child => child.2) (fun child => p child.1)
    (node.kind.map fun child => (child, mark child)) scope
  rw [Kind.children_map, List.mapM_map, List.map_map, Kind.map_map] at kinds
  rw [run_mark, Kind.markKind_of_isTransparent _ (by simpa [Kind.isTransparent] using transparent)]
  exact kinds same

end Equations

end Declaration
end Retarget
