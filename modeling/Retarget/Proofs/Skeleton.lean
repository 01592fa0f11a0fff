import Retarget.Pass
import Retarget.Proofs.FirstMention
import Retarget.Proofs.WritingTrees

/-! Skeletons: trees without their marks and without the names that conventions apply to. Marking and
renaming keep the skeleton of a tree, and what a target asks of a tree can be asked of its skeleton. -/
namespace Retarget

/-- The casing of names, as a relabelling. -/
def Naming.renaming (naming : Naming) (names : DefinedNames) : Relabelling where
  apply := naming.renameKind names
  map f kind := by cases kind <;> rfl
  tag kind := by cases kind <;> rfl
  children kind := by cases kind <;> rfl

theorem Naming.run_eq (naming : Naming) (tree : Node) :
    naming.run tree = tree.relabel (naming.renaming (.ofTree tree)) := rfl

/-- Clears marks and the names that conventions apply to. -/
def erasing : Relabelling where
  apply
    | .assignment target value _ => .assignment target value false
    | .functionDefinition _ params returnType body => .functionDefinition "" params returnType body
    | .methodDefinition _ params receiver returnType isPublic body =>
      .methodDefinition "" params receiver returnType isPublic body
    | .methodCall receiver _ args => .methodCall receiver "" args
    | .staticCall receiver _ args => .staticCall receiver "" args
    | .localVar _ => .localVar ""
    | .instanceVariable _ => .instanceVariable ""
    | .classAttr _ isPublic => .classAttr "" isPublic
    | .attr object _ => .attr object ""
    | .exceptionHandler exception _ isBuiltin body => .exceptionHandler exception "" isBuiltin body
    | kind => kind
  map f kind := by cases kind <;> rfl
  tag kind := by cases kind <;> rfl
  children kind := by cases kind <;> rfl

namespace Node

theorem relabel_relabel_of_absorbed (first second : Relabelling)
    (absorbed : ∀ kind : Kind Node, second.apply (first.apply kind) = second.apply kind) (node : Node) :
    (node.relabel first).relabel second = node.relabel second := by
  induction node using induct with
  | h node ih =>
    rw [relabel_eq second, relabel_eq second node, type_relabel, kind_relabel, second.map, absorbed, Kind.map_map]
    congr 1
    refine Kind.map_congr _ fun child member => ?_
    rw [second.children] at member
    exact ih child member

def skeleton (node : Node) : Node := node.relabel erasing

theorem skeleton_relabel (change : Relabelling)
    (absorbed : ∀ kind : Kind Node, erasing.apply (change.apply kind) = erasing.apply kind) (node : Node) :
    (node.relabel change).skeleton = node.skeleton :=
  relabel_relabel_of_absorbed change erasing absorbed node

end Node

theorem Declaration.skeleton_run (tree : Node) : (run tree).skeleton = tree.skeleton := by
  have absorbed (kind : Kind Node) : erasing.apply (unmarking.apply kind) = erasing.apply kind := by
    cases kind <;> rfl
  rw [← Node.skeleton_relabel unmarking absorbed, run, unmark_mark, Node.skeleton_relabel unmarking absorbed]

theorem DefinedNames.ofTree_mark (tree : Node) : ofTree (Declaration.run tree) = ofTree tree := by
  have same := Declaration.unmark_mark tree []
  rw [ofTree, ofTree]
  congr 1
  all_goals
    refine Node.filterMap_walk_of_relabel_eq unmarking (fun node => ?_) same
    obtain ⟨kind, type⟩ := node
    rw [Node.relabel_mk]
    cases kind <;> rfl

theorem Naming.skeleton_renaming (naming : Naming) (names : DefinedNames) (tree : Node) :
    (tree.relabel (naming.renaming names)).skeleton = tree.skeleton := by
  refine Node.skeleton_relabel _ (fun kind => ?_) tree
  cases kind <;> rfl

theorem Naming.skeleton_run (naming : Naming) (tree : Node) : (naming.run tree).skeleton = tree.skeleton :=
  naming.skeleton_renaming _ tree

namespace Node

theorem tag_skeleton (node : Node) : node.skeleton.tag = node.tag := tag_relabel erasing node

theorem types_skeleton (node : Node) : node.skeleton.types = node.types := by
  obtain ⟨kind, type⟩ := node
  rw [skeleton, relabel_mk]
  cases kind <;> rfl

theorem declaredType?_skeleton (node : Node) : Profile.declaredType? node.skeleton = Profile.declaredType? node := by
  obtain ⟨kind, type⟩ := node
  rw [skeleton, relabel_mk]
  cases kind <;> rfl

theorem operation?_skeleton (library : Library) (node : Node) :
    Imports.operation? library node.skeleton = Imports.operation? library node := by
  obtain ⟨kind, type⟩ := node
  rw [skeleton, relabel_mk]
  cases kind with
  | standardMethodCall receiver message args =>
    simp only [Imports.operation?, erasing, Kind.map, type_relabel]
  | _ => rfl

theorem together_skeleton (iterators sequences : Node) :
    Together iterators.skeleton sequences.skeleton ↔ Together iterators sequences := by
  simp only [Together, skeleton, tag_relabel, children_relabel, List.length_map]

theorem partsMatch_skeleton (node : Node) : node.skeleton.PartsMatch ↔ node.PartsMatch := by
  have plain (children : List Node) : (∀ child ∈ children.map skeleton, child.tag.isDescriptor = false) ↔
      ∀ child ∈ children, child.tag.isDescriptor = false := by
    simp only [List.forall_mem_map, tag_skeleton]
  by_cases loop : node.tag = .forStatement
  · obtain ⟨kind, type⟩ := node
    cases kind with
    | forStatement iterators sequences body =>
      have same : (mk (.forStatement iterators sequences body) type).skeleton =
          ⟨.forStatement iterators.skeleton sequences.skeleton (body.map skeleton), type⟩ := relabel_mk ..
      rw [same, partsMatch_forStatement, partsMatch_forStatement, together_skeleton, plain]
    | _ => cases loop
  · rw [partsMatch_of_ne_forStatement _ loop, partsMatch_of_ne_forStatement _ (by rwa [tag_skeleton]),
      skeleton, children_relabel]
    exact plain node.children

theorem writable_skeleton (allowed : GenerateError → Prop) (target : Target) (declared : List String) (node : Node) :
    node.skeleton.Writable allowed target declared ↔ node.Writable allowed target declared := by
  constructor
  · rintro ⟨parts, types, calls⟩
    rw [partsMatch_skeleton] at parts
    rw [types_skeleton] at types
    rw [tag_skeleton, operation?_skeleton] at calls
    exact ⟨parts, types, calls⟩
  · rintro ⟨parts, types, calls⟩
    rw [← partsMatch_skeleton] at parts
    rw [← types_skeleton] at types
    rw [← tag_skeleton, ← operation?_skeleton] at calls
    exact ⟨parts, types, calls⟩

end Node
end Retarget
