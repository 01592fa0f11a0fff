import Retarget.Proofs.Totality

/-! What the passes leave of a program. A prepared tree has the skeleton of the tree that it was made of, but for the
dependencies that its module gains: position by position, only marks and the names that play a role are different. -/
namespace Retarget

/-- The attribute that passes may change in nodes of a tag: a mark, or a name that plays a role. -/
def Tag.changing? : Tag → Option String
  | .assignment => some "first_mention"
  | .functionDefinition | .methodDefinition | .localVar | .instanceVariable | .classAttr => some "name"
  | .attr => some "attr"
  | .exceptionHandler => some "instance"
  | .methodCall | .staticCall => some "message"
  | _ => none

namespace Kind

/-- Erasing changes no attribute but the one that passes may change. -/
theorem lookup_fields_erased (kind : Kind Node) (name : String) (kept : kind.tag.changing? ≠ some name) :
    (erasing.apply kind).fields.lookup name = kind.fields.lookup name := by
  cases kind <;> try rfl
  all_goals
    have other : (name == _) = false := beq_eq_false_iff_ne.mpr fun same => kept (congrArg some same.symm)
    simp only [fields, erasing, values, tag, Tag.fieldNames, Tag.layout, List.map_cons, List.map_nil,
      List.zip_cons_cons, List.lookup_cons, other]

end Kind

namespace Node

/-- A module with dependencies of some names behind those that it has. Other trees have none. -/
def withDependencies (tree : Node) (names : List String) : Node :=
  match tree.kind with
  | .module definitions dependencies constants customExceptions main =>
    let added := names.map fun name => Node.mk (.dependency name) .void
    ⟨.module definitions (dependencies ++ added) constants customExceptions main, tree.type⟩
  | _ => tree

/-- Nodes that have the same attributes, apart from the one that passes may change. Children are not compared, only how
many an attribute holds. -/
structure SameButRole (node other : Node) : Prop where
  tag : other.tag = node.tag
  attributes : ∀ name, node.tag.changing? ≠ some name →
    (other.attr? name).map (Field.map fun _ => ()) = (node.attr? name).map (Field.map fun _ => ())

theorem attr?_skeleton (node : Node) (name : String) (kept : node.tag.changing? ≠ some name) :
    node.skeleton.attr? name = (node.attr? name).map (Field.map skeleton) := by
  rw [attr?_eq, attr?_eq, skeleton, type_relabel, kind_relabel, Kind.lookup_fields_map, Kind.lookup_fields_erased _ _ kept]
  split <;> rfl

theorem sameButRole_of_skeleton_eq {node other : Node} (same : node.skeleton = other.skeleton) :
    node.SameButRole other := by
  have tags : other.tag = node.tag := by rw [← tag_skeleton, ← same, tag_skeleton]
  refine ⟨tags, fun name kept => ?_⟩
  have counted (node : Node) (kept : node.tag.changing? ≠ some name) :
      (node.attr? name).map (Field.map fun _ => ()) = (node.skeleton.attr? name).map (Field.map fun _ => ()) := by
    rw [attr?_skeleton node name kept, Option.map_map]
    congr 1
    funext field
    cases field <;> simp [Field.map, Function.comp_def]
  rw [counted node kept, counted other (by rwa [tags]), same]

/-- Trees with the same skeleton are the same position by position, but for marks and names with a role. -/
theorem forall₂_walk_of_skeleton_eq {tree other : Node} (same : tree.skeleton = other.skeleton) :
    List.Forall₂ SameButRole tree.walk other.walk := by
  have skeletons : List.Forall₂ (· = ·) (tree.walk.map skeleton) (other.walk.map skeleton) := by
    rw [List.forall₂_eq_eq_eq]
    exact map_walk_of_relabel_eq erasing (skeleton_relabel erasing fun kind => by cases kind <;> rfl) same
  rw [List.forall₂_map_left_iff, List.forall₂_map_right_iff] at skeletons
  exact skeletons.imp fun _ _ same => sameButRole_of_skeleton_eq same

theorem skeleton_withDependencies (tree : Node) (names : List String) :
    (tree.withDependencies names).skeleton = tree.skeleton.withDependencies names := by
  have added (name : String) : (mk (.dependency name) .void).skeleton = mk (.dependency name) .void := relabel_mk ..
  have ofModule (definitions dependencies constants customExceptions main : List Node) (type : SemType) :
      (mk (.module definitions dependencies constants customExceptions main) type).skeleton =
        ⟨.module (definitions.map skeleton) (dependencies.map skeleton) (constants.map skeleton)
          (customExceptions.map skeleton) (main.map skeleton), type⟩ := relabel_mk ..
  obtain ⟨kind, type⟩ := tree
  cases kind with
  | module => simp only [withDependencies, ofModule, List.map_append, List.map_map, Function.comp_def, added]
  | _ => simp only [skeleton, withDependencies, relabel_mk, erasing, Kind.map]

end Node

theorem Imports.exists_run_eq (library : Library) (tree : Node) :
    ∃ names, run library tree = tree.withDependencies names := by
  obtain ⟨kind, type⟩ := tree
  cases kind with
  | module => exact ⟨_, rfl⟩
  | _ => exact ⟨[], rfl⟩

namespace CSharp

/-- Under any settings, preparing a tree changes marks and names that play a role, and adds dependencies behind those of
a module. All else stays as it is, and where it is. -/
theorem passes_keep_programs (settings : LanguageSettings) :
    ∃ built, profile settings = .ok built ∧ ∀ tree : Node, ∃ names,
      (built.runPasses tree).skeleton = (tree.withDependencies names).skeleton ∧
      List.Forall₂ Node.SameButRole (tree.withDependencies names).walk (built.runPasses tree).walk := by
  obtain ⟨built, same, basics, _⟩ := exists_profile settings
  refine ⟨built, same, fun tree => ?_⟩
  obtain ⟨names, run⟩ := Imports.exists_run_eq built.library ((naming settings).run (Declaration.run tree))
  have kept : (built.runPasses tree).skeleton = (tree.withDependencies names).skeleton := by
    rw [runPasses_eq basics, run, Node.skeleton_withDependencies, skeleton_prepared, ← Node.skeleton_withDependencies]
  exact ⟨names, kept, Node.forall₂_walk_of_skeleton_eq kept.symm⟩

end CSharp
end Retarget
