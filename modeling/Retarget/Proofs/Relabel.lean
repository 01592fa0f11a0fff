import Mathlib.Data.List.Basic
import Retarget.Tree.Node

/-! Relabellings: changes of kinds that neither look at the children nor move them. One that is
applied at every node of a tree keeps the tree's shape, so that a walk over the new tree meets the
images of the nodes that a walk over the old one meets. -/
namespace Retarget

theorem Kind.map_congr {f g : α → β} (kind : Kind α) (same : ∀ child ∈ kind.children, f child = g child) :
    kind.map f = kind.map g := by
  have inOption (child : Option α) (same : ∀ c, child = some c → f c = g c) : child.map f = child.map g := by
    cases child with
    | none => rfl
    | some child => simp [same child rfl]
  cases kind <;> simp_all [Kind.map, Kind.children]

structure Relabelling where
  apply : {α : Type} → Kind α → Kind α
  map : ∀ {α β : Type} (f : α → β) (kind : Kind α), apply (kind.map f) = (apply kind).map f
  tag : ∀ {α : Type} (kind : Kind α), (apply kind).tag = kind.tag
  children : ∀ {α : Type} (kind : Kind α), (apply kind).children = kind.children

namespace Node

/-- The tree with the kind of every node changed. -/
def relabel (change : Relabelling) : Node → Node :=
  fold fun kind type => ⟨change.apply (kind.map (·.2)), type⟩

theorem relabel_eq (change : Relabelling) (node : Node) :
    node.relabel change = ⟨(change.apply node.kind).map (relabel change), node.type⟩ := by
  rw [relabel, fold_eq, Kind.map_map, change.map]

theorem relabel_mk (change : Relabelling) (kind : Kind Node) (type : SemType) :
    relabel change ⟨kind, type⟩ = ⟨(change.apply kind).map (relabel change), type⟩ := relabel_eq change _

@[simp] theorem type_relabel (change : Relabelling) (node : Node) :
    (node.relabel change).type = node.type := by
  rw [relabel_eq]

theorem kind_relabel (change : Relabelling) (node : Node) :
    (node.relabel change).kind = (change.apply node.kind).map (relabel change) := by
  rw [relabel_eq]

@[simp] theorem tag_relabel (change : Relabelling) (node : Node) :
    (node.relabel change).tag = node.tag := by
  rw [tag, kind_relabel, Kind.tag_map, change.tag, tag]

theorem children_relabel (change : Relabelling) (node : Node) :
    (node.relabel change).children = node.children.map (relabel change) := by
  rw [children, kind_relabel, Kind.children_map, change.children, children]

theorem walk_relabel (change : Relabelling) (node : Node) :
    (node.relabel change).walk = node.walk.map (relabel change) := by
  induction node using induct with
  | h node ih =>
    rw [walk_eq, walk_eq node, children_relabel, List.flatMap_map, List.map_cons, List.map_flatMap]
    congr 1
    exact List.flatMap_congr ih

/-- What can be told of a node after a change can be told from the changed tree. -/
theorem map_walk_of_relabel_eq (change : Relabelling) {f : Node → β}
    (kept : ∀ node : Node, f (node.relabel change) = f node)
    {tree other : Node} (same : tree.relabel change = other.relabel change) : tree.walk.map f = other.walk.map f := by
  have changed (tree : Node) : (tree.relabel change).walk.map f = tree.walk.map f := by
    rw [walk_relabel, List.map_map]
    exact List.map_congr_left fun inner _ => kept inner
  rw [← changed, same, changed]

theorem forall_walk_of_relabel_eq (change : Relabelling) {P : Node → Prop}
    (kept : ∀ node : Node, P (node.relabel change) ↔ P node) {tree other : Node}
    (same : tree.relabel change = other.relabel change) (all : ∀ inner ∈ tree.walk, P inner) :
    ∀ inner ∈ other.walk, P inner := by
  have properties := map_walk_of_relabel_eq change (fun node => propext (kept node)) same
  have others : ∀ property ∈ other.walk.map P, property := by
    rw [← properties]
    exact List.forall_mem_map.mpr all
  exact fun inner member => others _ (List.mem_map_of_mem member)

theorem flatMap_walk_of_relabel_eq (change : Relabelling) {f : Node → List β}
    (kept : ∀ node : Node, f (node.relabel change) = f node) {tree other : Node}
    (same : tree.relabel change = other.relabel change) : tree.walk.flatMap f = other.walk.flatMap f := by
  rw [List.flatMap_def, List.flatMap_def, map_walk_of_relabel_eq change kept same]

theorem filterMap_walk_of_relabel_eq (change : Relabelling) {f : Node → Option β}
    (kept : ∀ node : Node, f (node.relabel change) = f node) {tree other : Node}
    (same : tree.relabel change = other.relabel change) : tree.walk.filterMap f = other.walk.filterMap f := by
  rw [List.filterMap_eq_flatMap_toList, List.filterMap_eq_flatMap_toList]
  exact flatMap_walk_of_relabel_eq change (fun node => congrArg Option.toList (kept node)) same

/-- A tree stays as it is exactly if none of its kinds changes. -/
theorem relabel_eq_self_iff (change : Relabelling) (node : Node) :
    node.relabel change = node ↔ ∀ inner ∈ node.walk, change.apply inner.kind = inner.kind := by
  induction node using induct with
  | h node ih =>
    have fixed : (∀ child ∈ node.children, child.relabel change = child) ↔
        ∀ child ∈ node.children, ∀ inner ∈ child.walk, change.apply inner.kind = inner.kind := forall₂_congr ih
    have unfolded (same : ∀ child ∈ node.children, child.relabel change = child) :
        (node.relabel change).kind = change.apply node.kind := by
      rw [kind_relabel, Kind.map_congr (g := fun child => child), Kind.map_id]
      rw [change.children]
      exact same
    rw [forall_mem_walk, ← fixed]
    constructor
    · intro same
      have children : ∀ child ∈ node.children, child.relabel change = child := by
        have mapped := children_relabel change node
        rw [same] at mapped
        exact fun child isChild => List.map_inj_left.mp (mapped.symm.trans (List.map_id _).symm) child isChild
      exact ⟨by rw [← unfolded children, same], children⟩
    · rintro ⟨own, children⟩
      exact Node.ext ((unfolded children).trans own) (type_relabel change node)

end Node
end Retarget
