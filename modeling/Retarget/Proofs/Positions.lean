import Retarget.Proofs.Relabel

/-! Positions in trees. A position is the list of numbers of children that leads from the root to a node, so that
equal nodes at different places are told apart. Relabelling a tree keeps its positions. -/
namespace Retarget
namespace Node

/-- The node at a position, none if the position leads out of the tree. -/
def at? (tree : Node) : List Nat → Option Node
  | [] => some tree
  | index :: rest => tree.children[index]?.bind fun child => child.at? rest

theorem at?_cons (tree : Node) (index : Nat) (rest : List Nat) :
    tree.at? (index :: rest) = tree.children[index]?.bind fun child => child.at? rest := rfl

theorem mem_walk_of_at? (tree node : Node) (position : List Nat) (found : tree.at? position = some node) :
    node ∈ tree.walk := by
  induction position generalizing tree with
  | nil =>
    rw [at?, Option.some.injEq] at found
    rw [found, walk_eq]
    exact List.mem_cons_self
  | cons index rest ih =>
    rw [at?_cons, Option.bind_eq_some_iff] at found
    obtain ⟨child, isChild, below⟩ := found
    rw [walk_eq]
    exact List.mem_cons_of_mem _ (List.mem_flatMap.mpr ⟨child, List.mem_of_getElem? isChild, ih child below⟩)

theorem at?_relabel (change : Relabelling) (tree : Node) (position : List Nat) :
    (tree.relabel change).at? position = (tree.at? position).map (relabel change) := by
  induction position generalizing tree with
  | nil => rfl
  | cons index rest ih =>
    rw [at?_cons, at?_cons, children_relabel, List.getElem?_map]
    cases tree.children[index]? with
    | none => rfl
    | some child => exact ih child

theorem at?_append (tree node : Node) (position rest : List Nat) (found : tree.at? position = some node) :
    tree.at? (position ++ rest) = node.at? rest := by
  induction position generalizing tree with
  | nil =>
    cases found
    rfl
  | cons index position ih =>
    rw [at?_cons, Option.bind_eq_some_iff] at found
    obtain ⟨child, isChild, below⟩ := found
    rw [List.cons_append, at?_cons, isChild]
    exact ih child below

section Single

variable (P : Node → Bool)

theorem countP_walk_pos (tree node : Node) (position : List Nat) (found : tree.at? position = some node)
    (holds : P node = true) : 0 < tree.walk.countP P :=
  List.countP_pos_iff.mpr ⟨node, tree.mem_walk_of_at? node position found, holds⟩

/-- If there is one such node below the members of a list, there is none below another member. -/
theorem eq_of_countP_walk (children : List Node) (once : (children.flatMap walk).countP P ≤ 1) (first second : Nat)
    (child other : Node) (isChild : children[first]? = some child) (isOther : children[second]? = some other)
    (below : 0 < child.walk.countP P) (belowOther : 0 < other.walk.countP P) :
    first = second ∧ child.walk.countP P ≤ 1 := by
  induction children generalizing first second with
  | nil => cases isChild
  | cons head children ih =>
    rw [List.flatMap_cons, List.countP_append] at once
    have later (index : Nat) (node : Node) (found : children[index]? = some node) (counted : 0 < node.walk.countP P) :
        0 < (children.flatMap walk).countP P := by
      obtain ⟨inner, member, holds⟩ := List.countP_pos_iff.mp counted
      exact List.countP_pos_iff.mpr ⟨inner, List.mem_flatMap.mpr ⟨node, List.mem_of_getElem? found, member⟩, holds⟩
    match first, second with
    | 0, 0 =>
      cases isChild
      exact ⟨rfl, by omega⟩
    | 0, second + 1 =>
      cases isChild
      have := later second other isOther belowOther
      omega
    | first + 1, 0 =>
      cases isOther
      have := later first child isChild below
      omega
    | first + 1, second + 1 =>
      have ⟨same, single⟩ := ih (by omega) first second isChild isOther
      exact ⟨congrArg Nat.succ same, single⟩

/-- Where the root alone has a property, there is no position below it with the property. -/
theorem eq_nil_of_countP (tree node : Node) (once : tree.walk.countP P ≤ 1) (root : P tree = true) (position : List Nat)
    (found : tree.at? position = some node) (holds : P node = true) : position = [] := by
  cases position with
  | nil => rfl
  | cons index rest =>
    rw [at?_cons, Option.bind_eq_some_iff] at found
    obtain ⟨child, isChild, below⟩ := found
    obtain ⟨inner, member, property⟩ := List.countP_pos_iff.mp (countP_walk_pos P child node rest below holds)
    have under := List.countP_pos_iff.mpr
      ⟨inner, List.mem_flatMap.mpr ⟨child, List.mem_of_getElem? isChild, member⟩, property⟩
    rw [walk_eq, List.countP_cons_of_pos root] at once
    omega

/-- A node that alone in a tree has a property has one position. -/
theorem eq_of_at?_of_countP (tree node other : Node) (once : tree.walk.countP P ≤ 1) (position second : List Nat)
    (found : tree.at? position = some node) (holds : P node = true) (foundOther : tree.at? second = some other)
    (holdsOther : P other = true) : position = second := by
  induction position generalizing tree second with
  | nil =>
    cases found
    exact (eq_nil_of_countP P _ other once holds second foundOther holdsOther).symm
  | cons index rest ih =>
    cases second with
    | nil =>
      cases foundOther
      exact eq_nil_of_countP P _ node once holdsOther (index :: rest) found holds
    | cons place others =>
      rw [at?_cons, Option.bind_eq_some_iff] at found foundOther
      obtain ⟨child, isChild, below⟩ := found
      obtain ⟨twin, isTwin, belowTwin⟩ := foundOther
      have within : (tree.children.flatMap walk).countP P ≤ 1 := by
        rw [walk_eq, List.countP_cons] at once
        omega
      obtain ⟨rfl, single⟩ := eq_of_countP_walk P tree.children within index place child twin isChild isTwin
        (countP_walk_pos P child node rest below holds) (countP_walk_pos P twin other others belowTwin holdsOther)
      cases isChild.symm.trans isTwin
      rw [ih child single others below belowTwin]

end Single

end Node
end Retarget
