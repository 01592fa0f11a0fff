import Mathlib.Algebra.BigOperators.Group.List.Basic
import Mathlib.Algebra.Group.Nat.Units
import Mathlib.Algebra.Group.Units.Basic
import Mathlib.Algebra.GroupWithZero.Nat
import Retarget.Pass.Imports
import Retarget.Proofs.Positions

/-! How often the C# target writes the parts of a tree. Most children of a node are written once, but the templates
of loops repeat some of theirs, and a few children are not written at all. The number of times that a leaf is written
is the product of these factors along the path that leads to it. -/
namespace Retarget

/-- Leaves that are written by a text of their own. -/
inductive Leaf where
  | localVar
  | string
  | regex
  deriving DecidableEq

namespace Leaf

/-- The leaf with a text. -/
def kind {α : Type} (leaf : Leaf) (text : String) : Kind α :=
  match leaf with
  | localVar => .localVar text
  | string => .string text
  | regex => .regex text

/-- The text of a kind, if it is such a leaf. -/
def text? {α : Type} (leaf : Leaf) (kind : Kind α) : Option String :=
  match leaf, kind with
  | localVar, .localVar name => some name
  | string, .string value => some value
  | regex, .regex value => some value
  | _, _ => none

variable {α β : Type} (leaf : Leaf)

theorem text?_map (f : α → β) (kind : Kind α) : leaf.text? (kind.map f) = leaf.text? kind := by
  cases leaf <;> cases kind <;> rfl

theorem kind_of_text? (kind : Kind α) (text : String) (same : leaf.text? kind = some text) : kind = leaf.kind text := by
  cases leaf <;> cases kind <;> cases same <;> rfl

theorem map_kind (f : α → β) (text : String) : (leaf.kind text).map f = leaf.kind text := by
  cases leaf <;> rfl

theorem children_kind (text : String) : (leaf.kind text : Kind α).children = [] := by
  cases leaf <;> rfl

theorem tag_kind (first second : String) : (leaf.kind first : Kind α).tag = (leaf.kind second : Kind β).tag := by
  cases leaf <;> rfl

/-- A text in the place of another, wherever a leaf has it. -/
def put (old new : String) : Relabelling where
  apply kind := if leaf.text? kind = some old then leaf.kind new else kind
  map f kind := by
    rw [leaf.text?_map]
    split
    · exact (leaf.map_kind f new).symm
    · rfl
  tag kind := by
    split
    · rename_i same
      rw [leaf.kind_of_text? kind old same]
      exact leaf.tag_kind new old
    · rfl
  children kind := by
    split
    · rename_i same
      rw [leaf.kind_of_text? kind old same, leaf.children_kind, leaf.children_kind]
    · rfl

theorem apply_put_of_ne {old : String} (kind : Kind α) (other : leaf.text? kind ≠ some old) (new : String) :
    (leaf.put old new).apply kind = kind := if_neg other

theorem put_self (text : String) (node : Node) : node.relabel (leaf.put text text) = node := by
  refine (Node.relabel_eq_self_iff _ node).mpr fun inner _ => ?_
  by_cases same : leaf.text? inner.kind = some text
  · rw [leaf.kind_of_text? _ _ same]
    exact (if_pos (by cases leaf <;> rfl)).trans rfl
  · exact leaf.apply_put_of_ne _ same text

end Leaf

/-- Whether a segment writes the attribute of a name. -/
def Segment.writes (name : String) : Segment → Bool
  | .directive (.placeholder path) => path == ⟨name, []⟩
  | .directive (.join path _) => path == ⟨name, []⟩
  | _ => false

/-- How often a template writes an attribute. -/
def Template.writes (template : Template) (name : String) : Nat :=
  (template.lines.flatMap Line.segments).countP (Segment.writes name)

namespace CSharp

/-- How often a library call writes an attribute; one that is not in the library is not written. -/
def callWrites (library : Library) (call : Node) (name : String) : Nat :=
  match Imports.operation? library call with
  | none => 0
  | some entry => entry.template.writes name

/-- How often each child of a node is written where the node is, in the order of the children. Loops repeat their
counters, and those with an index or in lock step their first sequence. Definitions that are neither classes nor
functions have no place in a module, and receivers of definitions have none either. -/
def weights (library : Library) (node : Node) : List Nat :=
  match node.kind with
  | .module definitions dependencies constants customExceptions main =>
    (dependencies ++ customExceptions ++ constants).map (fun _ => 1) ++
      definitions.map (fun definition =>
        if definition.tag = .classDefinition ∨ definition.tag = .functionDefinition then 1 else 0) ++
      main.map fun _ => 1
  | .methodDefinition _ params _ _ _ body => 0 :: (params ++ body).map fun _ => 1
  | .constructor params _ body => 0 :: (params ++ body).map fun _ => 1
  | .forRangeStatement _ _ _ _ _ => 3 :: node.children.tail.map fun _ => 1
  | .forIteratorWithIndex _ _ => [4, 1]
  | .forIteratorWithItems _ _ => [4, 1]
  | .forIteratorZip iterators => (iterators.length + 4) :: iterators.tail.map fun _ => 1
  | .forSequenceWithIndex _ => [2]
  | .forSequenceZip sequences => 2 :: sequences.tail.map fun _ => 1
  | .standardCall _ _ args => args.map fun _ => callWrites library node "args"
  | .standardMethodCall _ _ args =>
    callWrites library node "receiver" :: args.map fun _ => callWrites library node "args"
  | _ => node.children.map fun _ => 1

/-- What the children of a node count, each as often as it is written. -/
def weigh (library : Library) (count : Node → Nat) (node : Node) : Nat :=
  (List.zipWith (· * ·) (weights library node) (node.children.map count)).sum

/-- The weights of the children that a position leads to, one after another. -/
def pathWeights (library : Library) (tree : Node) : List Nat → List Nat
  | [] => []
  | index :: rest =>
    match tree.children[index]? with
    | none => [0]
    | some child => (weights library tree).getD index 0 :: pathWeights library child rest

variable (library : Library) (leaf : Leaf) (text : String)

/-- How often the leaves of a text are written in a tree, all together. -/
def copies : Node → Nat :=
  Node.fold fun kind type =>
    if leaf.text? kind = some text then 1
    else (List.zipWith (· * ·) (weights library ⟨kind.map (·.1), type⟩) (kind.children.map (·.2))).sum

theorem copies_eq (node : Node) :
    copies library leaf text node =
      if leaf.text? node.kind = some text then 1 else weigh library (copies library leaf text) node := by
  rw [copies, Node.fold_eq, leaf.text?_map, Kind.map_map, Kind.map_id, Kind.children_map, List.map_map]
  rfl

theorem copies_of_text? (node : Node) (same : leaf.text? node.kind = some text) : copies library leaf text node = 1 := by
  rw [copies_eq, if_pos same]

theorem copies_of_ne (node : Node) (other : leaf.text? node.kind ≠ some text) :
    copies library leaf text node = weigh library (copies library leaf text) node := by
  rw [copies_eq, if_neg other]

theorem sum_zipWith_of_forall_eq_zero (weights values : List Nat) (zero : ∀ value ∈ values, value = 0) :
    (List.zipWith (· * ·) weights values).sum = 0 := by
  induction weights generalizing values with
  | nil => rfl
  | cons weight weights ih =>
    cases values with
    | nil => rfl
    | cons value values =>
      rw [List.forall_mem_cons] at zero
      rw [List.zipWith_cons_cons, List.sum_cons, zero.1, ih values zero.2]
      rfl

theorem sum_zipWith_of_single (weights values : List Nat) (index : Nat) (value : Nat)
    (there : values[index]? = some value) (others : ∀ other value, other ≠ index → values[other]? = some value →
      value = 0) : (List.zipWith (· * ·) weights values).sum = weights.getD index 0 * value := by
  induction index generalizing weights values with
  | zero =>
    obtain ⟨rest, rfl⟩ : ∃ rest, values = value :: rest := by
      cases values with
      | nil => cases there
      | cons first rest => cases there; exact ⟨rest, rfl⟩
    have zero : ∀ other ∈ rest, other = 0 := fun other member => by
      obtain ⟨place, at_⟩ := List.mem_iff_getElem?.mp member
      exact others (place + 1) other (Nat.succ_ne_zero place) at_
    cases weights with
    | nil => simp
    | cons weight weights => simp [sum_zipWith_of_forall_eq_zero weights rest zero]
  | succ index ih =>
    cases values with
    | nil => cases there
    | cons first rest =>
      have zero : first = 0 := others 0 first (Nat.succ_ne_zero index).symm rfl
      cases weights with
      | nil => simp
      | cons weight weights =>
        have later := ih weights rest there fun other value distinct => others (other + 1) value (by omega)
        simpa [zero] using later

theorem copies_eq_zero (node : Node) (none : ∀ position inner, node.at? position = some inner →
    leaf.text? inner.kind ≠ some text) : copies library leaf text node = 0 := by
  induction node using Node.induct with
  | h node ih =>
    rw [copies_of_ne library leaf text node (none [] node rfl)]
    refine sum_zipWith_of_forall_eq_zero _ _ fun value member => ?_
    obtain ⟨child, isChild, rfl⟩ := List.mem_map.mp member
    obtain ⟨index, at_⟩ := List.mem_iff_getElem?.mp isChild
    refine ih child isChild fun position inner found => none (index :: position) inner ?_
    rw [Node.at?_cons, at_]
    exact found

/-- A leaf that alone has its text is written as often as the weights on the way to it say. -/
theorem copies_eq_prod (tree leafNode : Node) (position : List Nat) (found : tree.at? position = some leafNode)
    (own : leaf.text? leafNode.kind = some text)
    (alone : ∀ other inner, tree.at? other = some inner → leaf.text? inner.kind = some text → other = position) :
    copies library leaf text tree = (pathWeights library tree position).prod := by
  induction position generalizing tree with
  | nil =>
    have here : tree = leafNode := Option.some.inj found
    rw [copies_of_text? library leaf text tree (here ▸ own)]
    rfl
  | cons index rest ih =>
    have inner : leaf.text? tree.kind ≠ some text := fun same => List.cons_ne_nil index rest (alone [] tree rfl same).symm
    rw [Node.at?_cons, Option.bind_eq_some_iff] at found
    obtain ⟨child, isChild, below⟩ := found
    have descend (place : Nat) (node : Node) (at_ : tree.children[place]? = some node) (other : List Nat) (inner : Node)
        (found : node.at? other = some inner) (same : leaf.text? inner.kind = some text) :
        place :: other = index :: rest := by
      refine alone (place :: other) inner ?_ same
      rw [Node.at?_cons, at_]
      exact found
    have here := ih child below fun other inner found same =>
      (List.cons.inj (descend index child isChild other inner found same)).2
    have single := sum_zipWith_of_single (weights library tree) (tree.children.map (copies library leaf text)) index
      (copies library leaf text child) (by rw [List.getElem?_map, isChild]; rfl) fun other value distinct there => by
        rw [List.getElem?_map, Option.map_eq_some_iff] at there
        obtain ⟨node, at_, rfl⟩ := there
        refine copies_eq_zero library leaf text node fun position inner found same => ?_
        exact distinct (List.cons.inj (descend other node at_ position inner found same)).1
    rw [copies_of_ne library leaf text tree inner, weigh, single, pathWeights, isChild, here, List.prod_cons]

/-- A leaf is written once exactly if nothing on the way to it is repeated or left out. -/
theorem prod_eq_one_iff (weights : List Nat) : weights.prod = 1 ↔ ∀ weight ∈ weights, weight = 1 := by
  induction weights with
  | nil => exact iff_of_true rfl (List.forall_mem_nil _)
  | cons weight weights ih => rw [List.prod_cons, mul_eq_one, ih, List.forall_mem_cons]

end CSharp
end Retarget
