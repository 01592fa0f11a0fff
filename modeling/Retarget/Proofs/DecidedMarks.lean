import Retarget.Proofs.FirstMention
import Retarget.Proofs.Positions

/-! The marks that marking decides. They come to the same whatever marks a tree had before, and all other marks stay as
they are, so that two trees that are the same but for their marks are marked alike exactly if these others agree. -/
namespace Retarget

open Declaration

/-- The children that marking passes over. They stand in front of the others. -/
def Kind.passedOver : Kind Node → List Node
  | .module _ dependencies constants customExceptions _ => dependencies ++ customExceptions ++ constants
  | .functionDefinition _ params _ _ => params
  | .methodDefinition _ params receiver _ _ _ => receiver :: params
  | .constructor params receiver _ => receiver :: params
  | .anonymousFunction params _ _ => params
  | .assignment target _ _ => if target.tag = .localVar then [target] else []
  | .forStatement iterators _ _ => [iterators]
  | .forRangeStatement counter _ _ _ _ => [counter]
  | _ => []

namespace Node

/-- The mark of an assignment. -/
def mark? (node : Node) : Option Bool :=
  match node.kind with
  | .assignment _ _ marked => some marked
  | _ => none

def assignsLocal (node : Node) : Bool :=
  match node.kind with
  | .assignment target _ _ => target.tag == .localVar
  | _ => false

/-- The mark of the assignment at a position. -/
def markAt? (tree : Node) (position : List Nat) : Option Bool := (tree.at? position).bind mark?

/-- Whether marking decides the mark at a position: an assignment to a local stands there, and marking passes over no
node on the way. -/
def decides (tree : Node) : List Nat → Bool
  | [] => tree.assignsLocal
  | index :: rest => tree.kind.passedOver.length ≤ index && tree.children[index]?.any fun child => child.decides rest

theorem markAt?_cons (tree : Node) (index : Nat) (rest : List Nat) :
    tree.markAt? (index :: rest) = tree.children[index]?.bind fun child => child.markAt? rest := by
  rw [markAt?, at?_cons, Option.bind_assoc]
  rfl

theorem markAt?_relabel (change : Bool → Bool) (tree : Node) (position : List Nat) :
    (tree.relabel (markChange change)).markAt? position = (tree.markAt? position).map change := by
  have marks (node : Node) : (node.relabel (markChange change)).mark? = node.mark?.map change := by
    obtain ⟨kind, type⟩ := node
    rw [relabel_mk]
    cases kind <;> rfl
  rw [markAt?, at?_relabel, markAt?, Option.bind_map, Option.map_bind]
  exact congrArg _ (funext marks)

section Changed

variable (decided kept : Bool → Bool) (node : Node)

theorem mark?_changeMarks :
    (node.changeMarks decided kept).mark? = node.mark?.map (if node.assignsLocal then decided else kept) := by
  obtain ⟨kind, type⟩ := node
  cases kind with
  | assignment target value marked =>
    by_cases isLocal : target.tag = .localVar
    · rw [changeMarks_assignment_local _ _ _ _ _ _ isLocal]
      simp [mark?, assignsLocal, isLocal]
    · rw [changeMarks_assignment_other _ _ _ _ _ _ isLocal]
      simp [mark?, assignsLocal, isLocal]
  | _ =>
    rw [changeMarks_mk]
    rfl

theorem children_changeMarks :
    (node.changeMarks decided kept).children =
      (node.children.take node.kind.passedOver.length).map (relabel (markChange kept)) ++
        (node.children.drop node.kind.passedOver.length).map (changeMarks decided kept) := by
  by_cases transparent : node.kind.isTransparent = true
  · have none : node.kind.passedOver = [] := by
      obtain ⟨kind, type⟩ := node
      cases kind <;> first | rfl | exact absurd transparent Bool.false_ne_true
    rw [changeMarks_of_isTransparent _ _ _ transparent, none, children, Kind.children_map]
    rfl
  · obtain ⟨kind, type⟩ := node
    cases kind with
    | assignment target value marked =>
      by_cases isLocal : target.tag = .localVar
      · rw [changeMarks_assignment_local _ _ _ _ _ _ isLocal]
        simp [children, Kind.children, Kind.passedOver, isLocal]
      · rw [changeMarks_assignment_other _ _ _ _ _ _ isLocal]
        simp [children, Kind.children, Kind.passedOver, isLocal]
    | module definitions dependencies constants customExceptions main =>
      have split : (mk (.module definitions dependencies constants customExceptions main) type).children =
          (dependencies ++ customExceptions ++ constants) ++ (definitions ++ main) := by
        simp [children, Kind.children]
      rw [changeMarks_mk, split, Kind.passedOver, List.take_left, List.drop_left]
      simp [children, Kind.children, Kind.map, Kind.changeMarks, Function.comp_def]
    | _ =>
      first
        | exact absurd rfl transparent
        | rw [changeMarks_mk]
          simp [children, Kind.children, Kind.map, Kind.changeMarks, Kind.passedOver, Option.toList_map, Function.comp_def]

end Changed

theorem getElem?_take_append_drop (f g : α → β) (list : List α) (count index : Nat) :
    ((list.take count).map f ++ (list.drop count).map g)[index]? = list[index]?.map (if index < count then f else g) := by
  induction list generalizing count index with
  | nil => simp
  | cons first rest ih =>
    cases count with
    | zero => rw [List.take_zero, List.drop_zero, List.map_nil, List.nil_append, List.getElem?_map]; rfl
    | succ count =>
      cases index with
      | zero => simp
      | succ index => simpa using ih count index

/-- Changed marks are those of the tree, each changed in its way. -/
theorem markAt?_changeMarks (decided kept : Bool → Bool) (tree : Node) (position : List Nat) :
    (tree.changeMarks decided kept).markAt? position =
      (tree.markAt? position).map (if tree.decides position then decided else kept) := by
  induction position generalizing tree with
  | nil => exact mark?_changeMarks decided kept tree
  | cons index rest ih =>
    rw [markAt?_cons, markAt?_cons, children_changeMarks, getElem?_take_append_drop, decides]
    cases tree.children[index]? with
    | none => rfl
    | some child =>
      by_cases skipped : index < tree.kind.passedOver.length
      · rw [if_pos skipped, decide_eq_false (Nat.not_le.mpr skipped)]
        exact markAt?_relabel kept child rest
      · rw [if_neg skipped, decide_eq_true (Nat.not_lt.mp skipped)]
        exact ih child

/-- Which marks are decided does not depend on marks. -/
theorem decides_of_unmark_eq {tree other : Node} (same : tree.relabel unmarking = other.relabel unmarking)
    (position : List Nat) : tree.decides position = other.decides position := by
  have unmarked (tree : Node) : (tree.relabel unmarking).decides position = tree.decides position := by
    induction position generalizing tree with
    | nil =>
      obtain ⟨kind, type⟩ := tree
      rw [relabel_mk]
      cases kind with
      | assignment target value marked => exact congrArg (· == Tag.localVar) (tag_relabel unmarking target)
      | _ => rfl
    | cons index rest ih =>
      have passed : (tree.relabel unmarking).kind.passedOver.length = tree.kind.passedOver.length := by
        obtain ⟨kind, type⟩ := tree
        rw [relabel_mk]
        cases kind with
        | assignment target value marked =>
          simp only [unmarking, Kind.map, Kind.passedOver, tag_relabel]
          split <;> rfl
        | _ => simp [unmarking, Kind.map, Kind.passedOver]
      rw [decides, decides, passed, children_relabel, List.getElem?_map]
      cases tree.children[index]? with
      | none => rfl
      | some child => exact congrArg _ (ih child)
  rw [← unmarked tree, same, unmarked]

/-- A tree is given by its marks and by what it is without them. -/
theorem eq_of_marks_eq (tree other : Node) (same : tree.relabel unmarking = other.relabel unmarking)
    (marks : ∀ position, tree.markAt? position = other.markAt? position) : tree = other := by
  induction tree using induct generalizing other with
  | h tree ih =>
    have below : tree.children.map (relabel unmarking) = other.children.map (relabel unmarking) := by
      rw [← children_relabel, same, children_relabel]
    have children : tree.children = other.children := by
      refine List.ext_getElem? fun index => ?_
      have alike := congrArg (·[index]?) below
      simp only [List.getElem?_map] at alike
      cases isChild : tree.children[index]? with
      | none =>
        rw [isChild, Option.map_none, eq_comm, Option.map_eq_none_iff] at alike
        exact alike.symm
      | some child =>
        rw [isChild, Option.map_some, eq_comm, Option.map_eq_some_iff] at alike
        obtain ⟨counterpart, isOther, unmarked⟩ := alike
        rw [isOther, ih child (List.mem_of_getElem? isChild) counterpart unmarked.symm]
        intro position
        have inside := marks (index :: position)
        rwa [markAt?_cons, markAt?_cons, isChild, isOther] at inside
    have kinds : unmarking.apply tree.kind = unmarking.apply other.kind := by
      have around := congrArg Node.kind same
      rw [kind_relabel, kind_relabel] at around
      exact Kind.eq_of_map_eq tree _ _ _ around ((unmarking.children _).trans (children.trans (unmarking.children _).symm))
    have restored (node : Node) :
        (markChange fun _ => node.mark?.getD false).apply (unmarking.apply node.kind) = node.kind := by
      obtain ⟨kind, type⟩ := node
      cases kind <;> rfl
    have own : tree.mark? = other.mark? := marks []
    refine Node.ext ?_ ?_
    · rw [← restored tree, kinds, own, restored]
    · rw [← type_relabel unmarking tree, same, type_relabel]

end Node

namespace Declaration

variable (tree other : Node)

theorem decides_run (position : List Nat) : (run tree).decides position = tree.decides position :=
  Node.decides_of_unmark_eq (unmark_mark tree []) position

/-- A mark that is not decided stays as it is. -/
theorem markAt?_run_of_kept (position : List Nat) (kept : tree.decides position = false) :
    (run tree).markAt? position = tree.markAt? position := by
  have same := congrArg (Node.markAt? · position) (changeMarks_mark id false tree [])
  simp only [Node.markAt?_changeMarks] at same
  rw [← run, decides_run, kept, if_neg Bool.false_ne_true, Option.map_id] at same
  exact same

/-- A mark that is decided is the one that the tree without marks would get. -/
theorem markAt?_run_of_decided (position : List Nat) (decided : tree.decides position = true) :
    (run tree).markAt? position = (run (tree.relabel unmarking)).markAt? position := by
  have follows := congrArg Prod.fst (follows_changeMarks (fun _ => false) (fun _ => false) tree [])
  have same := congrArg (Node.markAt? · position) follows
  rw [Node.changeMarks_eq_relabel] at same
  simp only [Node.markAt?_changeMarks] at same
  rw [← run, ← run, decides_run, decided, if_pos rfl, Option.map_id] at same
  exact same.symm

/-- Of two trees that are the same but for their marks, marking makes the same tree exactly if they agree in the marks
that it does not decide. The others come to the same in any case, and those that it does not decide stay. -/
theorem decided_marks_are_forgotten (same : tree.relabel unmarking = other.relabel unmarking) :
    (run tree = run other ↔
      ∀ position, tree.decides position = false → tree.markAt? position = other.markAt? position) ∧
    (∀ position, tree.decides position = true → (run tree).markAt? position = (run other).markAt? position) ∧
    ∀ position, tree.decides position = false → (run tree).markAt? position = tree.markAt? position := by
  have agree := Node.decides_of_unmark_eq same
  have decided (position : List Nat) (decides : tree.decides position = true) :
      (run tree).markAt? position = (run other).markAt? position := by
    rw [markAt?_run_of_decided tree position decides, same,
      markAt?_run_of_decided other position ((agree position).symm.trans decides)]
  refine ⟨⟨fun alike position kept => ?_, fun alike => ?_⟩, decided, markAt?_run_of_kept tree⟩
  · rw [← markAt?_run_of_kept tree position kept, alike,
      markAt?_run_of_kept other position ((agree position).symm.trans kept)]
  · refine Node.eq_of_marks_eq _ _ ((unmark_mark tree []).trans (same.trans (unmark_mark other []).symm)) fun position => ?_
    cases decides : tree.decides position with
    | true => exact decided position decides
    | false =>
      rw [markAt?_run_of_kept tree position decides, alike position decides,
        markAt?_run_of_kept other position ((agree position).symm.trans decides)]

/-- A program that sets a local and then an instance variable, with marks of one's choice. -/
def storing (assigned stored : Bool) : Node :=
  let set (target : Node) (marked : Bool) := Node.ofKind (.assignment target (.int 0) marked)
  (ModuleDraft.statements {} [set (.localVar "total" (.named "Int")) assigned,
    set (.instanceVariable "total" (.named "Int")) stored]).build

theorem mark_of_local_is_forgotten :
    (storing true false).relabel unmarking = (storing false false).relabel unmarking ∧
      (∀ position, (storing true false).decides position = false →
        (storing true false).markAt? position = (storing false false).markAt? position) ∧
      run (storing true false) = run (storing false false) := by
  have same : (storing true false).relabel unmarking = (storing false false).relabel unmarking := rfl
  have alike (position : List Nat) (kept : (storing true false).decides position = false) :
      (storing true false).markAt? position = (storing false false).markAt? position := by
    match position with
    | [] => rfl
    | [0] => cases kept
    | 0 :: _ :: _ => rfl
    | (_ + 1) :: _ => rfl
  exact ⟨same, alike, (decided_marks_are_forgotten _ _ same).1.mpr alike⟩

/-- A program with a constant that is a function, which sets a local of its own. -/
def initializing (marked : Bool) : Node :=
  let set := Node.ofKind (.assignment (.localVar "total" (.named "Int")) (.int 0) marked)
  (ModuleDraft.constant {} "START" ⟨.anonymousFunction [] .void [set], .function [] .void⟩).build

/-- Marks of assignments to other targets stay, and so do those in a constant: marking tells trees apart that are the
same but for these. -/
theorem kept_marks_are_not_forgotten :
    ((storing false true).relabel unmarking = (storing false false).relabel unmarking ∧
      run (storing false true) ≠ run (storing false false)) ∧
    (initializing true).relabel unmarking = (initializing false).relabel unmarking ∧
      run (initializing true) ≠ run (initializing false) := by
  refine ⟨⟨rfl, fun same => ?_⟩, rfl, fun same => ?_⟩
  · have marks : some true = some false := congrArg (Node.markAt? · [1]) same
    cases marks
  · have marks : some true = some false := congrArg (Node.markAt? · [0, 0, 0]) same
    cases marks

end Declaration
end Retarget
