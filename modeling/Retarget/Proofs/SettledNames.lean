import Retarget.Proofs.Casing
import Retarget.Proofs.Skeleton
import Retarget.Tree.Build

/-! Casing the names of a tree a second time changes nothing, as long as they are ASCII. A cased
reference is told apart by cased names, and may then be a constant or a function that it was not. -/
namespace Retarget

namespace Node

/-- The name of a node that conventions apply to. -/
def identifier? (node : Node) : Option String :=
  match node.kind with
  | .functionDefinition name _ _ _ => some name
  | .methodDefinition name _ _ _ _ _ => some name
  | .methodCall _ message _ => some message
  | .staticCall _ message _ => some message
  | .localVar name => some name
  | .instanceVariable name => some name
  | .classAttr name _ => some name
  | .attr _ member => some member
  | .exceptionHandler _ caught _ _ => some caught
  | _ => none

/-- The names that conventions apply to are made of ASCII characters. -/
def HasAsciiNames (tree : Node) : Prop :=
  ∀ node ∈ tree.walk, ∀ name ∈ node.identifier?, ∀ c ∈ name.toList, Text.isAscii c = true

instance (tree : Node) : Decidable tree.HasAsciiNames :=
  decidable_of_iff (tree.walk.all fun node => node.identifier?.all fun name => name.toList.all Text.isAscii) (by
    simp [HasAsciiNames, Option.all_eq_true])

theorem identifier?_unmarking (node : Node) : (node.relabel unmarking).identifier? = node.identifier? := by
  obtain ⟨kind, type⟩ := node
  rw [relabel_mk]
  cases kind <;> rfl

theorem hasAsciiNames_mark (tree : Node) (ascii : tree.HasAsciiNames) : (Declaration.run tree).HasAsciiNames := by
  refine forall_walk_of_relabel_eq unmarking (fun node => ?_) (Declaration.unmark_mark tree []).symm ascii
  rw [identifier?_unmarking]

end Node

namespace Naming

variable (naming : Naming)

/-- The names that a tree defines after casing. -/
def casedNames (names : DefinedNames) : DefinedNames :=
  ⟨names.functions.map naming.function.apply, names.constants⟩

theorem ofTree_run (tree : Node) : DefinedNames.ofTree (naming.run tree) = naming.casedNames (.ofTree tree) := by
  rw [DefinedNames.ofTree, run_eq, Node.walk_relabel, List.filterMap_map, List.filterMap_map, casedNames,
    DefinedNames.ofTree, List.map_filterMap]
  congr 1
  all_goals
    refine List.filterMap_congr fun node _ => ?_
    obtain ⟨kind, type⟩ := node
    rw [Function.comp_apply, Node.relabel_mk]
    cases kind <;> rfl

/-- A cased reference stays as it is. If it is now taken for a constant, it keeps its spelling; if for
a function, it is spelled as that function is. -/
theorem reference_reference (names : DefinedNames) (name : String) (ascii : ∀ c ∈ name.toList, Text.isAscii c = true)
    (functions : ∀ function ∈ names.functions, ∀ c ∈ function.toList, Text.isAscii c = true) :
    naming.reference (naming.casedNames names) (naming.reference names name) = naming.reference names name := by
  generalize same : naming.reference names name = cased
  rw [reference, casedNames]
  by_cases constant : cased ∈ names.constants
  · rw [if_pos constant]
  rw [if_neg constant]
  by_cases function : cased ∈ names.functions.map naming.function.apply
  · rw [if_pos function]
    obtain ⟨original, member, rfl⟩ := List.mem_map.mp function
    exact naming.function.apply_apply original (functions original member)
  rw [if_neg function]
  rw [reference] at same
  split at same
  · rename_i isConstant
    rw [same] at isConstant
    exact absurd isConstant constant
  · split at same
    · rename_i isFunction
      exact absurd (List.mem_map.mpr ⟨name, isFunction, same⟩) function
    · rw [← same]
      exact naming.normal.apply_apply name ascii

theorem renameKind_renameKind (names : DefinedNames) (node : Node)
    (ascii : ∀ name ∈ node.identifier?, ∀ c ∈ name.toList, Text.isAscii c = true)
    (functions : ∀ function ∈ names.functions, ∀ c ∈ function.toList, Text.isAscii c = true) :
    naming.renameKind (naming.casedNames names) (naming.renameKind names node.kind) =
      naming.renameKind names node.kind := by
  obtain ⟨kind, type⟩ := node
  cases kind with
  | functionDefinition name => simp only [renameKind, naming.function.apply_apply name (ascii name rfl)]
  | methodDefinition name => simp only [renameKind, naming.method.apply_apply name (ascii name rfl)]
  | methodCall receiver message => simp only [renameKind, naming.method.apply_apply message (ascii message rfl)]
  | staticCall receiver message => simp only [renameKind, naming.method.apply_apply message (ascii message rfl)]
  | localVar name => simp only [renameKind, naming.reference_reference names name (ascii name rfl) functions]
  | instanceVariable name => simp only [renameKind, naming.normal.apply_apply name (ascii name rfl)]
  | classAttr name => simp only [renameKind, naming.normal.apply_apply name (ascii name rfl)]
  | attr object member => simp only [renameKind, naming.normal.apply_apply member (ascii member rfl)]
  | exceptionHandler exception caught => simp only [renameKind, naming.normal.apply_apply caught (ascii caught rfl)]
  | _ => rfl

theorem ascii_functions (tree : Node) (ascii : tree.HasAsciiNames) :
    ∀ function ∈ (DefinedNames.ofTree tree).functions, ∀ c ∈ function.toList, Text.isAscii c = true := by
  intro function member
  obtain ⟨node, among, named⟩ := List.mem_filterMap.mp member
  obtain ⟨kind, type⟩ := node
  cases kind with
  | functionDefinition name =>
    cases named
    exact ascii _ among function rfl
  | _ => cases named

theorem run_run (tree : Node) (ascii : tree.HasAsciiNames) : naming.run (naming.run tree) = naming.run tree := by
  rw [run_eq naming (naming.run tree), Node.relabel_eq_self_iff, ofTree_run, run_eq, Node.walk_relabel,
    List.forall_mem_map]
  intro node member
  rw [Node.kind_relabel, Relabelling.map]
  exact congrArg _ (naming.renameKind_renameKind _ node (ascii node member) (ascii_functions tree ascii))

/-- Under all conventions, a tree with ASCII names is cased in full at once. References in the result are told apart
by the cased names of functions, and by constants as they were. -/
theorem names_are_cased_once (tree : Node) (ascii : tree.HasAsciiNames) :
    DefinedNames.ofTree (naming.run tree) =
        ⟨(DefinedNames.ofTree tree).functions.map naming.function.apply, (DefinedNames.ofTree tree).constants⟩ ∧
      naming.run (naming.run tree) = naming.run tree :=
  ⟨naming.ofTree_run tree, naming.run_run tree ascii⟩

/-- A program in which casing turns two locals into namesakes of a function and of a constant. -/
def namesakes : Node :=
  let count := Node.ofKind (.functionDefinition "eggCount" [] .void [])
  let statements := ["egg_count", "egg_total"].map fun name => Node.localVar name (.named "Int")
  (((ModuleDraft.definition {} count).constant "eggTotal" (.int 0)).statements statements).build

theorem namesakes_are_cased_once :
    let naming : Naming := ⟨.camel, .pascal, .preserve⟩
    namesakes.HasAsciiNames ∧
      (naming.reference (.ofTree namesakes) "egg_count" = "eggCount" ∧
        "egg_count" ∉ (DefinedNames.ofTree namesakes).functions ∧
        "eggCount" ∈ (DefinedNames.ofTree (naming.run namesakes)).functions) ∧
      (naming.reference (.ofTree namesakes) "egg_total" = "eggTotal" ∧
        "egg_total" ∉ (DefinedNames.ofTree namesakes).constants ∧
        "eggTotal" ∈ (DefinedNames.ofTree (naming.run namesakes)).constants) ∧
      naming.run (naming.run namesakes) = naming.run namesakes := by
  intro naming
  have ascii : namesakes.HasAsciiNames := by decide
  obtain ⟨names, settled⟩ := naming.names_are_cased_once namesakes ascii
  refine ⟨ascii, by decide, by decide, settled⟩

end Naming
end Retarget
