import Retarget.Proofs.Attributes
import Retarget.Proofs.Stability

/-! Imports in the order of first use. What a node uses is listed as it stands: its library operation,
then its types, each before its components. -/
namespace Retarget

namespace SemType

mutual
/-- A type and its components at any depth, a container before what it holds. -/
def walk : SemType → List SemType
  | .named name => [.named name]
  | .container name args => .container name args :: walkAll args
  | .fixedArray element size => .fixedArray element size :: walk element
def walkAll : List SemType → List SemType
  | [] => []
  | type :: rest => walk type ++ walkAll rest
end

/-- What a type needs by itself. -/
def import? (library : Library) (type : SemType) : Option String := library.typeDependency? type.baseName

mutual
theorem dependencies_eq (library : Library) :
    ∀ type : SemType, type.dependencies library = type.walk.filterMap (import? library)
  | .named name => by
    rw [dependencies, walk, List.filterMap_cons, import?, baseName]
    cases library.typeDependency? name <;> rfl
  | .container name args => by
    rw [dependencies, allDependencies_eq library args, walk, List.filterMap_cons, import?, baseName]
    cases library.typeDependency? name <;> rfl
  | .fixedArray element size => by
    rw [dependencies, dependencies_eq library element, walk, List.filterMap_cons, import?, baseName]
    cases library.typeDependency? "Array" <;> rfl
theorem allDependencies_eq (library : Library) :
    ∀ types : List SemType, allDependencies library types = (walkAll types).filterMap (import? library)
  | [] => rfl
  | type :: rest => by
    rw [allDependencies, dependencies_eq library type, allDependencies_eq library rest, walkAll,
      List.filterMap_append]
end

end SemType

/-- What a node uses: what its library operation needs, then what the types that it carries need. -/
def Node.uses (library : Library) (node : Node) : List String :=
  ((Imports.operation? library node).bind (·.dependency)).toList ++
    (node.types.flatMap SemType.walk).filterMap (SemType.import? library)

/-- What the nodes of a tree use, each as often as it is used. -/
def Node.allUses (library : Library) (tree : Node) : List String := tree.walk.flatMap (Node.uses library)

namespace Imports

variable (library : Library)

theorem ofNode_eq (node : Node) : ofNode library node = node.uses library := by
  rw [ofNode, Node.uses, Node.types, List.flatMap_cons, List.filterMap_append, SemType.dependencies_eq,
    List.append_assoc]
  cases returnType? node with
  | none => rfl
  | some type => simp only [Option.toList_some, List.flatMap_singleton, SemType.dependencies_eq]

theorem required_eq (tree : Node) : required library tree = addMissing [] (tree.allUses library) := by
  rw [required, Node.allUses, funext (ofNode_eq library)]

section Missing

variable (present wanted : List String)

theorem addMissing_sublist : (addMissing present wanted).Sublist wanted := by
  induction wanted generalizing present with
  | nil => exact .slnil
  | cons first rest ih =>
    rw [addMissing]
    split
    · exact .cons first (ih present)
    · exact .cons_cons first (ih _)

theorem notMem_of_mem_addMissing (name : String) (member : name ∈ addMissing present wanted) : name ∉ present := by
  induction wanted generalizing present with
  | nil => cases member
  | cons first rest ih =>
    rw [addMissing] at member
    split at member
    · exact ih present member
    · rename_i unknown
      rcases List.mem_cons.mp member with rfl | later
      · exact unknown
      · exact fun known => ih _ later (List.mem_cons_of_mem _ known)

theorem mem_addMissing_iff (name : String) : name ∈ addMissing present wanted ↔ name ∈ wanted ∧ name ∉ present := by
  constructor
  · exact fun member => ⟨mem_of_mem_addMissing present wanted name member,
      notMem_of_mem_addMissing present wanted name member⟩
  · rintro ⟨member, unknown⟩
    exact (mem_or_mem_addMissing present wanted name member).resolve_left unknown

/-- Each name stands where it is wanted first, which is behind the first use of those before it. -/
theorem addMissing_ordered : (addMissing present wanted).Pairwise fun earlier later =>
    wanted.idxOf earlier < wanted.idxOf later := by
  induction wanted generalizing present with
  | nil => exact .nil
  | cons first rest ih =>
    -- Behind the first name, places move by one for all names but that one.
    have moved (present : List String) (known : first ∈ present) :
        (addMissing present rest).Pairwise fun earlier later =>
          (first :: rest).idxOf earlier < (first :: rest).idxOf later := by
      refine (ih present).imp_of_mem fun {earlier later} before after less => ?_
      have other (name : String) (member : name ∈ addMissing present rest) : first ≠ name := by
        rintro rfl
        exact notMem_of_mem_addMissing _ _ _ member known
      rw [List.idxOf_cons_ne rest (other earlier before), List.idxOf_cons_ne rest (other later after)]
      exact Nat.succ_lt_succ less
    rw [addMissing]
    split
    · rename_i known
      exact moved present known
    · refine List.pairwise_cons.mpr ⟨fun later member => ?_, moved _ List.mem_cons_self⟩
      have other : first ≠ later := by
        rintro rfl
        exact notMem_of_mem_addMissing _ _ _ member List.mem_cons_self
      rw [List.idxOf_cons_self, List.idxOf_cons_ne rest other]
      exact Nat.succ_pos _

theorem nodup_addMissing : (addMissing present wanted).Nodup :=
  (addMissing_ordered present wanted).imp fun less same => by
    rw [same] at less
    exact Nat.lt_irrefl _ less

end Missing

theorem mem_dependencyNames_iff (dependencies : List Node) (name : String) :
    name ∈ dependencies.filterMap dependencyName? ↔ ∃ node ∈ dependencies, node.kind = .dependency name := by
  have names (node : Node) : dependencyName? node = some name ↔ node.kind = .dependency name := by
    obtain ⟨kind, type⟩ := node
    cases kind <;> simp [dependencyName?]
  simp only [List.mem_filterMap, names]

section Displaying

/-- A library that displays with the help of `System` and needs something else for lists. -/
def displaying : Library where
  functions := .ofList [(("io", "display"), ⟨⟨[]⟩, some "System"⟩)]
  methods := .empty
  typeDependencies := .ofList [("List", "System.Collections.Generic")]

def display (name : String) : Node :=
  .standardCall "io" "display" [.localVar name (.list (.list (.named "Int")))] .void

end Displaying

end Imports
end Retarget
