import Retarget.Proofs.AddedImports
import Retarget.Proofs.ProfileFits

/-! Generation of C# is total. A tree whose loops have matching parts is generated if the library has
its calls and its types are known; otherwise those are all that can be at fault. -/
namespace Retarget

theorem Table.mem_entries_of_get? [DecidableEq κ] (table : Table κ β) (key : κ) (value : β)
    (found : table.get? key = some value) : (key, value) ∈ table.entries := by
  obtain ⟨before, after, entries, _⟩ := List.lookup_eq_some_iff.mp found
  rw [entries]
  exact List.mem_append_right _ List.mem_cons_self

theorem Table.size_pos_of_get? [DecidableEq κ] (table : Table κ β) (key : κ) (value : β)
    (found : table.get? key = some value) : 0 < table.size :=
  List.length_pos_of_mem (table.mem_entries_of_get? key value found)

namespace SemType

mutual
/-- Whether every name in a type is in the table, or declared if it stands alone. -/
def isKnown (types : TypeTable) (declared : List String) : SemType → Bool
  | .named name => (types.get? name).isSome || declared.contains name
  | .container name args => (types.get? name).isSome && allKnown types declared args
  | .fixedArray element _ => (types.get? "Array").isSome && isKnown types declared element
def allKnown (types : TypeTable) (declared : List String) : List SemType → Bool
  | [] => true
  | type :: rest => isKnown types declared type && allKnown types declared rest
end

section Render

variable {allowed : GenerateError → Prop} (types : TypeTable) (declared : List String)

mutual
/-- A type is rendered if it is known, and fails in no other way than for a name that is not. -/
theorem render_safe (type : SemType)
    (known : type.isKnown types declared = true ∨ ∀ name, allowed (.unknownType name)) :
    Safe allowed (type.render types declared) := by
  match type with
  | .named name =>
    rw [isKnown, Bool.or_eq_true] at known
    rw [render]
    cases spelling : types.get? name with
    | some spelling => exact safe_ok _
    | none =>
      dsimp only
      split
      · exact safe_ok _
      · rename_i undeclared
        rcases known with (found | declares) | unknown
        · rw [spelling] at found
          cases found
        · exact absurd declares undeclared
        · exact unknown name
  | .container name args =>
    rw [isKnown, Bool.and_eq_true] at known
    rw [render]
    cases spelling : types.get? name with
    | some spelling =>
      exact (renderAll_safe args (known.imp_left And.right)).bind fun rendered => safe_pure _
    | none =>
      rcases known with ⟨found, _⟩ | unknown
      · rw [spelling] at found
        cases found
      · exact unknown name
  | .fixedArray element size =>
    rw [isKnown, Bool.and_eq_true] at known
    rw [render]
    cases spelling : types.get? "Array" with
    | some spelling =>
      exact (render_safe element (known.imp_left And.right)).bind fun rendered => safe_pure _
    | none =>
      rcases known with ⟨found, _⟩ | unknown
      · rw [spelling] at found
        cases found
      · exact unknown "Array"
theorem renderAll_safe (args : List SemType)
    (known : allKnown types declared args = true ∨ ∀ name, allowed (.unknownType name)) :
    Safe allowed (renderAll types declared args) := by
  match args with
  | [] => exact safe_ok _
  | type :: rest =>
    rw [allKnown, Bool.and_eq_true] at known
    rw [renderAll]
    exact (render_safe type (known.imp_left And.left)).bind fun first =>
      (renderAll_safe rest (known.imp_left And.right)).bind fun others => safe_pure _
end

end Render
end SemType

namespace Node

/-- Whether the library has the operation that a node calls. -/
def callsKnown (library : Library) (node : Node) : Bool :=
  match node.kind with
  | .standardCall space function _ => (library.function? space function).isSome
  | .standardMethodCall receiver message _ => (library.method? receiver.type.baseName message).isSome
  | _ => true

theorem operation?_ne_none_of_callsKnown (library : Library) (node : Node) (known : node.callsKnown library = true)
    (call : [Tag.standardCall, .standardMethodCall].contains node.tag = true) :
    Imports.operation? library node ≠ none := by
  obtain ⟨kind, type⟩ := node
  cases kind with
  | standardCall space function args => exact Option.isSome_iff_ne_none.mp known
  | standardMethodCall receiver message args => exact Option.isSome_iff_ne_none.mp known
  | _ => cases call

/-- Descriptors occur only as the parts of loops, and go together there. -/
def LoopsMatch (tree : Node) : Prop :=
  tree.tag.isDescriptor = false ∧ ∀ node ∈ tree.walk, node.PartsMatch

end Node

/-- Renderers may always take a step. -/
theorem Profile.exists_nesting_eq (profile : Profile) (size : Nat) : ∃ less, profile.nesting size = less + 1 :=
  Nat.exists_eq_succ_of_ne_zero (Nat.mul_ne_zero (Nat.succ_ne_zero _) (Nat.succ_ne_zero _))

namespace CSharp

theorem exists_spelling_int : ∃ spelling, types.get? "Int" = some spelling := ⟨.plain "int", by decide⟩

theorem void_isKnown (declared : List String) : SemType.void.isKnown types declared = true := by
  have found : types.get? "Void" = some (.plain "void") := by decide
  rw [SemType.void, SemType.isKnown, found]
  rfl

section Built

variable {settings : LanguageSettings} {built : Profile} (basics : Basics settings built)
  (fits : rules.FitsProfile built) {allowed : GenerateError → Prop} (tree : Node)
include basics

theorem runPasses_eq :
    built.runPasses tree = Imports.run built.library ((naming settings).run (Declaration.run tree)) := by
  rw [Profile.runPasses, basics.passes]
  rfl

omit basics in
theorem skeleton_prepared : ((naming settings).run (Declaration.run tree)).skeleton = tree.skeleton := by
  rw [Naming.skeleton_run, Declaration.skeleton_run]

theorem declaredTypes_runPasses : Profile.declaredTypes (built.runPasses tree) = Profile.declaredTypes tree := by
  rw [runPasses_eq basics, Imports.declaredTypes_run]
  exact Node.filterMap_walk_of_relabel_eq erasing Node.declaredType?_skeleton (skeleton_prepared tree)

theorem tag_runPasses : (built.runPasses tree).tag = tree.tag := by
  rw [runPasses_eq basics, Imports.tag_run, ← Node.tag_skeleton, skeleton_prepared, Node.tag_skeleton]

include fits

theorem render_safe_of_writable {declared : List String} {node : Node}
    (writable : node.AllWritable allowed built.toTarget declared) (isPart : node.tag.isPart = false) (depth : Nat) :
    Safe allowed (built.render declared node depth) := by
  have sound := overrides_sound built.toTarget (by rw [basics.types]; exact exists_spelling_int)
  have enough : 2 * node.size ≤ built.nesting node.size := by
    have found := fits.overrides ⟨"params", params, _⟩ List.mem_cons_self
    have some := Table.size_pos_of_get? _ _ _ found
    rw [Profile.nesting, Nat.mul_comm]
    exact Nat.mul_le_mul (by omega) (by omega)
  exact rules.render_safe fits sound _ _ writable isPart _ enough depth

theorem renderModule_safe (plain : tree.tag.isDescriptor = false)
    (writable : tree.AllWritable allowed built.toTarget (Profile.declaredTypes tree)) :
    Safe allowed (built.renderModule tree) := by
  have void : Safe allowed (SemType.void.render built.types (Profile.declaredTypes tree)) :=
    SemType.render_safe _ _ _ (.inl (by rw [basics.types]; exact void_isKnown _))
  have prepared : (built.runPasses tree).AllWritable allowed built.toTarget (Profile.declaredTypes tree) := by
    rw [runPasses_eq basics]
    refine Imports.allWritable_run _ _ void ?_
    exact Node.forall_walk_of_relabel_eq erasing (Node.writable_skeleton _ _ _) (skeleton_prepared tree).symm writable
  have isPart : (built.runPasses tree).tag.isPart = false := by
    rw [tag_runPasses basics]
    exact Node.isPart_of_isDescriptor_eq_false _ plain
  rw [Profile.renderModule, declaredTypes_runPasses basics]
  exact (render_safe_of_writable basics fits prepared isPart 0).bind fun text => safe_pure _

/-- A node is rendered if the loops below it match, its calls are in the library and its types are known. -/
theorem exists_render (declared : List String) (node : Node) (isPart : node.tag.isPart = false)
    (loops : ∀ inner ∈ node.walk, inner.PartsMatch)
    (calls : ∀ inner ∈ node.walk, inner.callsKnown built.library = true)
    (known : ∀ inner ∈ node.walk, ∀ type ∈ inner.types, type.isKnown types declared = true) (depth : Nat) :
    ∃ text, built.render declared node depth = .ok text := by
  refine exists_of_safe (render_safe_of_writable basics fits (fun inner member => ?_) isPart depth)
  refine ⟨loops inner member, fun type typed => ?_, fun call absent => ?_⟩
  · rw [basics.types]
    exact SemType.render_safe _ _ _ (.inl (known inner member type typed))
  · exact absurd absent (inner.operation?_ne_none_of_callsKnown _ (calls inner member) call)

end Built

/-- A loop over two lists in lock step. -/
def lockStep : Node :=
  let sequence name := Node.localVar name (.container "List" [.named "Int"])
  let iterator name := Node.localVar name (.named "Int")
  (ModuleDraft.statement {}
    (.forEachZip [iterator "a", iterator "b"] [sequence "as", sequence "bs"] [])).build

end CSharp
end Retarget
