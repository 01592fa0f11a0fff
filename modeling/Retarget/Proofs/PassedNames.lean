import Retarget.Proofs.AddedImports
import Retarget.Proofs.TemplateOutlines

/-! Names under passes. Marks are no names, casing applies a convention to a name, and the dependencies that are added
have the names that the library gives them. What casing keeps, and the library fulfils, holds of names behind the
passes as before them. -/
namespace Retarget

theorem Kind.texts_map (f : α → β) (kind : Kind α) : (kind.map f).texts = kind.texts := by
  rw [texts, values_map, List.flatMap_map]
  exact List.flatMap_congr fun field _ => by cases field <;> rfl

namespace Node

theorem names_relabel (change : Relabelling) (node : Node) :
    (node.relabel change).names = if node.tag.isQuoted then [] else (change.apply node.kind).texts := by
  rw [Node.names, tag_relabel, kind_relabel, Kind.texts_map]

theorem names_unmarking (node : Node) : (node.relabel unmarking).names = node.names := by
  have own : (unmarking.apply node.kind).texts = node.kind.texts := by
    cases node.kind <;> rfl
  rw [names_relabel, own, Node.names]

theorem exists_of_mem_renamed (naming : Naming) (defined : DefinedNames) (kind : Kind Node) (text : String)
    (listed : text ∈ (naming.renameKind defined kind).texts) :
    text ∈ kind.texts ∨
      ∃ convention : NameCase, ∃ name ∈ kind.texts, text = convention.apply name := by
  have cased (convention : NameCase) (name : String) (same : text ∈ [convention.apply name])
      (own : name ∈ kind.texts) : ∃ convention : NameCase, ∃ name ∈ kind.texts,
        text = convention.apply name := ⟨convention, name, own, List.mem_singleton.mp same⟩
  cases kind with
  | functionDefinition name => exact .inr (cased _ name listed (List.mem_singleton_self name))
  | methodDefinition name => exact .inr (cased _ name listed (List.mem_singleton_self name))
  | methodCall receiver name => exact .inr (cased _ name listed (List.mem_singleton_self name))
  | staticCall receiver name => exact .inr (cased _ name listed (List.mem_singleton_self name))
  | instanceVariable name => exact .inr (cased _ name listed (List.mem_singleton_self name))
  | classAttr name => exact .inr (cased _ name listed (List.mem_singleton_self name))
  | attr object name => exact .inr (cased _ name listed (List.mem_singleton_self name))
  | localVar name =>
    have own := List.mem_singleton_self name
    have one : text = naming.reference defined name := List.mem_singleton.mp listed
    rw [Naming.reference] at one
    split at one
    · exact .inl (one ▸ own)
    · split at one
      · exact .inr ⟨_, name, own, one⟩
      · exact .inr ⟨_, name, own, one⟩
  | exceptionHandler exception caught =>
    cases exception with
    | none => exact .inr (cased _ caught listed (List.mem_singleton_self caught))
    | some exception =>
      rcases List.mem_cons.mp listed with rfl | listed
      · exact .inl List.mem_cons_self
      · exact .inr (cased _ caught listed (List.mem_cons_of_mem _ (List.mem_singleton_self caught)))
  | _ => exact .inl listed

/-- A name of a renamed node is one of the node's or a cased one. -/
theorem exists_of_mem_names_renamed (naming : Naming) (defined : DefinedNames) (node : Node) (text : String)
    (listed : text ∈ (node.relabel (naming.renaming defined)).names) :
    text ∈ node.names ∨ ∃ convention : NameCase, ∃ name ∈ node.names, text = convention.apply name := by
  rw [names_relabel] at listed
  split at listed
  · cases listed
  · rename_i unquoted
    rw [Node.names, if_neg unquoted]
    exact exists_of_mem_renamed naming defined node.kind text listed

end Node

variable {P : String → Prop}

section Dependencies

/-- What holds of the dependencies that a library names. -/
structure Library.Supplies (P : String → Prop) (library : Library) : Prop where
  functions : ∀ space name entry, library.function? space name = some entry → ∀ dependency ∈ entry.dependency,
    P dependency
  methods : ∀ receiver name entry, library.method? receiver name = some entry → ∀ dependency ∈ entry.dependency,
    P dependency
  types : ∀ type dependency, library.typeDependency? type = some dependency → P dependency

variable {library : Library}

namespace SemType

mutual
theorem forall_dependencies (supplies : library.Supplies P) (type : SemType) :
    ∀ name ∈ type.dependencies library, P name := by
  have spelled (type : String) : ∀ name ∈ (library.typeDependency? type).toList, P name :=
    fun name listed => supplies.types type name (Option.mem_toList.mp listed)
  match type with
  | .named name => exact spelled name
  | .container name args =>
    rw [dependencies, List.forall_mem_append]
    exact ⟨spelled name, forall_allDependencies supplies args⟩
  | .fixedArray element _ =>
    rw [dependencies, List.forall_mem_append]
    exact ⟨spelled "Array", forall_dependencies supplies element⟩
theorem forall_allDependencies (supplies : library.Supplies P) (types : List SemType) :
    ∀ name ∈ allDependencies library types, P name := by
  match types with
  | [] => exact nofun
  | type :: rest =>
    rw [allDependencies, List.forall_mem_append]
    exact ⟨forall_dependencies supplies type, forall_allDependencies supplies rest⟩
end

end SemType

theorem Imports.forall_required (supplies : library.Supplies P) (tree : Node) :
    ∀ name ∈ required library tree, P name := by
  intro name listed
  obtain ⟨node, _, needed⟩ := List.mem_flatMap.mp (mem_of_mem_addMissing [] _ name listed)
  simp only [ofNode, List.mem_append] at needed
  rcases needed with (called | typed) | returned
  · obtain ⟨entry, found, depends⟩ := Option.bind_eq_some_iff.mp (Option.mem_toList.mp called)
    obtain ⟨kind, type⟩ := node
    cases kind with
    | standardCall space function => exact supplies.functions space function entry found name depends
    | standardMethodCall receiver message => exact supplies.methods _ message entry found name depends
    | _ => cases found
  · exact SemType.forall_dependencies supplies node.type name typed
  · obtain ⟨type, _, typed⟩ := List.mem_flatMap.mp returned
    exact SemType.forall_dependencies supplies type name typed

end Dependencies

section Passes

/-- Something holds of all names in a tree. -/
def Node.NamesHold (P : String → Prop) (tree : Node) : Prop := tree.Everywhere fun node => ∀ name ∈ node.names, P name

instance (P : String → Prop) [DecidablePred P] (tree : Node) : Decidable (tree.NamesHold P) :=
  inferInstanceAs (Decidable (tree.Everywhere _))

variable {tree : Node} (hold : tree.NamesHold P)
include hold

theorem Declaration.namesHold_run : (run tree).NamesHold P :=
  Node.forall_walk_of_relabel_eq unmarking (fun node => by rw [node.names_unmarking])
    (Declaration.unmark_mark tree []).symm hold

theorem Naming.namesHold_run (naming : Naming)
    (cased : ∀ (convention : NameCase) name, P name → P (convention.apply name)) :
    (naming.run tree).NamesHold P := by
  rw [Node.NamesHold, Node.Everywhere, Naming.run_eq, Node.walk_relabel, List.forall_mem_map]
  intro node below text listed
  rcases Node.exists_of_mem_names_renamed naming _ node text listed with kept | ⟨convention, name, among, rfl⟩
  · exact hold node below text kept
  · exact cased convention name (hold node below name among)

theorem Imports.namesHold_run {library : Library} (supplies : library.Supplies P) : (run library tree).NamesHold P := by
  apply forall_walk_run library tree hold
  · have root := hold tree tree.mem_walk_self
    obtain ⟨kind, type⟩ := tree
    cases kind with
    | module => exact nofun
    | _ => exact root
  · intro name listed other same
    rw [List.mem_singleton.mp same]
    exact forall_required supplies tree name listed

end Passes

/-- The types that a tree declares are among its names. -/
theorem Profile.exists_of_mem_declaredTypes (tree : Node) (name : String) (listed : name ∈ declaredTypes tree) :
    ∃ node ∈ tree.walk, name ∈ node.names := by
  obtain ⟨node, below, declares⟩ := List.mem_filterMap.mp listed
  refine ⟨node, below, ?_⟩
  obtain ⟨kind, type⟩ := node
  cases kind with
  | classDefinition => cases declares; exact List.mem_cons_self
  | customException => cases declares; exact List.mem_cons_self
  | _ => cases declares

end Retarget
