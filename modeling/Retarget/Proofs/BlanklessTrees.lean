import Retarget.Proofs.PassedNames

/-! Trees without blanks in their names. Passes bring none in: marks are no names, no convention of casing brings a
blank into one, and the dependencies that are added have the names that the library gives them. -/
namespace Retarget

/-- A text that is not empty and has no blank. -/
def IsName (text : String) : Prop := text ≠ "" ∧ Blankless text

instance (text : String) : Decidable (IsName text) := inferInstanceAs (Decidable (_ ∧ _))

theorem IsName.trimmed {text : String} (name : IsName text) : Trimmed text := name.2.trimmed name.1

namespace Node

/-- Names and operators are names, no line feed is in a pattern, and no block is empty. -/
structure Plain (node : Node) : Prop where
  names : ∀ name ∈ node.names, IsName name
  patterns : ∀ pattern ∈ node.patterns, Unbroken pattern
  block : node.tag = .block → node.children ≠ []

theorem Plain.tidy {node : Node} (plain : node.Plain) : node.Tidy where
  names name listed := (plain.names name listed).trimmed.solid
  patterns := plain.patterns
  block := plain.block

theorem patterns_relabel (change : Relabelling) (node : Node) :
    (node.relabel change).patterns = if node.tag = .regex then (change.apply node.kind).texts else [] := by
  rw [Node.patterns, tag_relabel, kind_relabel, Kind.texts_map]

theorem plain_unmarking (node : Node) : (node.relabel unmarking).Plain ↔ node.Plain := by
  have own : (unmarking.apply node.kind).texts = node.kind.texts := by
    cases node.kind <;> rfl
  have names := node.names_unmarking
  have patterns : (node.relabel unmarking).patterns = node.patterns := by rw [patterns_relabel, own, Node.patterns]
  have block : (node.relabel unmarking).children ≠ [] ↔ node.children ≠ [] := by
    rw [children_relabel, ne_eq, List.map_eq_nil_iff]
  constructor
  · rintro ⟨ofNames, ofPatterns, ofBlock⟩
    refine ⟨names ▸ ofNames, patterns ▸ ofPatterns, fun isBlock => block.mp (ofBlock ?_)⟩
    rwa [tag_relabel]
  · rintro ⟨ofNames, ofPatterns, ofBlock⟩
    refine ⟨names ▸ ofNames, patterns ▸ ofPatterns, fun isBlock => block.mpr (ofBlock ?_)⟩
    rwa [tag_relabel] at isBlock

theorem plain_renamed (naming : Naming) (defined : DefinedNames) (node : Node) (plain : node.Plain)
    (filled : ∀ name ∈ (node.relabel (naming.renaming defined)).names, name ≠ "") :
    (node.relabel (naming.renaming defined)).Plain where
  names := by
    intro text listed
    refine ⟨filled text listed, ?_⟩
    rcases exists_of_mem_names_renamed naming defined node text listed with kept | ⟨convention, name, among, rfl⟩
    · exact (plain.names text kept).2
    · exact convention.blankless_apply name (plain.names name among).2
  patterns := by
    intro text listed
    rw [patterns_relabel] at listed
    split at listed
    · rename_i isRegex
      refine plain.patterns text ?_
      rw [Node.patterns, if_pos isRegex]
      obtain ⟨kind, type⟩ := node
      cases kind with
      | regex => exact listed
      | _ => cases isRegex
    · cases listed
  block := by
    intro isBlock
    rw [tag_relabel] at isBlock
    rw [children_relabel, ne_eq, List.map_eq_nil_iff]
    exact plain.block isBlock

/-- No name in a tree is empty. -/
def NamesFilled (tree : Node) : Prop := ∀ node ∈ tree.walk, ∀ name ∈ node.names, name ≠ ""

instance (tree : Node) : Decidable tree.NamesFilled :=
  inferInstanceAs (Decidable (∀ node ∈ tree.walk, ∀ name ∈ node.names, name ≠ ""))

/-- Marks do not matter to casing. -/
theorem namesFilled_run_mark (naming : Naming) (tree : Node) (filled : (naming.run tree).NamesFilled) :
    (naming.run (Declaration.run tree)).NamesFilled := by
  rw [NamesFilled, Naming.run_eq, walk_relabel, List.forall_mem_map] at filled ⊢
  rw [DefinedNames.ofTree_mark]
  refine forall_walk_of_relabel_eq unmarking (fun node => ?_) (Declaration.unmark_mark tree []).symm filled
  have own : (naming.renameKind (.ofTree tree) (unmarking.apply node.kind)).texts =
      (naming.renameKind (.ofTree tree) node.kind).texts := by
    cases node.kind <;> rfl
  have renamed := (naming.renaming (.ofTree tree)).map (relabel unmarking) (unmarking.apply node.kind)
  rw [names_relabel, names_relabel, tag_relabel, kind_relabel, renamed, Kind.texts_map]
  simp only [Naming.renaming, own]

end Node

/-- Added dependencies leave a tree plain. -/
theorem Imports.plain_run {library : Library} (named : library.Supplies IsName) (tree : Node)
    (plain : ∀ node ∈ tree.walk, node.Plain) : ∀ node ∈ (run library tree).walk, node.Plain := by
  refine forall_walk_run library tree plain ?_ fun name listed => ?_
  · have root := plain tree tree.mem_walk_self
    obtain ⟨kind, type⟩ := tree
    cases kind with
    | module => exact ⟨nofun, nofun, nofun⟩
    | _ => exact root
  · refine ⟨fun other same => ?_, nofun, nofun⟩
    rw [List.mem_singleton.mp same]
    exact forall_required named tree name listed

end Retarget
