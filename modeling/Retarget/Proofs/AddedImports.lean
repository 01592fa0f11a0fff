import Retarget.Proofs.Skeleton

/-! The dependencies that are added to a module. Nothing else in it changes, and what it needs is not
changed by them. -/
namespace Retarget

theorem Kind.exists_module_of_tag (kind : Kind α) (isModule : kind.tag = .module) :
    ∃ definitions dependencies constants customExceptions main,
      kind = .module definitions dependencies constants customExceptions main := by
  cases kind with
  | module definitions dependencies constants customExceptions main => exact ⟨_, _, _, _, _, rfl⟩
  | _ => cases isModule

theorem Node.returnType?_skeleton (node : Node) : Imports.returnType? node.skeleton = Imports.returnType? node := by
  obtain ⟨kind, type⟩ := node
  rw [skeleton, relabel_mk]
  cases kind <;> rfl

theorem Node.ofNode_skeleton (library : Library) (node : Node) :
    Imports.ofNode library node.skeleton = Imports.ofNode library node := by
  rw [Imports.ofNode, Imports.ofNode, operation?_skeleton, returnType?_skeleton, skeleton, type_relabel]

namespace Imports

variable (library : Library)

theorem tag_run (tree : Node) : (run library tree).tag = tree.tag := by
  obtain ⟨kind, type⟩ := tree
  cases kind <;> rfl

theorem run_of_ne_module (tree : Node) (other : tree.tag ≠ .module) : run library tree = tree := by
  obtain ⟨kind, type⟩ := tree
  cases kind with
  | module definitions dependencies constants customExceptions main => exact absurd rfl other
  | _ => rfl

section Walk

variable (tree : Node)

theorem flatMap_walk_run (f : Node → List β) (silent : ∀ name, f ⟨.dependency name, .void⟩ = [])
    (root : f (run library tree) = f tree) : (run library tree).walk.flatMap f = tree.walk.flatMap f := by
  obtain ⟨kind, type⟩ := tree
  cases kind with
  | module definitions dependencies constants customExceptions main =>
    have none (names : List String) :
        ((names.map fun name => Node.mk (.dependency name) .void).flatMap Node.walk).flatMap f = [] := by
      induction names with
      | nil => rfl
      | cons name rest ih =>
        rw [List.map_cons, List.flatMap_cons, List.flatMap_append, ih, Node.walk_eq, List.append_nil]
        exact (List.append_nil _).trans (silent name)
    rw [Node.walk_eq, Node.walk_eq ⟨.module _ _ _ _ _, type⟩, List.flatMap_cons, List.flatMap_cons, root]
    simp only [run, Node.children, Kind.children, List.flatMap_append, none, List.append_nil]
  | _ => rfl

theorem filterMap_walk_run (f : Node → Option β) (silent : ∀ name, f ⟨.dependency name, .void⟩ = none)
    (root : f (run library tree) = f tree) : (run library tree).walk.filterMap f = tree.walk.filterMap f := by
  rw [List.filterMap_eq_flatMap_toList, List.filterMap_eq_flatMap_toList]
  exact flatMap_walk_run library tree _ (fun name => by rw [silent]; rfl) (congrArg _ root)

theorem declaredTypes_run : Profile.declaredTypes (run library tree) = Profile.declaredTypes tree := by
  refine filterMap_walk_run library tree _ (fun _ => rfl) ?_
  obtain ⟨kind, type⟩ := tree
  cases kind <;> rfl

theorem ofTree_run : DefinedNames.ofTree (run library tree) = .ofTree tree := by
  rw [DefinedNames.ofTree, DefinedNames.ofTree]
  congr 1
  all_goals
    refine filterMap_walk_run library tree _ (fun _ => rfl) ?_
    obtain ⟨kind, type⟩ := tree
    cases kind <;> rfl

end Walk

/-- What a tree needs can be told from its skeleton. -/
theorem required_eq_of_skeleton_eq {tree other : Node} (same : tree.skeleton = other.skeleton) :
    required library tree = required library other := by
  rw [required, Node.flatMap_walk_of_relabel_eq erasing (Node.ofNode_skeleton library) same, required]

theorem required_run (tree : Node) (void : SemType.void.dependencies library = []) :
    required library (run library tree) = required library tree := by
  rw [required, flatMap_walk_run library tree (ofNode library), required]
  · intro name
    rw [ofNode, void]
    rfl
  · obtain ⟨kind, type⟩ := tree
    cases kind <;> rfl

theorem addMissing_of_subset (present wanted : List String) (all : ∀ name ∈ wanted, name ∈ present) :
    addMissing present wanted = [] := by
  induction wanted with
  | nil => rfl
  | cons name rest ih =>
    rw [List.forall_mem_cons] at all
    rw [addMissing, if_pos all.1, ih all.2]

theorem mem_or_mem_addMissing (present wanted : List String) (name : String) (member : name ∈ wanted) :
    name ∈ present ∨ name ∈ addMissing present wanted := by
  induction wanted generalizing present with
  | nil => cases member
  | cons first rest ih =>
    rw [addMissing]
    by_cases known : first ∈ present
    · rw [if_pos known]
      rcases List.mem_cons.mp member with rfl | member
      · exact .inl known
      · exact ih present member
    · rw [if_neg known]
      rcases List.mem_cons.mp member with rfl | member
      · exact .inr List.mem_cons_self
      · rcases ih (first :: present) member with inPresent | added
        · rcases List.mem_cons.mp inPresent with rfl | inPresent
          · exact .inr List.mem_cons_self
          · exact .inl inPresent
        · exact .inr (List.mem_cons_of_mem _ added)

theorem mem_of_mem_addMissing (present wanted : List String) (name : String)
    (member : name ∈ addMissing present wanted) : name ∈ wanted := by
  induction wanted generalizing present with
  | nil => cases member
  | cons first rest ih =>
    rw [addMissing] at member
    split at member
    · exact List.mem_cons_of_mem _ (ih present member)
    · rcases List.mem_cons.mp member with rfl | later
      · exact List.mem_cons_self
      · exact List.mem_cons_of_mem _ (ih _ later)

/-- A child is an old one, or a dependency that is required. -/
theorem mem_children_run (tree child : Node) (member : child ∈ (run library tree).children) :
    child ∈ tree.children ∨ ∃ name ∈ required library tree, child = ⟨.dependency name, .void⟩ := by
  obtain ⟨kind, type⟩ := tree
  cases kind with
  | module definitions dependencies constants customExceptions main =>
    simp only [run, Node.children, Kind.children, List.mem_append, List.mem_map] at member ⊢
    rcases member with ((((member | ⟨name, missing, rfl⟩) | member) | member) | member) | member
    · simp [member]
    · exact .inr ⟨name, mem_of_mem_addMissing _ _ name missing, rfl⟩
    all_goals simp [member]
  | _ => exact .inl member

/-- What holds of the nodes of a tree, of its new root and of the dependencies that it requires. -/
theorem forall_walk_run {P : Node → Prop} (tree : Node) (all : ∀ node ∈ tree.walk, P node) (root : P (run library tree))
    (added : ∀ name ∈ required library tree, P ⟨.dependency name, .void⟩) :
    ∀ node ∈ (run library tree).walk, P node := by
  refine (Node.forall_mem_walk _).mpr ⟨root, fun child member => ?_⟩
  rcases mem_children_run library tree child member with kept | ⟨name, required, rfl⟩
  · exact ((Node.forall_mem_walk _).mp all).2 child kept
  · exact (Node.forall_mem_walk _).mpr ⟨added name required, List.forall_mem_nil _⟩

/-- Nothing is missing once the dependencies are added. -/
theorem run_run (tree : Node) (void : SemType.void.dependencies library = []) :
    run library (run library tree) = run library tree := by
  have needs := required_run library tree void
  have nothing (dependencies : List Node) (wanted : List String) :
      addMissing ((dependencies ++ (addMissing (dependencies.filterMap dependencyName?) wanted).map fun name =>
        Node.mk (.dependency name) .void).filterMap dependencyName?) wanted = [] := by
    refine addMissing_of_subset _ _ fun name member => ?_
    have names (added : List String) :
        (added.map fun name => Node.mk (.dependency name) .void).filterMap dependencyName? = added := by
      rw [List.filterMap_map]
      exact List.filterMap_some
    rw [List.filterMap_append, names]
    exact List.mem_append.mpr (mem_or_mem_addMissing _ _ name member)
  obtain ⟨kind, type⟩ := tree
  cases kind with
  | module definitions dependencies constants customExceptions main =>
    simp only [run] at needs ⊢
    rw [needs, nothing, List.map_nil, List.append_nil]
  | _ => rfl

/-- Trees with the same skeleton get the same dependencies. -/
theorem eq_of_run_eq {tree other : Node} (skeletons : tree.skeleton = other.skeleton)
    (same : run library tree = run library other) : tree = other := by
  have tags : tree.tag = other.tag := by rw [← Node.tag_skeleton, skeletons, Node.tag_skeleton]
  by_cases isModule : tree.tag = .module
  · obtain ⟨kind, type⟩ := tree
    obtain ⟨otherKind, otherType⟩ := other
    obtain ⟨definitions, dependencies, constants, customExceptions, main, rfl⟩ :=
      Kind.exists_module_of_tag kind isModule
    obtain ⟨_, others, _, _, _, rfl⟩ := Kind.exists_module_of_tag otherKind (tags.symm.trans isModule)
    have lengths : dependencies.length = others.length := by
      simp only [Node.skeleton, Node.relabel_mk, erasing, Kind.map, Node.mk.injEq, Kind.module.injEq] at skeletons
      simpa only [List.length_map] using congrArg List.length skeletons.1.2.1
    simp only [run, Node.mk.injEq, Kind.module.injEq] at same
    obtain ⟨⟨rfl, sameDependencies, rfl, rfl, rfl⟩, rfl⟩ := same
    rw [(List.append_inj sameDependencies lengths).1]
  · rwa [run_of_ne_module library tree isModule, run_of_ne_module library other (tags ▸ isModule)] at same

/-- Marking does not look at dependencies. -/
theorem run_mark (tree : Node) : Declaration.run (run library tree) = run library (Declaration.run tree) := by
  have needs := required_eq_of_skeleton_eq library (Declaration.skeleton_run tree)
  by_cases isModule : tree.tag = .module
  · obtain ⟨kind, type⟩ := tree
    obtain ⟨definitions, dependencies, constants, customExceptions, main, rfl⟩ :=
      Kind.exists_module_of_tag kind isModule
    rw [Declaration.run, Declaration.mark_module] at needs
    rw [run, Declaration.run, Declaration.run, Declaration.mark_module, Declaration.mark_module, run, needs]
  · have marked : (Declaration.run tree).tag ≠ .module := by rwa [Declaration.run, Declaration.tag_mark]
    rw [run_of_ne_module library tree isModule, run_of_ne_module library _ marked]

/-- Nor does casing rename them. -/
theorem run_renaming (naming : Naming) (names : DefinedNames) (tree : Node) :
    (run library tree).relabel (naming.renaming names) = run library (tree.relabel (naming.renaming names)) := by
  have needs := required_eq_of_skeleton_eq library (naming.skeleton_renaming names tree)
  by_cases isModule : tree.tag = .module
  · obtain ⟨kind, type⟩ := tree
    obtain ⟨definitions, dependencies, constants, customExceptions, main, rfl⟩ :=
      Kind.exists_module_of_tag kind isModule
    have kept (dependency : Node) :
        dependencyName? (dependency.relabel (naming.renaming names)) = dependencyName? dependency := by
      obtain ⟨kind, type⟩ := dependency
      rw [Node.relabel_mk]
      cases kind <;> rfl
    have listed : (dependencies.map (Node.relabel (naming.renaming names))).filterMap dependencyName? =
        dependencies.filterMap dependencyName? := by
      rw [List.filterMap_map]
      exact List.filterMap_congr fun dependency _ => kept dependency
    rw [Node.relabel_mk] at needs ⊢
    simp only [run, Node.relabel_mk, Naming.renaming, Naming.renameKind, Kind.map, List.map_append, List.map_map,
      Function.comp_def] at needs listed ⊢
    rw [needs, listed]
  · have renamed : (tree.relabel (naming.renaming names)).tag ≠ .module := by rwa [Node.tag_relabel]
    rw [run_of_ne_module library tree isModule, run_of_ne_module library _ renamed]

theorem run_naming (naming : Naming) (tree : Node) : naming.run (run library tree) = run library (naming.run tree) := by
  rw [Naming.run_eq, Naming.run_eq, ofTree_run, run_renaming]

/-- Dependencies take no part in any scope. -/
theorem events_run (tree : Node) : (run library tree).events = tree.events := by
  by_cases isModule : tree.tag = .module
  · obtain ⟨kind, type⟩ := tree
    obtain ⟨definitions, dependencies, constants, customExceptions, main, rfl⟩ :=
      Kind.exists_module_of_tag kind isModule
    rw [run, Node.events_module, Node.events_module]
  · rw [run_of_ne_module library tree isModule]

section Writable

variable {allowed : GenerateError → Prop} {target : Target} {declared : List String}

/-- A module with dependencies added can be written if it could before. -/
theorem allWritable_run (tree : Node) (void : Safe allowed (SemType.void.render target.types declared))
    (all : tree.AllWritable allowed target declared) : (run library tree).AllWritable allowed target declared := by
  have added (name : String) : (Node.mk (.dependency name) .void).Writable allowed target declared :=
    ⟨List.forall_mem_nil _, fun type member => by cases List.mem_singleton.mp member; exact void, by rintro ⟨⟩⟩
  refine forall_walk_run library tree all ?_ fun name _ => added name
  have members := mem_children_run library tree
  obtain ⟨kind, type⟩ := tree
  cases kind with
  | module definitions dependencies constants customExceptions main =>
    have old := (Node.partsMatch_of_ne_forStatement _ (by rintro ⟨⟩)).mp all.self.parts
    refine ⟨(Node.partsMatch_of_ne_forStatement _ (by rintro ⟨⟩)).mpr fun child member => ?_, all.self.types,
      by rintro ⟨⟩⟩
    rcases members child member with kept | ⟨name, _, rfl⟩
    · exact old child kept
    · rfl
  | _ => exact all.self

end Writable

end Imports
end Retarget
