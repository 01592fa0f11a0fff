import Mathlib.Data.List.Perm.Basic
import Mathlib.Data.List.Nodup
import Retarget.Proofs.Attributes
import Retarget.Proofs.Positions
import Retarget.Proofs.StoredTrees
import Retarget.Proofs.Traverse

/-! Reached children. The children of a node are what its attributes hold, the members of sequences one by one. Changing
them all leaves the rest of the node as it is, and a walk meets every position of a tree once. -/
namespace Retarget

/-- A list of all that there is to find, from every place once. -/
structure Enumerates (find : ι → Option α) (places : List ι) (found : List α) : Prop where
  distinct : places.Nodup
  complete : ∀ place, place ∈ places ↔ (find place).isSome
  found : places.map find = found.map some

namespace Kind

/-- The names of the attributes that hold the children, beside the index of the child in the attribute. -/
def places (kind : Kind α) : List (String × Nat) :=
  kind.fields.flatMap fun (name, field) => (List.range field.members.length).map (name, ·)

theorem mem_places_iff (kind : Kind α) (name : String) (index : Nat) :
    (name, index) ∈ kind.places ↔ ∃ field, (name, field) ∈ kind.fields ∧ index < field.members.length := by
  simp [places]

theorem map_snd_fields (kind : Kind α) : kind.fields.map Prod.snd = kind.values := by
  refine List.map_snd_zip ?_
  simp [Tag.fieldNames, length_values]

theorem nodup_places (kind : Kind α) : kind.places.Nodup := by
  have distinct : kind.fields.Pairwise fun entry other => entry.1 ≠ other.1 := by
    have names := kind.tag.nodup_fieldNames
    rwa [← map_fst_fields, List.Nodup, List.pairwise_map] at names
  refine List.nodup_flatMap.mpr ⟨fun entry _ => ?_, distinct.imp fun {entry other} apart => ?_⟩
  · exact List.nodup_range.map fun first second same => (Prod.mk.inj same).2
  · intro place here there
    obtain ⟨index, _, rfl⟩ := List.mem_map.mp here
    obtain ⟨second, _, same⟩ := List.mem_map.mp there
    exact apart (Prod.mk.inj same).1.symm

/-- Every child stands in one attribute, at one index. -/
theorem children_perm (kind : Kind α) : kind.children.Perm (kind.values.flatMap Field.members) := by
  classical
  rw [List.perm_iff_count]
  intro child
  cases kind <;>
    simp only [children, values, List.flatMap_cons, List.flatMap_nil, Field.members_ofNode?, Field.members_ofText?] <;>
    simp [Field.members, List.count_cons] <;>
    omega

end Kind

namespace Node

variable (node : Node)

section Places

/-- The child at a place: the attribute of a name, and an index in it. -/
def place? (place : String × Nat) : Option Node :=
  (node.attr? place.1).bind fun field => field.members[place.2]?

theorem place?_eq (name : String) (index : Nat) :
    node.place? (name, index) = (node.kind.fields.lookup name).bind fun field => field.members[index]? := by
  rw [place?, attr?_eq]
  by_cases own : name = "pseudo_type"
  · subst own
    rw [lookup_fields_eq_none node _ node.tag.reserved_notMem_fieldNames.2]
    rfl
  · rw [if_neg own]

theorem mem_places_iff_isSome (place : String × Nat) : place ∈ node.kind.places ↔ (node.place? place).isSome := by
  obtain ⟨name, index⟩ := place
  rw [Kind.mem_places_iff, place?_eq]
  simp only [← Kind.lookup_fields_eq_some_iff]
  cases node.kind.fields.lookup name <;> simp

theorem map_place?_places :
    node.kind.places.map node.place? = (node.kind.values.flatMap Field.members).map some := by
  rw [← Kind.map_snd_fields, List.flatMap_map, Kind.places, List.map_flatMap, List.map_flatMap]
  refine List.flatMap_congr fun entry listed => ?_
  obtain ⟨name, field⟩ := entry
  have found := (node.kind.lookup_fields_eq_some_iff name field).mpr listed
  refine List.ext_getElem (by simp) fun index _ _ => ?_
  simp [place?_eq, found]

theorem exists_places : ∃ places, Enumerates node.place? places node.children := by
  have permuted : (node.children.map some).Perm (node.kind.places.map node.place?) := by
    rw [map_place?_places]
    exact node.kind.children_perm.map some
  have standing : List.Forall₂ (fun child place => node.place? place = child)
      (node.kind.places.map node.place?) node.kind.places :=
    List.forall₂_map_left_iff.mpr (List.forall₂_same.mpr fun _ _ => rfl)
  obtain ⟨places, found, reordered⟩ := List.perm_comp_forall₂ permuted standing
  refine ⟨places, reordered.nodup_iff.mpr node.kind.nodup_places, fun place => ?_, ?_⟩
  · rw [reordered.mem_iff, mem_places_iff_isSome]
  · rw [← List.forall₂_eq_eq_eq, List.forall₂_map_left_iff]
    exact found.flip.imp fun _ _ same => same

end Places

section Changes

theorem attr?_map (f : Node → Node) (name : String) :
    attr? ⟨node.kind.map f, node.type⟩ name = (node.attr? name).map (Field.map f) := by
  rw [attr?_eq, attr?_eq, Kind.lookup_fields_map]
  split <;> rfl

variable {σ : Type} (visit : Node → StateM σ Node) (s : σ)

/-- What is left of a kind without its children is the same after a traversal. -/
theorem map_unit_run_traverse :
    ((node.kind.traverse visit).run s).1.map (fun _ => ()) = node.kind.map fun _ => () := by
  refine node.kind.map_run_traverse _ visit _ s ?_
  simp [List.map_const', length_run_mapM]

theorem attr?_run_traverse (name : String) :
    (attr? ⟨((node.kind.traverse visit).run s).1, node.type⟩ name).map (Field.map fun _ => ()) =
      (node.attr? name).map (Field.map fun _ => ()) := by
  have around := congrArg (fun kind : Kind Unit => kind.fields.lookup name) (node.map_unit_run_traverse visit s)
  simp only [Kind.lookup_fields_map] at around
  rw [attr?_eq, attr?_eq]
  split
  · rfl
  · exact around

end Changes

section Walks

/-- Positions in the order of a walk: a position comes before those below it, and what is below a child before what is
below a later one. -/
inductive Precedes : List Nat → List Nat → Prop
  | below (position : List Nat) (index : Nat) (rest : List Nat) : Precedes position (position ++ index :: rest)
  | beside (position : List Nat) (first second : Nat) (rest others : List Nat) (earlier : first < second) :
    Precedes (position ++ first :: rest) (position ++ second :: others)

theorem Precedes.ne {position other : List Nat} (precedes : Precedes position other) : position ≠ other := by
  cases precedes with
  | below => simp
  | beside _ _ _ _ _ earlier => simp [Nat.ne_of_lt earlier]

theorem Precedes.cons (index : Nat) {position other : List Nat} (precedes : Precedes position other) :
    Precedes (index :: position) (index :: other) := by
  cases precedes with
  | below _ next rest => exact .below (index :: position) next rest
  | beside start first second rest others earlier => exact .beside (index :: start) first second rest others earlier

/-- The positions of a tree, each behind those that lead to it. -/
def positions : Node → List (List Nat) :=
  fold fun kind _ => [] :: kind.children.zipIdx.flatMap fun (child, index) => child.2.map (index :: ·)

theorem positions_eq :
    node.positions = [] :: node.children.zipIdx.flatMap fun (child, index) => child.positions.map (index :: ·) := by
  simp [positions, fold_eq _ node, Kind.children_map, children, List.zipIdx_map, List.flatMap_map]

theorem mem_positions_iff (position : List Nat) : position ∈ node.positions ↔ (node.at? position).isSome := by
  induction node using induct generalizing position with
  | h node ih =>
    cases position with
    | nil =>
      rw [positions_eq]
      simp [at?]
    | cons index rest =>
      have below : index :: rest ∈ node.positions ↔
          ∃ child, node.children[index]? = some child ∧ rest ∈ child.positions := by
        rw [positions_eq]
        simp [List.mem_zipIdx_iff_getElem?]
      rw [below, at?_cons]
      cases isChild : node.children[index]? with
      | none => simp
      | some child => simpa using ih child (List.mem_of_getElem? isChild) rest

theorem map_at?_positions : node.positions.map node.at? = node.walk.map some := by
  induction node using induct with
  | h node ih =>
    have indexed : node.children.flatMap walk = node.children.zipIdx.flatMap fun (child, _) => child.walk := by
      conv_lhs => rw [← List.zipIdx_map_fst 0 node.children, List.flatMap_map]
    rw [positions_eq, walk_eq, indexed, List.map_cons, List.map_cons, List.map_flatMap, List.map_flatMap]
    refine congrArg (some node :: ·) (List.flatMap_congr fun entry listed => ?_)
    obtain ⟨child, index⟩ := entry
    have isChild : node.children[index]? = some child := List.mem_zipIdx_iff_getElem?.mp listed
    rw [← ih child (List.mem_of_getElem? isChild), List.map_map]
    refine List.map_congr_left fun rest _ => ?_
    simp [at?_cons, isChild]

theorem pairwise_positions : node.positions.Pairwise Precedes := by
  induction node using induct with
  | h node ih =>
    have ascending : node.children.zipIdx.Pairwise fun entry other => entry.2 < other.2 := by
      rw [← List.pairwise_map (f := Prod.snd), List.zipIdx_map_snd]
      exact List.pairwise_lt_range'
    rw [positions_eq, List.pairwise_cons, List.pairwise_flatMap]
    refine ⟨fun position member => ?_, fun entry listed => ?_, ascending.imp fun {entry other} earlier => ?_⟩
    · obtain ⟨entry, _, inner⟩ := List.mem_flatMap.mp member
      obtain ⟨rest, _, rfl⟩ := List.mem_map.mp inner
      exact .below [] entry.2 rest
    · have isChild := List.mem_of_getElem? (List.mem_zipIdx_iff_getElem?.mp listed)
      exact List.pairwise_map.mpr ((ih entry.1 isChild).imp fun precedes => precedes.cons entry.2)
    · intro position here second there
      obtain ⟨rest, _, rfl⟩ := List.mem_map.mp here
      obtain ⟨others, _, rfl⟩ := List.mem_map.mp there
      exact .beside [] entry.2 other.2 rest others earlier

theorem enumerates_walk : Enumerates node.at? node.positions node.walk where
  distinct := node.pairwise_positions.imp fun precedes => precedes.ne
  complete := node.mem_positions_iff
  found := node.map_at?_positions

end Walks

/-- The children of a node are the nodes that its attributes hold, from each place one. Mapping them changes each where
it stands and nothing else; visiting them with a state visits them in their order, and leaves all else as it is. A walk
visits the node at every position once, parents before what is below them and siblings in their order. -/
theorem traversals_reach_children_once :
    (∃ places, Enumerates node.place? places node.children) ∧
      (∀ f : Node → Node, let changed : Node := ⟨node.kind.map f, node.type⟩
        changed.tag = node.tag ∧ changed.children = node.children.map f ∧
          ∀ name, changed.attr? name = (node.attr? name).map (Field.map f)) ∧
      (∀ (σ : Type) (visit : Node → StateM σ Node) (s : σ),
        let visited := (node.kind.traverse visit).run s
        let changed : Node := ⟨visited.1, node.type⟩
        (node.children.mapM visit).run s = (changed.children, visited.2) ∧ changed.tag = node.tag ∧
          ∀ name, (changed.attr? name).map (Field.map fun _ => ()) = (node.attr? name).map (Field.map fun _ => ())) ∧
      Enumerates node.at? node.positions node.walk ∧ node.positions.Pairwise Precedes := by
  refine ⟨node.exists_places, fun f => ⟨?_, ?_, node.attr?_map f⟩, fun σ visit s => ⟨?_, ?_, ?_⟩,
    node.enumerates_walk, node.pairwise_positions⟩
  · exact Kind.tag_map f node.kind
  · exact Kind.children_map f node.kind
  · exact Kind.run_mapM_children visit node.kind s
  · exact Kind.tag_run_traverse visit node.kind s
  · exact node.attr?_run_traverse visit s

end Node
end Retarget
