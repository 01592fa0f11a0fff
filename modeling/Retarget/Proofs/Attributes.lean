import Retarget.Pass.Imports
import Retarget.Render.Attribute

/-! Attributes of nodes. The tag alone decides which attributes a node has and what shape they are of;
the nodes in them are children, and the types in them are those that the node carries. -/
namespace Retarget

/-- The shape of the attribute of a name, on any node of the tag. -/
def Tag.shapeOf? (tag : Tag) (name : String) : Option Shape :=
  if name = "pseudo_type" then some .type
  else (tag.layout.map fun slot => (slot.name, slot.shape)).lookup name

/-- Looking up in a list whose values are images gives the image of what was there. -/
theorem lookup_map_snd (f : β → γ) (entries : List (String × β)) (name : String) :
    (entries.map fun entry => (entry.1, f entry.2)).lookup name = (entries.lookup name).map f := by
  induction entries with
  | nil => rfl
  | cons entry rest ih =>
    obtain ⟨key, value⟩ := entry
    rw [List.map_cons, List.lookup_cons, List.lookup_cons, ih]
    cases name == key <;> rfl

theorem Kind.lookup_fields_map (f : α → β) (kind : Kind α) (name : String) :
    (kind.map f).fields.lookup name = (kind.fields.lookup name).map (Field.map f) := by
  rw [fields, fields, values_map, tag_map, List.zip_map_right]
  exact lookup_map_snd (Field.map f) _ name

theorem lookup_zip_values (slots : List Slot) (values : List (Field α)) (name : String) (shape : Shape)
    (length : values.length = slots.length)
    (fits : ((slots.zip values).all fun (slot, field) => slot.shape.fits field) = true)
    (declared : (slots.map fun slot => (slot.name, slot.shape)).lookup name = some shape) :
    ∃ field, ((slots.map (·.name)).zip values).lookup name = some field ∧ shape.fits field = true := by
  induction slots generalizing values with
  | nil => cases declared
  | cons slot slots ih =>
    cases values with
    | nil => cases length
    | cons value values =>
      simp only [List.zip_cons_cons, List.all_cons, Bool.and_eq_true] at fits
      rw [List.map_cons, List.lookup_cons] at declared
      rw [List.map_cons, List.zip_cons_cons, List.lookup_cons]
      cases same : name == slot.name with
      | true =>
        rw [same] at declared
        cases declared
        exact ⟨value, rfl, fits.1⟩
      | false =>
        rw [same] at declared
        exact ih values (by simpa using length) fits.2 declared

namespace Node

theorem attr?_of_shapeOf? (node : Node) (name : String) (shape : Shape)
    (declared : node.tag.shapeOf? name = some shape) :
    ∃ field, node.attr? name = some field ∧ shape.fits field = true := by
  rw [Tag.shapeOf?] at declared
  rw [attr?_eq]
  split at declared
  · rename_i isType
    cases declared
    exact ⟨.type node.type, by rw [if_pos isType], rfl⟩
  · rename_i other
    rw [if_neg other]
    exact lookup_zip_values _ _ name shape (Kind.length_values _) (Kind.fits_values _) declared

theorem mem_values_of_attr? (node : Node) (name : String) (field : Field Node) (found : node.attr? name = some field) :
    field = .type node.type ∨ field ∈ node.kind.values := by
  rw [attr?_eq] at found
  split at found
  · cases found
    exact .inl rfl
  · right
    obtain ⟨before, after, fields, _⟩ := List.lookup_eq_some_iff.mp found
    have member : (name, field) ∈ node.kind.fields := by
      rw [fields]
      exact List.mem_append_right _ List.mem_cons_self
    exact (List.of_mem_zip member).2

end Node

theorem Field.members_ofNode? (child : Option α) : (Field.ofNode? child).members = child.toList := by
  cases child <;> rfl

theorem Field.members_ofText? (text : Option String) : (Field.ofText? text : Field α).members = [] := by
  cases text <;> rfl

theorem Kind.members_subset_children (kind : Kind α) :
    ∀ field ∈ kind.values, ∀ child ∈ field.members, child ∈ kind.children := by
  cases kind <;>
    simp only [Kind.values, Kind.children, List.forall_mem_cons, Field.members_ofNode?, Field.members_ofText?] <;>
    simp +contextual [Field.members]

namespace Node

theorem mem_children_of_attr? (node : Node) (name : String) (field : Field Node) (found : node.attr? name = some field)
    (child : Node) (member : child ∈ field.members) : child ∈ node.children := by
  rcases mem_values_of_attr? node name field found with rfl | stored
  · cases member
  · exact Kind.members_subset_children node.kind field stored child member

/-- The types that a node carries: its own, and the one that it returns if it is a definition. -/
def types (node : Node) : List SemType := node.type :: (Imports.returnType? node).toList

theorem mem_types_of_attr? (node : Node) (name : String) (type : SemType)
    (found : node.attr? name = some (.type type)) : type ∈ node.types := by
  rcases mem_values_of_attr? node name _ found with same | stored
  · cases same
    exact List.mem_cons_self
  · refine List.mem_cons_of_mem _ ?_
    obtain ⟨kind, own⟩ := node
    have inOption (other : Option Node) : Field.type type ≠ Field.ofNode? other := by
      cases other <;> simp [Field.ofNode?]
    have inText (other : Option String) : Field.type type ≠ (Field.ofText? other : Field Node) := by
      cases other <;> simp [Field.ofText?]
    cases kind <;> simp_all [Kind.values, Imports.returnType?]

theorem foldr_size_pos (children : List Node) : 0 < children.foldr (fun child total => child.size + total) 1 := by
  induction children with
  | nil => exact Nat.one_pos
  | cons child rest ih => rw [List.foldr_cons]; omega

theorem size_pos (node : Node) : 0 < node.size := by
  rw [size_eq]
  exact foldr_size_pos node.children

theorem size_lt_of_mem_children (node child : Node) (member : child ∈ node.children) : child.size < node.size := by
  have among (children : List Node) (member : child ∈ children) :
      child.size < children.foldr (fun child total => child.size + total) 1 := by
    induction children with
    | nil => cases member
    | cons first rest ih =>
      rw [List.foldr_cons]
      rcases List.mem_cons.mp member with rfl | later
      · have positive := foldr_size_pos rest
        omega
      · have smaller := ih later
        omega
  rw [size_eq node]
  exact among node.children member

theorem mem_walk_self (node : Node) : node ∈ node.walk := by
  rw [walk_eq]
  exact List.mem_cons_self

theorem mem_walk_of_mem_children {node child inner : Node} (member : child ∈ node.children)
    (below : inner ∈ child.walk) : inner ∈ node.walk := by
  rw [walk_eq]
  exact List.mem_cons_of_mem _ (List.mem_flatMap.mpr ⟨child, member, below⟩)

theorem mem_walk_trans {node inner lowest : Node} (below : inner ∈ node.walk) (lower : lowest ∈ inner.walk) :
    lowest ∈ node.walk := by
  induction node using induct with
  | h node ih =>
    rw [walk_eq, List.mem_cons, List.mem_flatMap] at below
    rcases below with rfl | ⟨child, member, below⟩
    · exact lower
    · exact mem_walk_of_mem_children member (ih child member below)

theorem length_walk (node : Node) : node.walk.length = node.size := by
  induction node using induct with
  | h node ih =>
    rw [walk_eq, size_eq, List.length_cons]
    generalize node.children = children at ih
    induction children with
    | nil => rfl
    | cons child rest others =>
      rw [List.forall_mem_cons] at ih
      rw [List.flatMap_cons, List.length_append, ih.1, List.foldr_cons, ← others ih.2]
      omega

theorem size_le_of_mem_walk {node inner : Node} (below : inner ∈ node.walk) : inner.size ≤ node.size := by
  induction node using induct with
  | h node ih =>
    rw [walk_eq, List.mem_cons, List.mem_flatMap] at below
    rcases below with rfl | ⟨child, member, below⟩
    · exact Nat.le_refl _
    · exact Nat.le_trans (ih child member below) (Nat.le_of_lt (node.size_lt_of_mem_children child member))

/-- A path leads to an attribute of a node of the tree. -/
theorem exists_owner_of_resolve (node : Node) (path : Path) (resolved : Resolved)
    (found : node.resolve path = .ok resolved) :
    ∃ owner ∈ node.walk, owner.attr? resolved.name = some resolved.field := by
  obtain ⟨first, rest⟩ := path
  rw [Node.resolve] at found
  induction rest generalizing node first with
  | nil =>
    simp only [resolveFrom] at found
    split at found
    · cases found
    · rename_i field stored
      cases found
      exact ⟨node, node.mem_walk_self, stored⟩
  | cons next rest ih =>
    simp only [resolveFrom] at found
    split at found
    · rename_i child stored
      obtain ⟨owner, below, has⟩ := ih child next found
      have member := node.mem_children_of_attr? first _ stored child (by simp [Field.members])
      exact ⟨owner, mem_walk_of_mem_children member below, has⟩
    · cases found
    · cases found
    · cases found

/-- Every node of a tree has a property. -/
def Everywhere (P : Node → Prop) (tree : Node) : Prop := ∀ node ∈ tree.walk, P node

instance (P : Node → Prop) [DecidablePred P] (tree : Node) : Decidable (tree.Everywhere P) :=
  inferInstanceAs (Decidable (∀ node ∈ tree.walk, P node))

namespace Everywhere

variable {P : Node → Prop} {node : Node} (all : node.Everywhere P)
include all

theorem self : P node := (node.forall_mem_walk.mp all).1

theorem child (child : Node) (member : child ∈ node.children) : child.Everywhere P :=
  (node.forall_mem_walk.mp all).2 child member

theorem below (inner : Node) (below : inner ∈ node.walk) : inner.Everywhere P :=
  fun lowest lower => all lowest (mem_walk_trans below lower)

theorem member (name : String) (field : Field Node) (found : node.attr? name = some field) (child : Node)
    (member : child ∈ field.members) : child.Everywhere P :=
  all.child child (node.mem_children_of_attr? name field found child member)

theorem sequenceAt (name : String) (nodes : List Node) (found : node.sequenceAt name = .ok nodes) :
    ∀ inner ∈ nodes, inner.Everywhere P := by
  rw [Node.sequenceAt] at found
  split at found <;> cases found
  · rename_i stored
    exact all.member name _ stored
  · exact nofun

theorem childAt (name : String) (child : Node) (found : node.childAt name = .ok child) : child.Everywhere P := by
  rw [Node.childAt] at found
  split at found <;> cases found
  rename_i stored
  exact all.member name _ stored child List.mem_cons_self

end Everywhere

end Node
end Retarget
