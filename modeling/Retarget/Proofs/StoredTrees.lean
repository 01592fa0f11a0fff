import Retarget.Proofs.Attributes
import Retarget.Proofs.Building
import Retarget.Proofs.Descriptors
import Retarget.Tree.Decode

/-! Stored trees. A tree is written as records and read back from them. Every field is found under its
name, whatever the order in which fields are read, and reads back by the shape of its slot. -/
namespace Retarget

/-- Content that its serialized form keeps: integers of 64 bits, finite numbers and regular types. -/
def Field.Storable : Field α → Prop
  | .int value => isWordInteger value = true
  | .float value => value.isFinite = true
  | .type value => value.Regular
  | _ => True

/-- Trees that their serialized form keeps. -/
def Node.Storable (tree : Node) : Prop :=
  ∀ node ∈ tree.walk, node.type.Regular ∧ ∀ field ∈ node.kind.values, field.Storable

namespace Node

theorem storable_iff (node : Node) :
    node.Storable ↔ node.type.Regular ∧ (∀ field ∈ node.kind.values, field.Storable) ∧
      ∀ child ∈ node.children, child.Storable := by
  rw [Storable, forall_mem_walk, and_assoc]
  rfl

end Node

section Lookup

theorem lookup_map_of_mem (key : β → String) (f : β → γ) (items : List β) (item : β) (member : item ∈ items)
    (unique : ∀ other ∈ items, key other = key item → f other = f item) :
    (items.map fun item => (key item, f item)).lookup (key item) = some (f item) := by
  induction items with
  | nil => cases member
  | cons first rest ih =>
    rw [List.forall_mem_cons] at unique
    rw [List.map_cons, List.lookup_cons]
    cases same : key item == key first with
    | true => rw [unique.1 (beq_iff_eq.mp same).symm]
    | false =>
      rcases List.mem_cons.mp member with rfl | later
      · simp at same
      · exact ih later unique.2

theorem mem_of_lookup (entries : List (String × β)) (name : String) (value : β)
    (found : entries.lookup name = some value) : (name, value) ∈ entries := by
  obtain ⟨before, after, split, _⟩ := List.lookup_eq_some_iff.mp found
  simp [split]

theorem lookup_of_nodup (entries : List (String × β)) (nodup : (entries.map Prod.fst).Nodup) (name : String) (value : β)
    (member : (name, value) ∈ entries) : entries.lookup name = some value := by
  induction entries with
  | nil => cases member
  | cons entry rest ih =>
    obtain ⟨key, stored⟩ := entry
    rw [List.map_cons, List.nodup_cons] at nodup
    rw [List.lookup_cons]
    rcases List.mem_cons.mp member with same | later
    · cases same
      rw [beq_self_eq_true]
    · have other : name ≠ key := by
        rintro rfl
        exact nodup.1 (List.mem_map.mpr ⟨_, later, rfl⟩)
      rw [beq_eq_false_iff_ne.mpr other]
      exact ih nodup.2 later

end Lookup

namespace Tag

theorem ofName?_name (tag : Tag) : ofName? tag.name = some tag := by
  have all : ∀ tag ∈ all, ofName? tag.name = some tag := by decide
  exact all tag tag.mem_all

theorem nodup_fieldNames (tag : Tag) : tag.fieldNames.Nodup := by
  have all : ∀ tag ∈ all, tag.fieldNames.Nodup := by decide
  exact all tag tag.mem_all

/-- The keys of a node's tag and type are no names of fields. -/
theorem reserved_notMem_fieldNames (tag : Tag) : "type" ∉ tag.fieldNames ∧ "pseudo_type" ∉ tag.fieldNames := by
  have all : ∀ tag ∈ all, "type" ∉ tag.fieldNames ∧ "pseudo_type" ∉ tag.fieldNames := by decide
  exact all tag tag.mem_all

theorem mem_insertByName (slot other : Slot) (slots : List Slot) :
    other ∈ insertByName slot slots ↔ other = slot ∨ other ∈ slots := by
  induction slots with
  | nil => rw [insertByName, List.mem_singleton]; simp
  | cons first rest ih =>
    rw [insertByName]
    split
    · rw [List.mem_cons]
    · rw [List.mem_cons, ih, List.mem_cons, or_left_comm]

theorem mem_slotsByName (tag : Tag) (slot : Slot) : slot ∈ tag.slotsByName ↔ slot ∈ tag.layout := by
  rw [slotsByName]
  induction tag.layout with
  | nil => rfl
  | cons first rest ih => rw [List.foldr_cons, mem_insertByName, ih, List.mem_cons]

end Tag

namespace Kind

/-- The field that a kind has in a slot of its tag. -/
def fieldAt (kind : Kind α) (slot : Slot) : Field α := (kind.fields.lookup slot.name).getD .absent

theorem map_fst_fields (kind : Kind α) : kind.fields.map Prod.fst = kind.tag.fieldNames := by
  refine List.map_fst_zip ?_
  simp [Tag.fieldNames, length_values]

theorem lookup_fields_eq_some_iff (kind : Kind α) (name : String) (field : Field α) :
    kind.fields.lookup name = some field ↔ (name, field) ∈ kind.fields := by
  refine ⟨mem_of_lookup _ name field, lookup_of_nodup _ ?_ name field⟩
  rw [map_fst_fields]
  exact kind.tag.nodup_fieldNames

theorem fieldAt_spec (kind : Kind α) (slot : Slot) (value : Field α)
    (member : (slot, value) ∈ kind.tag.layout.zip kind.values) :
    kind.fields.lookup slot.name = some value ∧ kind.fieldAt slot = value ∧ slot.shape.fits value = true := by
  have found : kind.fields.lookup slot.name = some value := by
    rw [lookup_fields_eq_some_iff, fields, Tag.fieldNames, List.zip_map_left]
    exact List.mem_map_of_mem (f := Prod.map Slot.name id) member
  have fits := List.all_eq_true.mp kind.fits_values _ member
  exact ⟨found, by rw [fieldAt, found, Option.getD_some], fits⟩

theorem mem_zip_values (kind : Kind α) (i : Nat) (inLayout : i < kind.tag.layout.length)
    (inValues : i < kind.values.length) : (kind.tag.layout[i], kind.values[i]) ∈ kind.tag.layout.zip kind.values := by
  rw [← List.getElem_zip (h := by rw [List.length_zip]; omega)]
  exact List.getElem_mem _

theorem map_fieldAt (kind : Kind α) : kind.tag.layout.map kind.fieldAt = kind.values := by
  have length := kind.length_values
  refine List.ext_getElem (by rw [List.length_map, length]) fun i inLayout inValues => ?_
  rw [List.getElem_map]
  exact (kind.fieldAt_spec _ _ (kind.mem_zip_values i (by omega) inValues)).2.1

theorem exists_fieldAt (kind : Kind α) (slot : Slot) (listed : slot ∈ kind.tag.layout) :
    kind.fields.lookup slot.name = some (kind.fieldAt slot) ∧ slot.shape.fits (kind.fieldAt slot) = true ∧
      kind.fieldAt slot ∈ kind.values := by
  obtain ⟨i, inLayout, rfl⟩ := List.getElem_of_mem listed
  have inValues : i < kind.values.length := by rw [length_values]; exact inLayout
  obtain ⟨found, same, fits⟩ := kind.fieldAt_spec _ _ (kind.mem_zip_values i inLayout inValues)
  rw [same]
  exact ⟨found, fits, List.getElem_mem inValues⟩

end Kind

namespace Node

theorem readMembers_eq (members : List (String × Data)) :
    readMembers members = members.map fun member => (member.1, ⟨member.2, ofData member.2, ofList member.2⟩) := by
  induction members with
  | nil => rfl
  | cons member rest ih =>
    obtain ⟨name, data⟩ := member
    rw [readMembers, ih, List.map_cons]

/-- The serialized content of a field of a tree. -/
def storeField (field : Field Node) : Data := (field.map toData).encode finiteOrNull

/-- The members of the record that a node is stored as. -/
def storedMembers (node : Node) : List (String × Data) :=
  ("type", .text node.tag.name) :: node.kind.fields.map (fun entry => (entry.1, storeField entry.2)) ++
    if node.type.isVoid then [] else [("pseudo_type", node.type.toData)]

theorem toData_eq (node : Node) : node.toData = .record node.storedMembers := by
  obtain ⟨kind, type⟩ := node
  have fields : ((kind.map fun child => (child, child.toData)).map (·.2)).fields.map
      (fun entry => (entry.1, entry.2.encode finiteOrNull)) =
        kind.fields.map fun entry => (entry.1, storeField entry.2) := by
    rw [Kind.map_map, Kind.fields, Kind.fields, Kind.tag_map, Kind.values_map, List.zip_map_right, List.map_map]
    rfl
  rw [toData, encode, fold_eq, Kind.tag_map]
  exact congrArg (fun fields => Data.record (("type", .text kind.tag.name) :: fields ++ _)) fields

section Fields

theorem ofItems_map_toData (children : List Node) (read : ∀ child ∈ children, ofData child.toData = .ok child) :
    ofItems (children.map toData) = .ok children := by
  induction children with
  | nil => rfl
  | cons child rest ih =>
    rw [List.forall_mem_cons] at read
    rw [List.map_cons, ofItems, read.1, ih read.2]
    rfl

/-- A field that fits its slot reads back from its serialized content. -/
theorem read_storeField (shape : Shape) (field : Field Node) (fits : shape.fits field = true)
    (storable : field.Storable) (children : ∀ child ∈ field.members, ofData child.toData = .ok child) :
    shape.read ⟨storeField field, ofData (storeField field), ofList (storeField field)⟩ = .ok field := by
  cases field with
  | node child =>
    have inner : ofData (storeField (.node child)) = .ok child := children child List.mem_cons_self
    have record : ∃ members, storeField (.node child) = .record members := ⟨_, toData_eq child⟩
    obtain ⟨members, written⟩ := record
    rw [written] at inner ⊢
    cases shape with
    | node => rw [Shape.read, inner]; rfl
    | optionalNode =>
      change Field.node <$> ofData (.record members) = _
      rw [inner]
      rfl
    | _ => cases fits
  | nodes nodes =>
    have inner : ofList (storeField (.nodes nodes)) = .ok nodes := by
      change ofList (.list (nodes.map toData)) = .ok nodes
      rw [ofList, ofItems_map_toData nodes children]
    cases shape with
    | nodes => rw [Shape.read, inner]; rfl
    | defaultedNodes => rw [Shape.read, inner]; rfl
    | _ => cases fits
  | text value => cases shape <;> first | rfl | cases fits
  | int value =>
    cases shape with
    | int =>
      have word : isWordInteger value = true := storable
      have inner : Shape.readInt (.int value) = .ok value := by rw [Shape.readInt, if_pos word]
      change Field.int <$> Shape.readInt (.int value) = _
      rw [inner]
      rfl
    | _ => cases fits
  | float value =>
    have written : storeField (.float value) = .float value := if_pos storable
    rw [written]
    cases shape <;> first | rfl | cases fits
  | bool value => cases shape <;> first | rfl | cases fits
  | type value =>
    cases shape with
    | type =>
      change Field.type <$> SemType.ofData value.toData = _
      rw [SemType.ofData_toData value storable]
      rfl
    | _ => cases fits
  | absent => cases shape <;> first | rfl | cases fits

/-- The given fields are those that the slots ask for, each read by the shape of its slot. -/
theorem readGiven_eq (members : List (String × Reading)) (content : Slot → Field Node) (slots : List Slot)
    (reads : ∀ slot ∈ slots, ∃ reading, members.lookup slot.name = some reading ∧
      slot.shape.read reading = .ok (content slot)) :
    readGiven members slots = .ok (slots.map fun slot => (slot.name, content slot)) := by
  induction slots with
  | nil => rfl
  | cons slot rest ih =>
    rw [List.forall_mem_cons] at reads
    obtain ⟨reading, found, read⟩ := reads.1
    rw [readGiven, found]
    dsimp only
    rw [read, ih reads.2]
    rfl

theorem complete_eq (given : List (String × Field Node)) (content : Slot → Field Node) (slots : List Slot)
    (found : ∀ slot ∈ slots, given.lookup slot.name = some (content slot)) :
    complete given slots = .ok (slots.map content) := by
  induction slots with
  | nil => rfl
  | cons slot rest ih =>
    rw [List.forall_mem_cons] at found
    rw [complete, found.1, ih found.2]
    rfl

end Fields

section Records

theorem ofMembers_eq_ok_iff (members : List (String × Reading)) (node : Node) :
    ofMembers members = .ok node ↔ ∃ tag given values, readType members = .ok node.type ∧
      readTag members = .ok tag ∧ readGiven members tag.slotsByName = .ok given ∧
      complete given tag.layout = .ok values ∧ Kind.ofValues? tag values = some node.kind := by
  constructor
  · intro read
    simp only [ofMembers, bind_eq_ok_iff] at read
    obtain ⟨type, typed, tag, tagged, given, reads, values, completed, finish⟩ := read
    cases known : Kind.ofValues? tag values with
    | none => rw [known] at finish; cases finish
    | some kind =>
      rw [known] at finish
      cases finish
      exact ⟨tag, given, values, typed, tagged, reads, completed, known⟩
  · rintro ⟨tag, given, values, typed, tagged, reads, completed, known⟩
    obtain ⟨kind, type⟩ := node
    simp only [ofMembers, typed, tagged, reads, completed, known, bind, Except.bind]
    rfl

variable (node : Node)

theorem lookup_fields_eq_none (name : String) (absent : name ∉ node.tag.fieldNames) :
    node.kind.fields.lookup name = none := by
  rw [List.lookup_eq_none_iff]
  intro entry member
  have named : entry.1 ∈ node.tag.fieldNames := (List.of_mem_zip member).1
  rw [bne_iff_ne]
  rintro rfl
  exact absent named

theorem lookup_storedMembers (name : String) (other : name ≠ "type") :
    node.storedMembers.lookup name = ((node.kind.fields.lookup name).map storeField).or
      ((if node.type.isVoid then [] else [("pseudo_type", node.type.toData)]).lookup name) := by
  rw [storedMembers, List.lookup_append, List.lookup_cons, beq_eq_false_iff_ne.mpr other, lookup_map_snd]

theorem lookup_slot (slot : Slot) (listed : slot ∈ node.tag.layout) :
    node.storedMembers.lookup slot.name = some (storeField (node.kind.fieldAt slot)) := by
  have name : slot.name ∈ node.tag.fieldNames := List.mem_map_of_mem listed
  have other : slot.name ≠ "type" := fun same => node.tag.reserved_notMem_fieldNames.1 (same ▸ name)
  rw [lookup_storedMembers node _ other, (node.kind.exists_fieldAt slot listed).1]
  rfl

theorem lookup_pseudoType :
    node.storedMembers.lookup "pseudo_type" = if node.type.isVoid then none else some node.type.toData := by
  rw [lookup_storedMembers node _ (by decide), lookup_fields_eq_none node _ node.tag.reserved_notMem_fieldNames.2]
  split <;> rfl

theorem lookup_readMembers (members : List (String × Data)) (name : String) :
    (readMembers members).lookup name =
      (members.lookup name).map fun data => ⟨data, ofData data, ofList data⟩ := by
  rw [readMembers_eq, lookup_map_snd fun data => (⟨data, ofData data, ofList data⟩ : Reading)]

theorem readType_storedMembers (regular : node.type.Regular) :
    readType (readMembers node.storedMembers) = .ok node.type := by
  rw [readType, lookup_readMembers, lookup_pseudoType]
  cases void : node.type.isVoid with
  | true =>
    have same : node.type = .void := by simpa [SemType.isVoid] using void
    rw [same]
    rfl
  | false => exact SemType.ofData_toData node.type regular

theorem readTag_storedMembers : readTag (readMembers node.storedMembers) = .ok node.tag := by
  have found : (readMembers node.storedMembers).lookup "type" = some ⟨.text node.tag.name, _, _⟩ :=
    lookup_readMembers node.storedMembers "type"
  rw [readTag, found]
  dsimp only
  rw [Tag.ofName?_name]

/-- A node is read back from its record if its fields are kept and its children are read back. -/
theorem ofData_toData_of_children (regular : node.type.Regular) (storable : ∀ field ∈ node.kind.values, field.Storable)
    (children : ∀ child ∈ node.children, ofData child.toData = .ok child) : ofData node.toData = .ok node := by
  have given : readGiven (readMembers node.storedMembers) node.tag.slotsByName =
      .ok (node.tag.slotsByName.map fun slot => (slot.name, node.kind.fieldAt slot)) := by
    refine readGiven_eq _ _ _ fun slot sorted => ?_
    have listed := (node.tag.mem_slotsByName slot).mp sorted
    obtain ⟨_, fits, stored⟩ := node.kind.exists_fieldAt slot listed
    refine ⟨_, by rw [lookup_readMembers, lookup_slot node slot listed]; rfl, ?_⟩
    refine read_storeField slot.shape _ fits (storable _ stored) fun child member => ?_
    exact children child (Kind.members_subset_children node.kind _ stored child member)
  have completed : complete (node.tag.slotsByName.map fun slot => (slot.name, node.kind.fieldAt slot))
      node.tag.layout = .ok node.kind.values := by
    rw [complete_eq _ node.kind.fieldAt]
    · rw [tag, Kind.map_fieldAt]
    · intro slot listed
      refine lookup_map_of_mem Slot.name _ _ slot ((node.tag.mem_slotsByName slot).mpr listed) fun other _ same => ?_
      rw [Kind.fieldAt, Kind.fieldAt, same]
  rw [toData_eq, ofData]
  exact (ofMembers_eq_ok_iff _ _).mpr ⟨node.tag, _, _, readType_storedMembers node regular, readTag_storedMembers node,
    given, completed, Kind.ofValues?_values node.kind⟩

end Records

/-- Storable trees are read back as they were. -/
theorem ofData_toData (tree : Node) (storable : tree.Storable) : ofData tree.toData = .ok tree := by
  induction tree using induct with
  | h node ih =>
    obtain ⟨regular, fields, children⟩ := (storable_iff node).mp storable
    exact ofData_toData_of_children node regular fields fun child member => ih child member (children child member)

end Node
end Retarget
