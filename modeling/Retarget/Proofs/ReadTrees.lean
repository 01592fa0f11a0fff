import Mathlib.Data.List.Forall2
import Mathlib.Data.List.Nodup
import Mathlib.Tactic.CasesM
import Retarget.Proofs.FiniteNumbers
import Retarget.Proofs.StoredTrees

/-! Read trees. Whatever tree is read from JSON can be stored: its integers have 64 bits, its numbers are
finite and its types were read from descriptors. So a tree that was read once is read again from what it
is stored as. -/
namespace Retarget

/-- Values of JSON texts. A number is an integer of at most 64 bits, with a sign or without, or a finite double. -/
inductive Data.IsJson : Data → Prop
  | null : IsJson .null
  | bool (value : Bool) : IsJson (.bool value)
  | int (value : Int) (least : -2 ^ 63 ≤ value) (below : value < 2 ^ 64) : IsJson (.int value)
  | float (value : Float) (finite : value.isFinite = true) : IsJson (.float value)
  | text (value : String) : IsJson (.text value)
  | list (items : List Data) (each : ∀ item ∈ items, IsJson item) : IsJson (.list items)
  | record (members : List (String × Data)) (each : ∀ member ∈ members, IsJson member.2) : IsJson (.record members)

theorem Data.isJson_list_iff (items : List Data) : (Data.list items).IsJson ↔ ∀ item ∈ items, item.IsJson :=
  ⟨fun json => by cases json; assumption, .list items⟩

theorem Data.isJson_record_iff (members : List (String × Data)) :
    (Data.record members).IsJson ↔ ∀ member ∈ members, member.2.IsJson :=
  ⟨fun json => by cases json; assumption, .record members⟩

/-- Types are stored as JSON. -/
theorem SemType.isJson_toData (type : SemType) (regular : type.Regular) : type.toData.IsJson := by
  induction regular with
  | named name => exact .text name
  | container name args _ _ _ ih =>
    simp only [toData, allToData_eq, Data.isJson_list_iff, List.forall_mem_cons, List.forall_mem_map]
    exact ⟨.text name, ih⟩
  | fixedArray element size _ fits ih =>
    have below : size < 2 ^ 64 := fits
    have number : (Data.int size).IsJson := .int size (by omega) (by omega)
    simp [toData, Data.isJson_list_iff, Data.IsJson.text, ih, number]

namespace Shape

/-- What a shape admits, by the sorts of content. -/
def Admits : Shape → Field α → Prop
  | node, field => ∃ child, field = .node child
  | optionalNode, field => (∃ child, field = .node child) ∨ field = .absent
  | nodes, field | defaultedNodes, field => ∃ children, field = .nodes children
  | text, field => ∃ value, field = .text value
  | optionalText, field => (∃ value, field = .text value) ∨ field = .absent
  | int, field => ∃ value, field = .int value
  | float, field => ∃ value, field = .float value
  | flag, field | defaultedFlag, field => ∃ value, field = .bool value
  | type, field => ∃ value, field = .type value

theorem fits_iff (shape : Shape) (field : Field α) : shape.fits field = true ↔ shape.Admits field := by
  cases shape <;> cases field <;> simp [fits, Admits]

end Shape

/-- Fields that fit the layout of a tag are the fields of a kind. -/
theorem Kind.exists_ofValues? (tag : Tag) (values : List (Field α))
    (fits : List.Forall₂ (fun slot field => slot.shape.fits field = true) tag.layout values) :
    ∃ kind, Kind.ofValues? tag values = some kind ∧ kind.values = values := by
  cases tag
  all_goals
    simp only [Tag.layout, List.forall₂_cons_left_iff, List.forall₂_nil_left_iff, Shape.fits_iff, Shape.Admits] at fits
    try casesm* _ ∧ _, ∃ _, _, _ ∨ _
    all_goals
      subst_vars
      exact ⟨_, rfl, rfl⟩

/-- Every child of a kind stands in one of its fields. -/
theorem Kind.exists_mem_of_mem_children (kind : Kind α) (child : α) (member : child ∈ kind.children) :
    ∃ field ∈ kind.values, child ∈ field.members := by
  have node (other : α) : (Field.node other).members = [other] := rfl
  have nodes (others : List α) : (Field.nodes others).members = others := rfl
  cases kind <;>
    simp [Kind.children, -Option.mem_toList] at member <;>
    simp [Kind.values, node, nodes, Field.members_ofNode?, Field.members_ofText?, -Option.mem_toList] <;>
    grind

/-- A field with content that is kept, its children included. -/
def Field.Kept (field : Field Node) : Prop := field.Storable ∧ ∀ child ∈ field.members, child.Storable

theorem Node.storable_of_kept (node : Node) (regular : node.type.Regular)
    (kept : ∀ field ∈ node.kind.values, field.Kept) : node.Storable := by
  refine (storable_iff node).mpr ⟨regular, fun field stored => (kept field stored).1, fun child member => ?_⟩
  obtain ⟨field, stored, inner⟩ := Kind.exists_mem_of_mem_children node.kind child member
  exact (kept field stored).2 child inner

/-- Readings of JSON values whose trees can be stored. -/
structure Reading.Sound (reading : Reading) : Prop where
  json : reading.data.IsJson
  node : ∀ node, reading.node = .ok node → node.Storable
  nodes : ∀ nodes, reading.nodes = .ok nodes → ∀ node ∈ nodes, node.Storable

namespace Shape

theorem default_kept (shape : Shape) (field : Field Node) (given : shape.default? = some field) :
    shape.fits field = true ∧ field.Kept := by
  cases shape <;> cases given
  all_goals
    refine ⟨rfl, ?_, fun child member => by cases member⟩
    first | trivial | exact .named _

theorem isWordInteger_of_readInt (data : Data) (value : Int) (read : readInt data = .ok value) :
    isWordInteger value = true := by
  cases data with
  | int stored =>
    rw [readInt] at read
    split at read
    · rename_i word
      cases read
      exact word
    · cases read
  | _ => cases read

/-- What is read for a slot fits it and can be stored. -/
theorem read_kept (shape : Shape) (reading : Reading) (sound : reading.Sound) (field : Field Node)
    (read : shape.read reading = .ok field) : shape.fits field = true ∧ field.Kept := by
  obtain ⟨data, node, nodes⟩ := reading
  obtain ⟨json, goodNode, goodNodes⟩ := sound
  dsimp only at json goodNode goodNodes
  have asNode (read : Field.node <$> node = .ok field) : ∃ child, field = .node child ∧ field.Kept := by
    obtain ⟨child, found, rfl⟩ := (map_eq_ok_iff _ _ _).mp read
    exact ⟨child, rfl, trivial, by simpa [Field.members] using goodNode child found⟩
  have asNodes (read : Field.nodes <$> nodes = .ok field) : ∃ children, field = .nodes children ∧ field.Kept := by
    obtain ⟨children, found, rfl⟩ := (map_eq_ok_iff _ _ _).mp read
    exact ⟨children, rfl, trivial, goodNodes children found⟩
  cases shape with
  | node =>
    obtain ⟨child, rfl, kept⟩ := asNode read
    exact ⟨rfl, kept⟩
  | nodes =>
    obtain ⟨children, rfl, kept⟩ := asNodes read
    exact ⟨rfl, kept⟩
  | defaultedNodes =>
    obtain ⟨children, rfl, kept⟩ := asNodes read
    exact ⟨rfl, kept⟩
  | optionalNode =>
    cases json with
    | null =>
      cases read
      exact ⟨rfl, trivial, by simp [Field.members]⟩
    | _ =>
      obtain ⟨child, rfl, kept⟩ := asNode read
      exact ⟨rfl, kept⟩
  | type =>
    obtain ⟨type, found, rfl⟩ := (map_eq_ok_iff _ _ _).mp read
    exact ⟨rfl, (SemType.regular_of_ofData _ _ found).1, by simp [Field.members]⟩
  | int =>
    obtain ⟨value, found, rfl⟩ := (map_eq_ok_iff _ _ _).mp read
    exact ⟨rfl, isWordInteger_of_readInt _ _ found, by simp [Field.members]⟩
  | float =>
    cases json with
    | int value least below =>
      cases read
      exact ⟨rfl, Floating.isFinite_ofInt value (by omega), by simp [Field.members]⟩
    | float value finite =>
      cases read
      exact ⟨rfl, finite, by simp [Field.members]⟩
    | _ => cases read
  | _ =>
    cases json <;> cases read <;> exact ⟨rfl, trivial, by simp [Field.members]⟩

end Shape

namespace Node

/-- A given field was read for a slot of its name. -/
theorem exists_slot_of_mem_given (members : List (String × Reading)) (slots : List Slot)
    (given : List (String × Field Node)) (reads : readGiven members slots = .ok given) :
    ∀ entry ∈ given, ∃ slot ∈ slots, slot.name = entry.1 ∧
      ∃ reading, members.lookup slot.name = some reading ∧ slot.shape.read reading = .ok entry.2 := by
  induction slots generalizing given with
  | nil =>
    cases reads
    intro entry member
    cases member
  | cons slot rest ih =>
    rw [readGiven] at reads
    intro entry member
    cases found : members.lookup slot.name with
    | none =>
      rw [found] at reads
      obtain ⟨other, later, rest⟩ := ih given reads entry member
      exact ⟨other, List.mem_cons_of_mem _ later, rest⟩
    | some reading =>
      simp only [found, bind_eq_ok_iff] at reads
      obtain ⟨field, read, others, remaining, result⟩ := reads
      cases result
      rcases List.mem_cons.mp member with rfl | member
      · exact ⟨slot, List.mem_cons_self, rfl, reading, found, read⟩
      · obtain ⟨other, later, rest⟩ := ih others remaining entry member
        exact ⟨other, List.mem_cons_of_mem _ later, rest⟩

/-- Every completed field was given under the name of its slot or is the default there. -/
theorem forall₂_of_complete (P : Slot → Field Node → Prop) (given : List (String × Field Node)) (slots : List Slot)
    (values : List (Field Node)) (completed : complete given slots = .ok values)
    (holds : ∀ slot ∈ slots, ∀ value,
      given.lookup slot.name = some value ∨ slot.shape.default? = some value → P slot value) :
    List.Forall₂ P slots values := by
  induction slots generalizing values with
  | nil =>
    cases completed
    exact .nil
  | cons slot rest ih =>
    simp only [List.forall_mem_cons] at holds
    rw [complete] at completed
    split at completed
    · rename_i found
      obtain ⟨others, remaining, result⟩ := (bind_eq_ok_iff _ _ _).mp completed
      cases result
      exact .cons (holds.1 _ (.inl found)) (ih others remaining holds.2)
    · rename_i preset
      obtain ⟨others, remaining, result⟩ := (bind_eq_ok_iff _ _ _).mp completed
      cases result
      exact .cons (holds.1 _ (.inr preset)) (ih others remaining holds.2)
    · cases completed

theorem regular_of_readType (members : List (String × Reading)) (type : SemType) (read : readType members = .ok type) :
    type.Regular := by
  rw [readType] at read
  split at read
  · cases read
    exact .named _
  · exact (SemType.regular_of_ofData _ _ read).1

theorem storable_of_ofItems (items : List Data) (each : ∀ item ∈ items, ∀ node, ofData item = .ok node → node.Storable)
    (nodes : List Node) (read : ofItems items = .ok nodes) : ∀ node ∈ nodes, node.Storable := by
  induction items generalizing nodes with
  | nil =>
    cases read
    simp
  | cons item rest ih =>
    simp only [ofItems, bind_eq_ok_iff] at read
    obtain ⟨node, first, others, later, result⟩ := read
    cases result
    simp only [List.forall_mem_cons] at each ⊢
    exact ⟨each.1 node first, ih each.2 others later⟩

/-- What is read from sound members can be stored. -/
theorem storable_of_ofMembers (members : List (String × Reading)) (sound : ∀ member ∈ members, member.2.Sound)
    (node : Node) (read : ofMembers members = .ok node) : node.Storable := by
  obtain ⟨tag, given, values, typed, _, reads, completed, known⟩ := (ofMembers_eq_ok_iff _ _).mp read
  have filled : List.Forall₂ (fun slot field => slot.shape.fits field = true ∧ field.Kept) tag.layout values := by
    refine forall₂_of_complete _ given tag.layout values completed fun slot listed value source => ?_
    rcases source with found | preset
    · obtain ⟨other, sorted, name, reading, stored, read⟩ :=
        exists_slot_of_mem_given members _ given reads _ (mem_of_lookup _ _ _ found)
      have same : other = slot :=
        List.inj_on_of_nodup_map tag.nodup_fieldNames ((tag.mem_slotsByName other).mp sorted) listed name
      subst same
      exact Shape.read_kept _ reading (sound _ (mem_of_lookup _ _ _ stored)) value read
    · exact Shape.default_kept slot.shape value preset
  obtain ⟨kind, same, fields⟩ := Kind.exists_ofValues? tag values (filled.imp fun _ _ both => both.1)
  cases known.symm.trans same
  have kept := ((List.forall₂_and_left _ _).mp (filled.flip.imp fun _ _ both => ⟨both.2, both.1⟩)).1
  exact storable_of_kept node (regular_of_readType members node.type typed) (fields ▸ kept)

theorem storable_of_ofData (data : Data) (json : data.IsJson) :
    (∀ node, ofData data = .ok node → node.Storable) ∧
      ∀ nodes, ofList data = .ok nodes → ∀ node ∈ nodes, node.Storable := by
  induction json with
  | list items each ih =>
    refine ⟨fun node read => (by cases read), fun nodes read => ?_⟩
    exact storable_of_ofItems items (fun item member => (ih item member).1) nodes read
  | record members each ih =>
    refine ⟨fun node read => ?_, fun nodes read => (by cases read)⟩
    refine storable_of_ofMembers (readMembers members) ?_ node read
    simp only [readMembers_eq, List.forall_mem_map]
    exact fun member listed => ⟨each member listed, (ih member listed).1, (ih member listed).2⟩
  | _ => exact ⟨fun node read => (by cases read), fun nodes read => (by cases read)⟩

theorem isJson_storeField (field : Field Node) (storable : field.Storable)
    (children : ∀ child ∈ field.members, child.toData.IsJson) : (storeField field).IsJson := by
  cases field with
  | node child => exact children child List.mem_cons_self
  | nodes nodes =>
    simpa [storeField, Field.map, Field.encode, Data.isJson_list_iff, Field.members] using children
  | text value => exact .text value
  | int value =>
    have word : isWordInteger value = true := storable
    simp only [isWordInteger, Bool.and_eq_true, decide_eq_true_eq] at word
    exact .int value (by omega) (by omega)
  | float value =>
    have written : storeField (.float value) = .float value := if_pos storable
    exact written ▸ .float value storable
  | bool value => exact .bool value
  | type value => exact SemType.isJson_toData value storable
  | absent => exact .null

/-- Storable trees are stored as JSON. -/
theorem isJson_toData (tree : Node) (storable : tree.Storable) : tree.toData.IsJson := by
  induction tree using induct with
  | h node ih =>
    obtain ⟨regular, fields, children⟩ := (storable_iff node).mp storable
    rw [toData_eq]
    refine .record _ fun member listed => ?_
    rw [storedMembers, List.mem_append, List.mem_cons, List.mem_map] at listed
    rcases listed with (rfl | ⟨⟨name, field⟩, among, rfl⟩) | typed
    · exact .text _
    · have stored : field ∈ node.kind.values := (List.of_mem_zip among).2
      refine isJson_storeField field (fields field stored) fun child inner => ?_
      have member := Kind.members_subset_children node.kind field stored child inner
      exact ih child member (children child member)
    · split at typed
      · cases typed
      · rw [List.mem_singleton.mp typed]
        exact SemType.isJson_toData node.type regular

/-- A storable tree is stored as the JSON record of its members and read back from it. So is every tree that
was read from JSON, whatever spelling it was read from. -/
theorem stored_trees_read_back :
    (∀ tree : Node, tree.Storable →
      tree.toData = .record tree.storedMembers ∧ tree.toData.IsJson ∧ ofData tree.toData = .ok tree) ∧
      ∀ value : Data, value.IsJson → ∀ tree, ofData value = .ok tree → ofData tree.toData = .ok tree := by
  refine ⟨fun tree storable => ?_, fun value json tree read => ?_⟩
  · exact ⟨toData_eq tree, isJson_toData tree storable, ofData_toData tree storable⟩
  · exact ofData_toData tree ((storable_of_ofData value json).1 tree read)

/-- A conditional under its other name. Its body assigns a whole number as a float, without a word on first
mention or types; its test is a local of a function type. -/
def spelledByHand : Data :=
  .record [("block", .list [.record [("value", .record [("value", .int 3), ("type", .text "float")]),
      ("target", .record [("type", .text "local"), ("name", .text "x")]), ("type", .text "assignment")]]),
    ("type", .text "elseif_statement"), ("otherwise", .null),
    ("test", .record [("type", .text "local"), ("name", .text "ready"),
      ("pseudo_type", .list [.text "Function", .list [.text "List", .text "Int"], .text "Boolean"])])]

theorem spelledByHand_reads_back :
    spelledByHand.IsJson ∧ ∃ tree, ofData spelledByHand = .ok tree ∧ tree.tag = .elseIfStatement ∧ tree.Storable ∧
      tree.toData = .record tree.storedMembers ∧ ofData tree.toData = .ok tree := by
  have three : (Data.int 3).IsJson := .int 3 (by decide) (by decide)
  have json : spelledByHand.IsJson := by
    simp [spelledByHand, Data.isJson_record_iff, Data.isJson_list_iff, Data.IsJson.text, Data.IsJson.null, three]
  have read : ∃ tree, ofData spelledByHand = .ok tree ∧ tree.tag = .elseIfStatement := ⟨_, rfl, rfl⟩
  obtain ⟨tree, read, tagged⟩ := read
  have storable := (storable_of_ofData _ json).1 tree read
  exact ⟨json, tree, read, tagged, storable, (stored_trees_read_back.1 tree storable).1,
    stored_trees_read_back.2 _ json tree read⟩

end Node

end Retarget
