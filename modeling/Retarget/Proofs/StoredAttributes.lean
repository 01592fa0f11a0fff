import Retarget.Proofs.StoredTrees
import Retarget.Tree.Build

/-! Stored attributes. The record that a node is stored as has a member for its tag, one for every attribute that
templates can ask for, and no others. What a template gets under a name is what is stored under it; only the type of a
node that yields no value is left out. -/
namespace Retarget

/-- What an attribute is stored as: children as they are stored by themselves, and null for what is unset and for
numbers that are not finite. -/
def Field.StoredAs : Field Node → Data → Prop
  | .node child, data => data = child.toData
  | .nodes children, data => data = .list (children.map Node.toData)
  | .text value, data => data = .text value
  | .int value, data => data = .int value
  | .float value, data => data = if value.isFinite then .float value else .null
  | .bool value, data => data = .bool value
  | .type value, data => data = value.toData
  | .absent, data => data = .null

namespace Node

theorem storedAs_storeField (field : Field Node) : field.StoredAs (storeField field) := by
  cases field <;> rfl

variable (node : Node)

/-- The keys of a record: the tag's, the fields' and, if there is a value, the type's. -/
theorem keys_storedMembers :
    node.storedMembers.map Prod.fst =
      "type" :: node.tag.fieldNames ++ if node.type.isVoid then [] else ["pseudo_type"] := by
  rw [storedMembers, tag, ← Kind.map_fst_fields]
  by_cases void : node.type.isVoid = true <;> simp [void]

theorem nodup_keys : (node.storedMembers.map Prod.fst).Nodup := by
  have distinct := node.tag.nodup_fieldNames
  obtain ⟨noTag, noType⟩ := node.tag.reserved_notMem_fieldNames
  rw [keys_storedMembers]
  by_cases void : node.type.isVoid = true
  · simp [void, distinct, noTag]
  · have apart (name : String) (member : name ∈ node.tag.fieldNames) : name ≠ "pseudo_type" := by
      rintro rfl
      exact noType member
    simpa [void, List.nodup_append, distinct, noTag] using apart

theorem attr?_isSome_iff (name : String) :
    (node.attr? name).isSome ↔ name = "pseudo_type" ∨ name ∈ node.tag.fieldNames := by
  rw [attr?_eq]
  by_cases own : name = "pseudo_type"
  · simp [own]
  · rw [if_neg own, Option.isSome_iff_exists]
    simp [own, Kind.lookup_fields_eq_some_iff, tag, ← Kind.map_fst_fields]

theorem mem_keys_iff (name : String) (other : name ≠ "type") :
    name ∈ node.storedMembers.map Prod.fst ↔
      name ∈ node.tag.fieldNames ∨ name = "pseudo_type" ∧ node.type.isVoid = false := by
  rw [keys_storedMembers]
  cases node.type.isVoid <;> simp [other]

theorem lookup_of_attr? (name : String) (other : name ≠ "type") (own : name ≠ "pseudo_type") (field : Field Node)
    (found : node.attr? name = some field) : node.storedMembers.lookup name = some (storeField field) := by
  rw [attr?_eq, if_neg own] at found
  rw [lookup_storedMembers node name other, found]
  rfl

/-- A node is stored as a record with distinct keys. Besides the tag, its keys are the names that the node answers as
attributes, and the member under a key is what the attribute is stored as. The type is answered also where it is left
out, and is `Void` then. -/
theorem attributes_name_stored_members :
    ∃ members, node.toData = .record members ∧ (members.map Prod.fst).Nodup ∧
      members.lookup "type" = some (.text node.tag.name) ∧
      ∀ name, name ≠ "type" →
        ((node.attr? name).isSome ↔ name = "pseudo_type" ∨ name ∈ members.map Prod.fst) ∧
        ∀ field, node.attr? name = some field → ∃ data, field.StoredAs data ∧
          (members.lookup name = some data ∨
            name = "pseudo_type" ∧ name ∉ members.map Prod.fst ∧ data = SemType.void.toData) := by
  refine ⟨node.storedMembers, toData_eq node, nodup_keys node, rfl, fun name other => ⟨?_, ?_⟩⟩
  · rw [attr?_isSome_iff, mem_keys_iff node name other]
    tauto
  · intro field found
    refine ⟨storeField field, storedAs_storeField field, ?_⟩
    by_cases own : name = "pseudo_type"
    · subst own
      have type : field = .type node.type := Option.some.inj (found.symm.trans (if_pos rfl))
      subst type
      rw [mem_keys_iff node _ other, lookup_pseudoType]
      by_cases void : node.type.isVoid = true
      · have same : node.type = .void := by simpa [SemType.isVoid] using void
        refine .inr ⟨rfl, ?_, congrArg SemType.toData same⟩
        simp [void, node.tag.reserved_notMem_fieldNames.2]
      · exact .inl (if_neg void)
    · exact .inl (lookup_of_attr? node name other own field found)

/-- An assigned value is stored under its name, and an assignment has no name of its own. -/
theorem assigned_value_is_stored :
    let node := assignment (localVar "egg" (.named "Int")) (int 4)
    "value" ≠ "type" ∧ "name" ≠ "type" ∧ ∃ members, node.toData = .record members ∧
      members.lookup "value" = some (int 4).toData ∧ "name" ∉ members.map Prod.fst := by
  intro node
  obtain ⟨members, stored, _, _, agree⟩ := node.attributes_name_stored_members
  refine ⟨by decide, by decide, members, stored, ?_, ?_⟩
  · obtain ⟨data, rfl, found | ⟨own, _⟩⟩ := (agree "value" (by decide)).2 (.node (int 4)) rfl
    · exact found
    · exact absurd own (by decide)
  · exact fun key => absurd ((agree "name" (by decide)).1.mpr (.inr key)) (by decide)

end Node
end Retarget
