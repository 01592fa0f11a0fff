import Retarget.Tree.Encode

/-! Reading serialized trees. The node's own type is read first, then its tag, then the fields that
are given, by name; only then is a field missed. -/
namespace Retarget

namespace Tag

def insertByName (slot : Slot) : List Slot → List Slot
  | [] => [slot]
  | other :: rest =>
    if slot.name ≤ other.name then slot :: other :: rest else other :: insertByName slot rest

/-- The slots of a tag by name, the order in which given fields are read. -/
def slotsByName (tag : Tag) : List Slot := tag.layout.foldr insertByName []

end Tag

/-- A serialized value beside what it gives as a node and as a list of nodes. -/
structure Reading where
  data : Data
  node : Except DecodeError Node
  nodes : Except DecodeError (List Node)

namespace Shape

def readInt : Data → Except DecodeError Int
  | .int value => if isWordInteger value then .ok value else .error .badValue
  | _ => .error .wrongSort

/-- The field that a value gives in a slot of this shape. Only optional fields take `null`. -/
def read (shape : Shape) (reading : Reading) : Except DecodeError (Field Node) :=
  match shape, reading.data with
  | .node, _ => .node <$> reading.node
  | .optionalNode, .null => .ok .absent
  | .optionalNode, _ => .node <$> reading.node
  | .nodes, _ => .nodes <$> reading.nodes
  | .defaultedNodes, _ => .nodes <$> reading.nodes
  | .text, .text value => .ok (.text value)
  | .optionalText, .text value => .ok (.text value)
  | .optionalText, .null => .ok .absent
  | .int, data => .int <$> readInt data
  | .float, .float value => .ok (.float value)
  | .float, .int value => .ok (.float (.ofInt value))
  | .flag, .bool value => .ok (.bool value)
  | .defaultedFlag, .bool value => .ok (.bool value)
  | .type, data => .type <$> SemType.ofData data
  | _, _ => .error .wrongSort

end Shape

namespace Node

/-- The given fields among the slots, in the order of the slots. -/
def readGiven (members : List (String × Reading)) :
    List Slot → Except DecodeError (List (String × Field Node))
  | [] => .ok []
  | slot :: rest =>
    match members.lookup slot.name with
    | none => readGiven members rest
    | some reading => do
      let field ← slot.shape.read reading
      return (slot.name, field) :: (← readGiven members rest)

/-- The fields of a layout: the given ones, the rest by default. -/
def complete (given : List (String × Field Node)) :
    List Slot → Except DecodeError (List (Field Node))
  | [] => .ok []
  | slot :: rest =>
    match given.lookup slot.name, slot.shape.default? with
    | some field, _ => do return field :: (← complete given rest)
    | none, some field => do return field :: (← complete given rest)
    | none, none => .error (.missingField slot.name)

/-- The type that is given, `Void` if none is. -/
def readType (members : List (String × Reading)) : Except DecodeError SemType :=
  match members.lookup "pseudo_type" with
  | none => .ok .void
  | some reading => SemType.ofData reading.data

def readTag (members : List (String × Reading)) : Except DecodeError Tag :=
  match members.lookup "type" with
  | none => .error (.missingField "type")
  | some reading =>
    match reading.data with
    | .text name =>
      match Tag.ofName? name with
      | some tag => .ok tag
      | none => .error (.unknownVariant name)
    | _ => .error .wrongSort

/-- The node that the members of a record describe. -/
def ofMembers (members : List (String × Reading)) : Except DecodeError Node := do
  let type ← readType members
  let tag ← readTag members
  let given ← readGiven members tag.slotsByName
  let values ← complete given tag.layout
  match Kind.ofValues? tag values with
  | some kind => return ⟨kind, type⟩
  | none => throw .wrongSort

mutual
/-- Reads a tree. -/
def ofData : Data → Except DecodeError Node
  | .record members => ofMembers (readMembers members)
  | _ => .error .wrongSort
/-- Reads a list of trees, up to the first that fails. -/
def ofItems : List Data → Except DecodeError (List Node)
  | [] => .ok []
  | item :: rest => do return (← ofData item) :: (← ofItems rest)
def ofList : Data → Except DecodeError (List Node)
  | .list items => ofItems items
  | _ => .error .wrongSort
def readMembers : List (String × Data) → List (String × Reading)
  | [] => []
  | (name, data) :: rest => (name, ⟨data, ofData data, ofList data⟩) :: readMembers rest
end

end Node
end Retarget
