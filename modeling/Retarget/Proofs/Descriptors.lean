import Mathlib
import Retarget.SemType.Descriptor

/-! Descriptors. Which values describe a type is said here without the reader: a name, an array of an
element type and a size, or a container whose components fit its name. `ofData_eq_ok_iff` says that a
type is read from its own serialized form and from no other value, provided that its containers have
fitting counts at every level. -/
namespace Retarget.SemType

/-- The component counts that go with a container name. -/
def CountFits (name : String) (count : Nat) : Prop :=
  if name = "List" ∨ name = "Set" then count = 1
  else if name = "Dictionary" then count = 2
  else if name = "Tuple" then 2 ≤ count
  else 1 ≤ count

/-- Values that describe a type. -/
inductive Describes : Data → Prop where
  | name (name : String) : Describes (.text name)
  | array (element : Data) (size : Nat) : Describes element → size < sizeBound →
      Describes (.list [.text "Array", element, .int size])
  | container (name : String) (items : List Data) : name ≠ "Array" → CountFits name items.length →
      (∀ item ∈ items, Describes item) → Describes (.list (.text name :: items))

/-- Types whose containers have fitting counts at every level, and sizes that can be written. -/
inductive Regular : SemType → Prop where
  | named (name : String) : Regular (.named name)
  | container (name : String) (args : List SemType) : name ≠ "Array" → CountFits name args.length →
      (∀ arg ∈ args, Regular arg) → Regular (.container name args)
  | fixedArray (element : SemType) (size : Nat) : Regular element → size < sizeBound →
      Regular (.fixedArray element size)

theorem admits_iff (name : String) (count : Nat) :
    (Arity.ofContainer name).admits count = true ↔ name ≠ "Array" ∧ CountFits name count := by
  rw [Arity.ofContainer, CountFits]
  split
  · rename_i single
    have other : name ≠ "Array" := by rintro rfl; revert single; decide
    simp [Arity.admits, other]
  split
  · rename_i pair
    simp [Arity.admits, pair]
  split
  · rename_i tuple
    simp [Arity.admits, tuple]
  split
  · rename_i array
    simp [Arity.admits, array]
  · rename_i other
    simp [Arity.admits, other]

theorem container?_eq_ok_iff (name : String) (args : List SemType) (type : SemType) :
    container? name args = .ok type ↔
      name ≠ "Array" ∧ CountFits name args.length ∧ type = .container name args := by
  rw [container?, ← and_assoc, ← admits_iff]
  split
  · rename_i admitted
    simp only [admitted, true_and, Except.ok.injEq]
    exact eq_comm
  · rename_i refused
    simp [refused]

theorem allToData_eq (types : List SemType) : allToData types = types.map toData := by
  induction types with
  | nil => rfl
  | cons type rest ih => rw [allToData, ih, List.map_cons]

namespace Component

/-- An element of a descriptor list, written as it is read. -/
def toData : Component → Data
  | size value => .int value
  | type value => value.toData

/-- What a component has to be for its written form to read back. -/
def Regular : Component → Prop
  | size value => value < sizeBound
  | type value => value.Regular

end Component

section Reading

theorem readSize?_eq_some_iff (item : Data) (size : Nat) :
    readSize? item = some size ↔ item = .int size ∧ size < sizeBound := by
  cases item with
  | int value =>
    rw [readSize?]
    split
    · rename_i fits
      simp only [Option.some.injEq, Data.int.injEq]
      omega
    · rename_i outside
      simp only [reduceCtorEq, Data.int.injEq, false_iff, not_and]
      omega
  | _ => simp [readSize?]

/-- No type is written as a size is. -/
theorem readSize?_toData (type : SemType) : readSize? type.toData = none := by
  cases type <;> rfl

theorem typesOf_map_type (container : String) (types : List SemType) :
    typesOf container (types.map .type) = .ok types := by
  induction types with
  | nil => rfl
  | cons type rest ih => rw [List.map_cons, typesOf, ih]; rfl

theorem eq_map_type_of_typesOf (container : String) (components : List Component) (types : List SemType)
    (read : typesOf container components = .ok types) : components = types.map .type := by
  induction components generalizing types with
  | nil => cases read; rfl
  | cons component rest ih =>
    cases component with
    | size value => cases read
    | type value =>
      rw [typesOf] at read
      cases others : typesOf container rest with
      | error cause => rw [others] at read; cases read
      | ok found =>
        rw [others] at read
        cases read
        rw [ih found others, List.map_cons]

/-- A descriptor has the elements of a fixed array, or the name of a container and fitting types. -/
theorem ofComponents_cases (components : List Component) (type : SemType)
    (read : ofComponents components = .ok type) :
    (∃ element size, components = [.type (.named "Array"), .type element, .size size] ∧
        type = .fixedArray element size) ∨
      ∃ name args, components = .type (.named name) :: args.map .type ∧
        name ≠ "Array" ∧ CountFits name args.length ∧ type = .container name args := by
  rw [ofComponents.eq_def] at read
  split at read
  · rename_i name rest
    split at read
    · rename_i array
      split at read
      · rename_i element size
        cases read
        exact .inl ⟨element, size, by rw [array], rfl⟩
      · cases read
    · cases types : typesOf name rest with
      | error cause => rw [types] at read; cases read
      | ok args =>
        rw [types] at read
        have fits := (container?_eq_ok_iff name args type).mp read
        exact .inr ⟨name, args, by rw [eq_map_type_of_typesOf name rest args types], fits⟩
  · cases read

theorem componentsOf_cons_cases (item : Data) (rest : List Data) (components : List Component)
    (read : componentsOf (item :: rest) = some components) :
    ∃ component others, components = component :: others ∧ componentsOf rest = some others ∧
      ((∃ size, component = .size size ∧ size < sizeBound ∧ item = .int size) ∨
        ∃ type, component = .type type ∧ ofData item = .ok type) := by
  rw [componentsOf] at read
  split at read
  · rename_i size sized
    rw [Option.bind_eq_bind, Option.bind_some] at read
    obtain ⟨others, tail, same⟩ := Option.bind_eq_some_iff.mp read
    cases same
    have whole := (readSize?_eq_some_iff item size).mp sized
    exact ⟨_, others, rfl, tail, .inl ⟨size, rfl, whole.2, whole.1⟩⟩
  · obtain ⟨component, typed, read⟩ := Option.bind_eq_some_iff.mp read
    obtain ⟨others, tail, same⟩ := Option.bind_eq_some_iff.mp read
    obtain ⟨type, inner, rfl⟩ := Option.map_eq_some_iff.mp typed
    cases same
    refine ⟨_, others, rfl, tail, .inr ⟨type, rfl, ?_⟩⟩
    cases outcome : ofData item with
    | error cause => rw [outcome] at inner; cases inner
    | ok found => rw [outcome] at inner; cases inner; rfl

theorem ofData_list (items : List Data) (components : List Component) (found : componentsOf items = some components)
    (type : SemType) : ofData (.list items) = .ok type ↔ ofComponents components = .ok type := by
  rw [ofData, found]
  dsimp only
  cases ofComponents components <;> simp [Except.mapError]

mutual
/-- What is read as a type is the serialized form of that type, which keeps its counts. -/
theorem regular_of_ofData (value : Data) (type : SemType) (read : ofData value = .ok type) :
    type.Regular ∧ value = type.toData := by
  match value with
  | .text name =>
    rw [ofData] at read
    cases read
    exact ⟨.named name, rfl⟩
  | .list items =>
    cases found : componentsOf items with
    | none => rw [ofData, found] at read; cases read
    | some components =>
      obtain ⟨regular, written⟩ := regular_of_componentsOf items components found
      rcases ofComponents_cases components type ((ofData_list items components found type).mp read) with
        ⟨element, size, rfl, rfl⟩ | ⟨name, args, rfl, other, fits, rfl⟩
      · simp only [List.forall_mem_cons, Component.Regular] at regular
        exact ⟨.fixedArray element size regular.2.1 regular.2.2.1, by rw [written]; rfl⟩
      · rw [List.forall_mem_cons, List.forall_mem_map] at regular
        refine ⟨.container name args other fits regular.2, ?_⟩
        rw [written, toData, allToData_eq, List.map_cons, List.map_map]
        rfl
  | .null | .bool _ | .int _ | .float _ | .record _ => rw [ofData] at read <;> cases read
theorem regular_of_componentsOf (items : List Data) (components : List Component)
    (read : componentsOf items = some components) :
    (∀ component ∈ components, component.Regular) ∧ items = components.map Component.toData := by
  match items with
  | [] =>
    rw [componentsOf] at read
    cases read
    exact ⟨List.forall_mem_nil _, rfl⟩
  | item :: rest =>
    obtain ⟨component, others, rfl, tail, shape⟩ := componentsOf_cons_cases item rest components read
    obtain ⟨regular, written⟩ := regular_of_componentsOf rest others tail
    rw [List.forall_mem_cons, List.map_cons, ← written]
    rcases shape with ⟨size, rfl, fits, rfl⟩ | ⟨type, rfl, inner⟩
    · exact ⟨⟨fits, regular⟩, rfl⟩
    · obtain ⟨kept, same⟩ := regular_of_ofData item type inner
      exact ⟨⟨kept, regular⟩, by rw [same]; rfl⟩
end

theorem componentsOf_cons_size (size : Nat) (fits : size < sizeBound) (rest : List Data) (others : List Component)
    (tail : componentsOf rest = some others) : componentsOf (.int size :: rest) = some (.size size :: others) := by
  have sized := (readSize?_eq_some_iff (.int size) size).mpr ⟨rfl, fits⟩
  rw [componentsOf, sized, tail]
  rfl

theorem componentsOf_cons_type (type : SemType) (read : ofData type.toData = .ok type) (rest : List Data)
    (others : List Component) (tail : componentsOf rest = some others) :
    componentsOf (type.toData :: rest) = some (.type type :: others) := by
  rw [componentsOf, readSize?_toData, read, tail]
  rfl

theorem componentsOf_map_toData (types : List SemType) (reads : ∀ type ∈ types, ofData type.toData = .ok type) :
    componentsOf (types.map toData) = some (types.map .type) := by
  induction types with
  | nil => rfl
  | cons type rest ih =>
    rw [List.forall_mem_cons] at reads
    exact componentsOf_cons_type type reads.1 _ _ (ih reads.2)

theorem ofData_toData (type : SemType) (regular : type.Regular) : ofData type.toData = .ok type := by
  induction regular with
  | named name => rfl
  | fixedArray element size _ fits ih =>
    have components := componentsOf_cons_type (.named "Array") rfl _ _
      (componentsOf_cons_type element ih _ _ (componentsOf_cons_size size fits [] [] rfl))
    exact (ofData_list _ _ components _).mpr rfl
  | container name args other fits _ ih =>
    have components := componentsOf_cons_type (.named name) rfl _ _ (componentsOf_map_toData args ih)
    rw [toData, allToData_eq]
    refine (ofData_list _ _ components _).mpr ?_
    rw [ofComponents.eq_def]
    dsimp only
    rw [if_neg other, typesOf_map_type]
    exact (container?_eq_ok_iff name args _).mpr ⟨other, fits, rfl⟩

/-- A type is read from its own serialized form, and from no other value. -/
theorem ofData_eq_ok_iff (value : Data) (type : SemType) :
    ofData value = .ok type ↔ type.Regular ∧ value = type.toData := by
  constructor
  · exact regular_of_ofData value type
  · rintro ⟨regular, rfl⟩
    exact ofData_toData type regular

end Reading

theorem describes_toData (type : SemType) (regular : type.Regular) : Describes type.toData := by
  induction regular with
  | named name => exact .name name
  | fixedArray element size _ fits ih => exact .array element.toData size ih fits
  | container name args other fits _ ih =>
    rw [toData, allToData_eq]
    refine .container name _ other (by rwa [List.length_map]) ?_
    rwa [List.forall_mem_map]

theorem exists_regular_types (items : List Data)
    (each : ∀ item ∈ items, ∃ type : SemType, type.Regular ∧ item = type.toData) :
    ∃ types : List SemType, (∀ type ∈ types, type.Regular) ∧ items = types.map toData := by
  induction items with
  | nil => exact ⟨[], List.forall_mem_nil _, rfl⟩
  | cons item rest ih =>
    rw [List.forall_mem_cons] at each
    obtain ⟨type, regular, rfl⟩ := each.1
    obtain ⟨types, others, rfl⟩ := ih each.2
    exact ⟨type :: types, List.forall_mem_cons.mpr ⟨regular, others⟩, rfl⟩

theorem exists_regular_of_describes (value : Data) (describes : Describes value) :
    ∃ type : SemType, type.Regular ∧ value = type.toData := by
  induction describes with
  | name name => exact ⟨.named name, .named name, rfl⟩
  | array item size _ fits ih =>
    obtain ⟨element, regular, rfl⟩ := ih
    exact ⟨.fixedArray element size, .fixedArray element size regular fits, rfl⟩
  | container name items other fits _ ih =>
    obtain ⟨args, regular, rfl⟩ := exists_regular_types items ih
    rw [List.length_map] at fits
    exact ⟨.container name args, .container name args other fits regular, by rw [toData, allToData_eq]⟩

/-- The types that can be had: read from a value, or built from such types. -/
inductive Obtained : SemType → Prop where
  | read (value : Data) (type : SemType) : ofData value = .ok type → Obtained type
  | container (name : String) (args : List SemType) (type : SemType) : (∀ arg ∈ args, Obtained arg) →
      container? name args = .ok type → Obtained type
  | tuple (items : List SemType) (type : SemType) : (∀ item ∈ items, Obtained item) →
      tuple? items = .ok type → Obtained type
  | list (element : SemType) : Obtained element → Obtained (list element)
  | set (element : SemType) : Obtained element → Obtained (set element)
  | dictionary (key value : SemType) : Obtained key → Obtained value → Obtained (dictionary key value)
  | function (params : List SemType) (result : SemType) : (∀ param ∈ params, Obtained param) →
      Obtained result → Obtained (function params result)
  | fixedArray (element : SemType) (size : Nat) : Obtained element → size < sizeBound →
      Obtained (.fixedArray element size)

theorem regular_of_container? (name : String) (args : List SemType) (type : SemType)
    (regular : ∀ arg ∈ args, arg.Regular) (built : container? name args = .ok type) : type.Regular := by
  obtain ⟨other, fits, rfl⟩ := (container?_eq_ok_iff name args type).mp built
  exact .container name args other fits regular

theorem Obtained.regular {type : SemType} (obtained : Obtained type) : type.Regular := by
  induction obtained with
  | read value type read => exact (regular_of_ofData value type read).1
  | container name args type _ built ih => exact regular_of_container? name args type ih built
  | tuple items type _ built ih => exact regular_of_container? "Tuple" items type ih built
  | list element _ ih => exact .container "List" [element] (by decide) rfl (by simpa using ih)
  | set element _ ih => exact .container "Set" [element] (by decide) rfl (by simpa using ih)
  | dictionary key value _ _ ihKey ihValue =>
    exact .container "Dictionary" [key, value] (by decide) rfl (by simpa using ⟨ihKey, ihValue⟩)
  | function params result _ _ ihParams ihResult =>
    refine .container "Function" (params ++ [result]) (by decide) ?_ ?_
    · simp [CountFits]
    · rw [List.forall_mem_append, List.forall_mem_singleton]
      exact ⟨ihParams, ihResult⟩
  | fixedArray element size _ fits ih => exact .fixedArray element size ih fits

/-- A value is read as a type exactly if it describes one. A type that is read or built has fitting
counts at every level, and its serialized form reads back as the same type. -/
theorem reads_exactly_descriptors :
    (∀ value, (∃ type, ofData value = .ok type) ↔ Describes value) ∧
      ∀ type, Obtained type → type.Regular ∧ ofData type.toData = .ok type := by
  refine ⟨fun value => ⟨?_, fun describes => ?_⟩, fun type obtained => ?_⟩
  · rintro ⟨type, read⟩
    obtain ⟨regular, rfl⟩ := (ofData_eq_ok_iff value type).mp read
    exact describes_toData type regular
  · obtain ⟨type, regular, rfl⟩ := exists_regular_of_describes value describes
    exact ⟨type, ofData_toData type regular⟩
  · exact ⟨obtained.regular, ofData_toData type obtained.regular⟩

/-- A dictionary whose values are arrays of lists, the array read from a descriptor. -/
theorem nested_descriptor_reads_back :
    ∃ array, ofData (.list [.text "Array", .list [.text "List", .text "Int"], .int 4]) = .ok array ∧
      (dictionary (.named "String") array).Regular ∧
      ofData (dictionary (.named "String") array).toData = .ok (dictionary (.named "String") array) := by
  have inner : ofData (.list [.text "Array", .list [.text "List", .text "Int"], .int 4]) =
      .ok (.fixedArray (list (.named "Int")) 4) := by rfl
  have key : Obtained (.named "String") := .read (.text "String") _ rfl
  exact ⟨_, inner, reads_exactly_descriptors.2 _ (.dictionary _ _ key (.read _ _ inner))⟩

end Retarget.SemType
