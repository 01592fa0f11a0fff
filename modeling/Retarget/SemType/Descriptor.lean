import Retarget.Data
import Retarget.SemType

/-! The serialized form of types: a bare name, or a descriptor list that starts with a container
name, such as `["Dictionary", "String", "Int"]` or `["Array", "Int", 2]`. -/
namespace Retarget

/-- Why a value does not fit the tree, the type or the settings that were asked for. -/
inductive DecodeError where
  /-- A value of the wrong sort. -/
  | wrongSort
  /-- A value of the right sort that its place cannot hold. -/
  | badValue
  | missingField (name : String)
  | unknownVariant (name : String)
  /-- A type that is neither a name nor a list of types and sizes. -/
  | unreadableType
  /-- A list of types and sizes that describes no type. -/
  | badDescriptor (cause : TreeError)
  /-- More entries than there are settings. -/
  | excessEntries

def DecodeError.message : DecodeError → String
  | wrongSort => "invalid type"
  | badValue => "invalid value"
  | missingField name => s!"missing field `{name}`"
  | unknownVariant name => s!"unknown variant `{name}`"
  | unreadableType => "data did not match any variant of untagged enum TypeRepr"
  | badDescriptor cause => cause.message
  | excessEntries => "invalid length"

namespace SemType

/-- The number of sizes that a descriptor can hold. -/
def sizeBound : Nat := 0x10000000000000000

/-- One element of a descriptor list. -/
inductive Component where
  | size (value : Nat)
  | type (value : SemType)

/-- The types among the components, up to the first size. -/
def typesOf (container : String) : List Component → Except TreeError (List SemType)
  | [] => .ok []
  | .size value :: _ => .error (.misplacedSize value container)
  | .type value :: rest => do return value :: (← typesOf container rest)

/-- The type that a descriptor describes. -/
def ofComponents : List Component → Except TreeError SemType
  | .type (.named name) :: rest =>
    if name = "Array" then
      match rest with
      | [.type element, .size size] => .ok (.fixedArray element size)
      | _ => .error (.typeArity name .elementAndSize rest.length)
    else do container? name (← typesOf name rest)
  | _ => .error .unnamedDescriptor

/-- The size that an element is: an integer that a size can hold. -/
def readSize? : Data → Option Nat
  | .int value => if 0 ≤ value ∧ value < sizeBound then some value.toNat else none
  | _ => none

mutual
/-- Reads a type. Whatever is wrong inside an element makes the whole descriptor unreadable. -/
def ofData : Data → Except DecodeError SemType
  | .text name => .ok (.named name)
  | .list items =>
    match componentsOf items with
    | none => .error .unreadableType
    | some components => (ofComponents components).mapError .badDescriptor
  | _ => .error .unreadableType
/-- Reads the elements of a descriptor: a size where it can be one, a type otherwise. -/
def componentsOf : List Data → Option (List Component)
  | [] => some []
  | item :: rest => do
    let component ← match readSize? item with
      | some size => some (Component.size size)
      | none => (ofData item).toOption.map .type
    return component :: (← componentsOf rest)
end

mutual
def toData : SemType → Data
  | .named name => .text name
  | .container name args => .list (.text name :: allToData args)
  | .fixedArray element size => .list [.text "Array", element.toData, .int size]
def allToData : List SemType → List Data
  | [] => []
  | type :: rest => type.toData :: allToData rest
end

end SemType
end Retarget
