/-! Values of self-describing formats. Serialized trees, settings files and the literals that a
producer hands over all take this shape; how a value is written is the concern of each format. -/
namespace Retarget

/-- A self-describing value. A record keeps the order in which its members were given. -/
inductive Data where
  | null
  | bool (value : Bool)
  | int (value : Int)
  | float (value : Float)
  | text (value : String)
  | list (items : List Data)
  | record (members : List (String × Data))

/-- Whether an integer has 64 bits with a sign, as literals and settings need it. -/
def isWordInteger (value : Int) : Bool :=
  -9223372036854775808 ≤ value && value ≤ 9223372036854775807

/-- Text that may be missing; `null` stands for none. -/
def Data.ofText? : Option String → Data
  | none => .null
  | some value => .text value

end Retarget
