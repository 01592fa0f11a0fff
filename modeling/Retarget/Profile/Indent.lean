/-! Indentation of generated lines. -/
namespace Retarget

inductive IndentUnit where
  | spaces
  | tabs
  deriving DecidableEq

/-- One indentation step: so many of a unit. -/
structure Indent where
  unit : IndentUnit
  width : Nat
  deriving DecidableEq

namespace Indent

def spaces (width : Nat) : Indent := ⟨.spaces, width⟩
def tabs : Indent := ⟨.tabs, 1⟩

def character : IndentUnit → Char
  | .spaces => ' '
  | .tabs => '\t'

/-- What stands before a line at a depth. -/
def margin (indent : Indent) (depth : Nat) : String :=
  String.ofList (List.replicate (indent.width * depth) (character indent.unit))

end Indent
end Retarget
