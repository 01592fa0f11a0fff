import Retarget.Text
import Retarget.Profile.Table

/-! Type syntax: how a target spells a semantic type, given the spellings of its components. -/
namespace Retarget

/-- The spelling of one semantic type name. -/
inductive TypeSyntax where
  | plain (text : String)
  /-- A text in which the slot of each position stands for the component there. -/
  | positional (format : String)
  /-- A text whose first slot takes all components, a separator between them. -/
  | variadic (format separator : String)
  /-- A callable, whose last component is its result. If the result is spelled `void`, the parameters
  alone go into `procedure`, or `bare` is used if there are none. -/
  | callable (format procedure bare void separator : String)
  deriving DecidableEq

namespace TypeSyntax

/-- The text that marks the place of a component. -/
def slot (position : Nat) : List Char := '\x7b' :: (toString position).toList ++ ['\x7d']

def fill (format : String) (position : Nat) (value : String) : String :=
  String.ofList (Text.replace (slot position) value.toList format.toList)

/-- Fills the slots of components one after the other, from a position on. -/
def fillFrom (format : String) (position : Nat) : List String → String
  | [] => format
  | component :: rest => fillFrom (fill format position component) (position + 1) rest

/-- The spelling of a type, given those of its components. -/
def apply (spelling : TypeSyntax) (components : List String) : String :=
  match spelling with
  | .plain text => text
  | .positional format => fillFrom format 0 components
  | .variadic format separator => fill format 0 (separator.intercalate components)
  | .callable format procedure bare void separator =>
    if components.getLast? = some void then
      match components.dropLast with
      | [] => bare
      | params => fill procedure 0 (separator.intercalate params)
    else fill format 0 (separator.intercalate components)

end TypeSyntax

/-- A target's spellings of semantic types by name. -/
abbrev TypeTable := Table String TypeSyntax

end Retarget
