import Retarget.Tree.Tag
import Retarget.Profile.Indent
import Retarget.Profile.Library
import Retarget.Profile.TypeSyntax

/-! Targets: what a profile fixes about a target language as plain data. -/
namespace Retarget

/-- A choice of template by the value of one attribute. -/
structure Switch where
  on : Path
  cases : List (String × Template)
  default : Option Template

/-- The template of the first case for a key, else the default. -/
def Switch.select? (switch : Switch) (key : String) : Option Template :=
  (switch.cases.lookup key).or switch.default

/-- How nodes of one tag are written. -/
inductive Entry where
  | template (template : Template)
  | switch (switch : Switch)

/-- The templates of an optional attribute: one for a value, one for none. -/
structure OptionalPair where
  present : Template
  fallback : Template

/-- A target language as data. -/
structure Target where
  name : String
  extension : String
  indent : Indent
  /-- What ends a simple statement. -/
  terminator : String
  types : TypeTable
  entries : Table Tag Entry
  optionals : Table (Tag × String) OptionalPair
  library : Library

namespace Target

/-- A target without tables, indented by four blanks. -/
def empty (name extension : String) : Target :=
  ⟨name, extension, .spaces 4, "", .empty, .empty, .empty, .empty⟩

def entry? (target : Target) (tag : Tag) : Option Entry := target.entries.get? tag

def supports (target : Target) (tag : Tag) : Bool := (target.entry? tag).isSome

def optional? (target : Target) (tag : Tag) (name : String) : Option OptionalPair :=
  target.optionals.get? (tag, name)

end Target
end Retarget
