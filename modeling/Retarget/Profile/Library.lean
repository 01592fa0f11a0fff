import Retarget.Template
import Retarget.Profile.Table

/-! The standard library of a target: a template for each abstract library call, and the dependencies
that calls and types pull in. -/
namespace Retarget

/-- A library operation: how it is written, and what has to be imported for it. -/
structure LibraryEntry where
  template : Template
  dependency : Option String

/-- Functions go by name space and name, methods by the base name of the receiver's type and name. -/
structure Library where
  functions : Table (String × String) LibraryEntry
  methods : Table (String × String) LibraryEntry
  typeDependencies : Table String String

namespace Library

def empty : Library := ⟨.empty, .empty, .empty⟩

def function? (library : Library) (space name : String) : Option LibraryEntry :=
  library.functions.get? (space, name)

def method? (library : Library) (receiver name : String) : Option LibraryEntry :=
  library.methods.get? (receiver, name)

def typeDependency? (library : Library) (type : String) : Option String :=
  library.typeDependencies.get? type

end Library
end Retarget
