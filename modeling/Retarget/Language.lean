import Retarget.CSharp.Profile

/-! Languages and their registry. A language is found by name or by extension; of several, the one
registered first counts. -/
namespace Retarget

/-- A target language: a name, the extension of its files, and a profile for each settings. -/
structure Language where
  name : String
  extension : String
  profile : LanguageSettings → Except TemplateError Profile

/-- The C# target. -/
def Language.csharp : Language := ⟨"csharp", "cs", CSharp.profile⟩

/-- The registered languages, in order. The built-in ones are entered at the first look-up, behind
those registered before. -/
structure Registry where
  languages : List Language
  opened : Bool

namespace Registry

def empty : Registry := ⟨[], false⟩

def register (registry : Registry) (language : Language) : Registry :=
  { registry with languages := registry.languages ++ [language] }

/-- The registry as a look-up finds it. -/
def opening (registry : Registry) : Registry :=
  if registry.opened then registry else ⟨registry.languages ++ [.csharp], true⟩

/-- All languages, in order. -/
def list : StateM Registry (List Language) := do
  modify opening
  return (← get).languages

def byName? (name : String) : StateM Registry (Option Language) := do
  return (← list).find? (·.name == name)

def byExtension? (extension : String) : StateM Registry (Option Language) := do
  return (← list).find? (·.extension == extension)

end Registry
end Retarget
