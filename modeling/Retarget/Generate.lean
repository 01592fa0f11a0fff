import Retarget.Config
import Retarget.Language

/-! Generation: a tree in, source text of a target language out. -/
namespace Retarget

/-- The source of a module in a language, if it is one. -/
def Language.generate (language : Language) (module : Node) (settings : LanguageSettings) :
    Except GenerateError String :=
  match language.profile settings with
  | .error cause => .error (.template cause)
  | .ok profile => profile.renderModule module

namespace Registry

/-- The source of a module in the registered language of a name, under a configuration. -/
def generate (module : Node) (language : String) (config : Config) :
    StateM Registry (Except GenerateError String) := do
  match ← byName? language with
  | none => return .error (.unknownLanguage language)
  | some found => return found.generate module (config.language language)

end Registry

/-- The source of a module in a built-in language, under a configuration. -/
def generate (module : Node) (language : String) (config : Config) :
    Except GenerateError String :=
  ((Registry.generate module language config).run .empty).1

end Retarget
