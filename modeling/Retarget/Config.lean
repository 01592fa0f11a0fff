import Retarget.Settings
import Retarget.Toml.Document

/-! Configurations: settings by language, read from TOML. Every top-level table holds the settings of
the language it is named after. -/
namespace Retarget

inductive ConfigError where
  /-- The file cannot be read, or is not text. -/
  | unreadable
  /-- The text is not TOML, or its tables do not hold settings. -/
  | malformed
  deriving DecidableEq

/-- Settings by language name, in the order of the file. -/
structure Config where
  languages : List (String × LanguageSettings)
  deriving DecidableEq

namespace Config

def empty : Config := ⟨[]⟩

/-- The settings for a language; the defaults if it has none. -/
def language (config : Config) (name : String) : LanguageSettings :=
  (config.languages.lookup name).getD {}

def ofMember (member : String × Data) : Except ConfigError (String × LanguageSettings) :=
  match LanguageSettings.ofData member.2 with
  | .ok settings => .ok (member.1, settings)
  | .error _ => .error .malformed

def ofToml (text : String) : Except ConfigError Config :=
  match Toml.parse? text.toList with
  | none => .error .malformed
  | some members => .mk <$> members.mapM ofMember

/-- The configuration that a file with this content holds; none if there is no such file. -/
def ofFile : Option ByteArray → Except ConfigError Config
  | none => .error .unreadable
  | some content =>
    match String.fromUTF8? content with
    | none => .error .unreadable
    | some text => ofToml text

/-- The configuration of a project, whose file may be missing. -/
def ofProject : Option ByteArray → Except ConfigError Config
  | none => .ok empty
  | some content => ofFile (some content)

end Config
end Retarget
