import Retarget.NameCase
import Retarget.SemType.Descriptor

/-! Settings for target languages, which replace defaults of a profile where they are given. They are
read from tables of named entries, or from lists of the same entries in order. -/
namespace Retarget

/-- Casing conventions, where they differ from those of the profile. -/
structure NamingSettings where
  normal : Option NameCase := none
  method : Option NameCase := none
  function : Option NameCase := none
  deriving DecidableEq

/-- Settings for one target language. -/
structure LanguageSettings where
  /-- Blanks an indentation level. -/
  indent : Option Nat := none
  /-- Tabs instead of blanks. -/
  tabs : Option Bool := none
  naming : NamingSettings := {}
  deriving DecidableEq

namespace Settings

/-- An entry that `null` leaves unset. -/
def readOptional (read : Data → Except DecodeError α) : Data → Except DecodeError (Option α)
  | .null => .ok none
  | data => some <$> read data

def readNatural : Data → Except DecodeError Nat
  | .int value =>
    if 0 ≤ value ∧ value < SemType.sizeBound then .ok value.toNat else .error .badValue
  | _ => .error .wrongSort

def readBool : Data → Except DecodeError Bool
  | .bool value => .ok value
  | _ => .error .wrongSort

/-- A convention by name; the name may also be the key of an empty entry. -/
def readCase : Data → Except DecodeError NameCase
  | .text name => named name
  | .record [(name, .null)] => named name
  | .record [(name, .record [])] => named name
  | .record [(name, _)] => do
    let _ ← named name
    throw .wrongSort
  | .record _ => .error .badValue
  | _ => .error .wrongSort
where
  named (name : String) : Except DecodeError NameCase :=
    match NameCase.ofName? name with
    | some convention => .ok convention
    | none => .error (.unknownVariant name)

/-- Reads the value of an entry into settings. -/
abbrev Reader (σ : Type) := σ → Data → Except DecodeError σ

/-- Entries by name, in whatever order the table has them; others are ignored. -/
def readMembers (entries : List (String × Reader σ)) (settings : σ)
    (members : List (String × Data)) : Except DecodeError σ :=
  members.foldlM (fun settings (name, data) =>
    match entries.lookup name with
    | none => .ok settings
    | some read => read settings data) settings

/-- Entries by position. -/
def readItems (settings : σ) : List (String × Reader σ) → List Data → Except DecodeError σ
  | _, [] => .ok settings
  | [], _ :: _ => .error .excessEntries
  | (_, read) :: entries, item :: items => do readItems (← read settings item) entries items

/-- Settings from a table or a list. -/
def readStructure (entries : List (String × Reader σ)) (initial : σ) : Data → Except DecodeError σ
  | .record members => readMembers entries initial members
  | .list items => readItems initial entries items
  | _ => .error .wrongSort

def namingEntries : List (String × Reader NamingSettings) :=
  [
    ("normal", fun settings data => do
      return { settings with normal := ← readOptional readCase data }),
    ("method", fun settings data => do
      return { settings with method := ← readOptional readCase data }),
    ("function", fun settings data => do
      return { settings with function := ← readOptional readCase data })]

def languageEntries : List (String × Reader LanguageSettings) :=
  [
    ("indent", fun settings data => do
      return { settings with indent := ← readOptional readNatural data }),
    ("tabs", fun settings data => do
      return { settings with tabs := ← readOptional readBool data }),
    ("naming", fun settings data => do
      return { settings with naming := ← readStructure namingEntries {} data })]

end Settings

namespace LanguageSettings

def ofData (data : Data) : Except DecodeError LanguageSettings :=
  Settings.readStructure Settings.languageEntries {} data

end LanguageSettings
end Retarget
