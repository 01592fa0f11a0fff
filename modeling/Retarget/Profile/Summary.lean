import Retarget.Profile
import Retarget.Text.Invisible

/-! Summaries of profiles, for people to read. -/
namespace Retarget.Profile

/-- A character of a quoted name. One that cannot be seen is given by its code point. -/
def quoteChar (c : Char) : List Char :=
  if c = '"' then ['\\', '"']
  else if c = '\\' then ['\\', '\\']
  else if c = '\n' then ['\\', 'n']
  else if c = '\r' then ['\\', 'r']
  else if c = '\t' then ['\\', 't']
  else if c.toNat = 0 then ['\\', '0']
  else if Text.isInvisible c then
    '\\' :: 'u' :: '\x7b' :: (Nat.toDigits 16 c.toNat ++ ['\x7d'])
  else [c]

def quoted (name : String) : String := String.ofList ('"' :: name.toList.flatMap quoteChar ++ ['"'])

def unitName : IndentUnit → String
  | .spaces => "Spaces"
  | .tabs => "Tabs"

/-- Name, extension, indentation, passes, and for how many tags there are templates. -/
def summary (profile : Profile) : String :=
  "Profile \x7b name: " ++ quoted profile.name ++ ", extension: " ++ quoted profile.extension ++
    ", indent: Indent \x7b unit: " ++ unitName profile.indent.unit ++ ", width: " ++
    toString profile.indent.width ++ " \x7d, middlewares: [" ++
    ", ".intercalate (profile.passes.map fun pass => quoted pass.name) ++ "], templates: " ++
    toString profile.entries.size ++ ", .. \x7d"

end Retarget.Profile
