import Retarget.Data
import Retarget.Decimal.Style

/-! Compact text of a value, as error messages show it: no blanks, members sorted by key. -/
namespace Retarget.Data

/-- A character inside a quoted text: quote, backslash and control characters are escaped. -/
def escape (c : Char) : List Char :=
  if c = '"' then ['\\', '"']
  else if c = '\\' then ['\\', '\\']
  else if c = '\n' then ['\\', 'n']
  else if c = '\r' then ['\\', 'r']
  else if c = '\t' then ['\\', 't']
  else if c = '\x08' then ['\\', 'b']
  else if c = '\x0c' then ['\\', 'f']
  else if c.toNat < 0x20 then
    ['\\', 'u', '0', '0', Nat.digitChar (c.toNat / 16), Nat.digitChar (c.toNat % 16)]
  else [c]

def quote (value : String) : String :=
  String.ofList ('"' :: value.toList.flatMap escape ++ ['"'])

/-- Inserts a member behind those of smaller or equal key. -/
def insertMember (member : String × String) : List (String × String) → List (String × String)
  | [] => [member]
  | other :: rest =>
    if member.1 < other.1 then member :: other :: rest else other :: insertMember member rest

mutual
def compact : Data → String
  | .null => "null"
  | .bool value => if value then "true" else "false"
  | .int value => toString value
  | .float value => if value.isFinite then Decimal.Style.dump.write value else "null"
  | .text value => quote value
  | .list items => "[" ++ ",".intercalate (compactItems items) ++ "]"
  | .record members =>
    let sorted := (compactMembers members).foldl (fun sorted member => insertMember member sorted) []
    "\x7b" ++ ",".intercalate (sorted.map fun (key, value) => quote key ++ ":" ++ value) ++ "\x7d"
def compactItems : List Data → List String
  | [] => []
  | item :: rest => item.compact :: compactItems rest
def compactMembers : List (String × Data) → List (String × String)
  | [] => []
  | (key, value) :: rest => (key, value.compact) :: compactMembers rest
end

end Retarget.Data
