import Retarget.Data
import Retarget.Toml.Token

/-! TOML documents. Tables remember how they came about, since only tables that were implied by a
longer header may be headed later, and only tables made by dotted keys may be added to by dotted
keys. -/
namespace Retarget.Toml

open Scan

/-- How a table came about. -/
inductive Origin where
  /-- By a header of its own. -/
  | headed
  /-- By the header of a table inside it. -/
  | implied
  /-- By a dotted key. -/
  | dotted
  deriving DecidableEq

/-- What a key of a table stands for. -/
inductive Item where
  | value (value : Data)
  | table (origin : Origin) (members : List (String × Item))
  /-- A list of headed tables, the last one first. -/
  | tables (latest : List (String × Item)) (earlier : List (List (String × Item)))

/-- The members of a table. -/
abbrev Members := List (String × Item)

namespace Members

/-- Sets the item of a key; a new key goes last. -/
def set (members : Members) (key : String) (item : Item) : Members :=
  if members.any (·.1 == key) then
    members.map fun entry => if entry.1 == key then (key, item) else entry
  else members ++ [(key, item)]

def addValue (key : String) (value : Data) (members : Members) : Option Members :=
  match members.lookup key with
  | none => some (members.set key (.value value))
  | some _ => none

/-- Changes the table that headers lead to, making those on the way that are missing. -/
def atHeader (change : Members → Option Members) : List String → Members → Option Members
  | [], members => change members
  | key :: rest, members =>
    match members.lookup key with
    | none => do return members.set key (.table .implied (← atHeader change rest []))
    | some (.table origin inner) => do
      return members.set key (.table origin (← atHeader change rest inner))
    | some (.tables latest earlier) => do
      return members.set key (.tables (← atHeader change rest latest) earlier)
    | some (.value _) => none

/-- Adds a value under a dotted key. Headed tables are closed to dotted keys. -/
def addDotted (value : Data) (key : String) : List String → Members → Option Members
  | [], members => members.addValue key value
  | next :: rest, members =>
    let last := rest.isEmpty
    match members.lookup key with
    | none => do return members.set key (.table .dotted (← addDotted value next rest []))
    | some (.table .dotted inner) => do
      return members.set key (.table .dotted (← addDotted value next rest inner))
    | some (.table .implied inner) =>
      if last then none
      else do return members.set key (.table .implied (← addDotted value next rest inner))
    | some (.tables latest earlier) =>
      if last then none
      else do return members.set key (.tables (← addDotted value next rest latest) earlier)
    | some (.table .headed _) => none
    | some (.value _) => none

/-- Opens the table of a header. -/
def openTable (key : String) (members : Members) : Option Members :=
  match members.lookup key with
  | none => some (members.set key (.table .headed []))
  | some (.table .implied inner) => some (members.set key (.table .headed inner))
  | some _ => none

/-- Opens a further table of a list of tables. -/
def openElement (key : String) (members : Members) : Option Members :=
  match members.lookup key with
  | none => some (members.set key (.tables [] []))
  | some (.tables latest earlier) => some (members.set key (.tables [] (latest :: earlier)))
  | some _ => none

end Members

mutual
/-- The value of an item, without the origins of tables. -/
def Item.toData : Item → Data
  | .value value => value
  | .table _ members => .record (membersData members)
  | .tables latest earlier =>
    .list (elementsData earlier [.record (membersData latest)])
def membersData : List (String × Item) → List (String × Data)
  | [] => []
  | (key, item) :: rest => (key, item.toData) :: membersData rest
def elementsData : List (List (String × Item)) → List Data → List Data
  | [], data => data
  | members :: rest, data => elementsData rest (.record (membersData members) :: data)
end

/-- A date as data: a table with one entry, which is no setting. -/
def dateData : Data := .record [("date", .null)]

/-- The members of an inline table, given in order. -/
def inlineMembers (entries : List (List String × Data)) : Option Members :=
  entries.foldlM (fun members (key, value) =>
    match key with
    | [] => none
    | first :: rest => members.addDotted value first rest) []

/-- A value, at most so many levels deep. -/
def value : Nat → Scan Data
  | 0 => failure
  | depth + 1 => do
    match ← peek with
    | some '"' => .text <$> string
    | some '\'' => .text <$> string
    | some '[' =>
      char '['
      let element := do filler; let element ← value depth; filler; return element
      let elements ← optional do
        let first ← element
        let rest ← many do char ','; element
        let _ ← optional (char ',')
        return first :: rest
      filler
      char ']'
      return .list (elements.getD [])
    | some '\x7b' =>
      char '\x7b'
      let entry := do
        let name ← key
        char '='
        white
        let data ← value depth
        white
        return (name, data)
      let entries ← optional do
        let first ← entry
        let rest ← many do char ','; entry
        return first :: rest
      white
      char '\x7d'
      match inlineMembers (entries.getD []) with
      | some members => return .record (membersData members)
      | none => failure
    | some 't' => do word "true".toList; return .bool true
    | some 'f' => do word "false".toList; return .bool false
    | _ =>
      (do dateTime; return dateData) <|> (.float <$> float) <|> (.int <$> integer)

/-- The content of a line. -/
inductive Statement where
  | entry (key : List String) (value : Data)
  | header (path : List String)
  | elementHeader (path : List String)
  | nothing

def statement : Scan Statement := do
  white
  match ← peek with
  | some '[' =>
    let elementHeader := do
      word ['[', '[']
      let path ← key
      word [']', ']']
      return Statement.elementHeader path
    let header := do
      char '['
      let path ← key
      char ']'
      return Statement.header path
    elementHeader <|> header
  | none | some '#' | some '\n' | some '\r' => return .nothing
  | some _ =>
    let path ← key
    char '='
    white
    return .entry path (← value depthLimit)

/-- The statements of a document, one a line. -/
def statements : Scan (List Statement) := do
  let _ ← optional (char '\ufeff')
  let lines ← many do
    let content ← statement
    lineEnd
    return content
  return lines

/-- A document as it is read: its root table, and the path of the last header. -/
structure Progress where
  root : Members
  current : List String

namespace Progress

def open? (progress : Progress) (path : List String)
    (change : String → Members → Option Members) : Option Progress := do
  let key ← path.getLast?
  return ⟨← progress.root.atHeader (change key) path.dropLast, path⟩

def step (progress : Progress) : Statement → Option Progress
  | .nothing => some progress
  | .header path => progress.open? path Members.openTable
  | .elementHeader path => progress.open? path Members.openElement
  | .entry [] _ => none
  | .entry (first :: rest) value => do
    let root ← progress.root.atHeader (Members.addDotted value first rest) progress.current
    return { progress with root }

end Progress

/-- The root table of a document; none if the text is not a document. -/
def parse? (text : List Char) : Option (List (String × Data)) := do
  let lines ← statements.whole? text
  let progress ← lines.foldlM Progress.step ⟨[], []⟩
  return membersData progress.root

end Retarget.Toml
