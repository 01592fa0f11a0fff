import Retarget.Yaml.Scalar

/-! Block YAML documents. A record is one line or more a member, two blanks deeper than the record
it stands in; the items of a list stand under their key, each behind a dash. -/
namespace Retarget.Yaml

/-- Two blanks before a line, unless it is empty. -/
def indent (line : List Char) : List Char := if line.isEmpty then [] else ' ' :: ' ' :: line

/-- Lines behind a dash: the first on its line, the others indented. -/
def hang : List (List Char) → List (List Char)
  | [] => [['-']]
  | first :: rest => ('-' :: ' ' :: first) :: rest.map indent

/-- A scalar behind what introduces it. -/
def Scalar.after (lead : List Char) : Scalar → List (List Char)
  | .inline text => [lead ++ ' ' :: text]
  | .block header lines => (lead ++ ' ' :: header) :: lines.map indent

/-- The scalar of a value that is not a list or a record. -/
def scalar? : Data → Option Scalar
  | .null => some (.inline "null".toList)
  | .bool value => some (.inline (if value then "true" else "false").toList)
  | .int value => some (.inline (toString value).toList)
  | .float value => some (.inline (Decimal.Style.dump.write value).toList)
  | .text value => some (ofText value.toList)
  | .list _ => none
  | .record _ => none

mutual
/-- The lines of a member: its key, then its value. -/
def memberLines (key : List Char) : Data → List (List Char)
  | .list [] => [key ++ ": []".toList]
  | .list items => (key ++ [':']) :: itemLines items
  | .record [] => [key ++ ": \x7b\x7d".toList]
  | .record members => (key ++ [':']) :: (recordLines members).map indent
  | value => ((scalar? value).map (Scalar.after (key ++ [':']))).getD []
def recordLines : List (String × Data) → List (List Char)
  | [] => []
  | (key, value) :: rest => memberLines key.toList value ++ recordLines rest
/-- The lines of one item of a list. -/
def itemLinesOf : Data → List (List Char)
  | .list [] => ["- []".toList]
  | .list items => hang (itemLines items)
  | .record [] => ["- \x7b\x7d".toList]
  | .record members => hang (recordLines members)
  | value => ((scalar? value).map (Scalar.after ['-'])).getD []
def itemLines : List Data → List (List Char)
  | [] => []
  | item :: rest => itemLinesOf item ++ itemLines rest
end

/-- The lines of a value on its own. -/
def documentLines : Data → List (List Char)
  | .record (member :: members) => recordLines (member :: members)
  | .list (item :: items) => itemLines (item :: items)
  | .record [] => ["\x7b\x7d".toList]
  | .list [] => ["[]".toList]
  | value =>
    match scalar? value with
    | some (.inline text) => [text]
    | some (.block header lines) => header :: lines.map indent
    | none => []

/-- The document of a value; every line is ended. -/
def document (value : Data) : String :=
  String.ofList ((documentLines value).flatMap (· ++ ['\n']))

end Retarget.Yaml
