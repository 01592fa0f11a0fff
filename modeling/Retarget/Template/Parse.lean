import Retarget.Text
import Retarget.Template

/-! The template language. A directive stands between `%<` and the next `>` outside single quotes:
`%<a.b>` places an attribute, `%<a:join ', '>`, `%<a:lines>`, `%<a:stmts>` and `%<a:paragraphs>` join
a sequence, `%<@a>` writes a type, `%<.a>` asks for an optional pair and `%<#f>` calls an override.
Source is indented by four blanks a level; its common margin and the blank lines around it do not
count. -/
namespace Retarget

def isIdentifierChar (c : Char) : Bool := c.isLower || c.isDigit || c == '_'

def isIdentifier (name : List Char) : Bool := !name.isEmpty && name.all isIdentifierChar

/-- Segments are identifiers with dots between them. -/
def Path.parse? (source : List Char) : Option Path :=
  let parts := Text.splitOn '.' source
  if parts.all isIdentifier then
    match parts.map String.ofList with
    | [] => none
    | first :: rest => some ⟨first, rest⟩
  else none

namespace JoinMode

/-- The separator in `join '…'`, blanks around the quotes aside. -/
def separator? (source : List Char) : Option JoinMode := do
  let quoted ← Text.dropPrefix? "join ".toList source
  let opened ← Text.dropPrefix? ['\''] (Text.trim quoted)
  if opened.getLast? = some '\'' then some (.separator (String.ofList opened.dropLast)) else none

def parse? (source : List Char) : Option JoinMode :=
  if source = "lines".toList then some .lines
  else if source = "stmts".toList then some .statements
  else if source = "paragraphs".toList then some .paragraphs
  else separator? source

end JoinMode

namespace Directive

def name? (source : List Char) : Option String :=
  if isIdentifier source then some (String.ofList source) else none

/-- The directive between the brackets. -/
def parse? (body : List Char) : Option Directive :=
  match body with
  | '.' :: name => optional <$> name? name
  | '#' :: name => override <$> name? name
  | '@' :: path => type <$> Path.parse? path
  | _ =>
    match body.span (· != ':') with
    | (path, []) => placeholder <$> Path.parse? path
    | (path, _ :: mode) => do return join (← Path.parse? path) (← JoinMode.parse? mode)

end Directive

/-- Where the scan of a line stands: in text, or in a directive, whose quotes may be open. What has
been read is kept in reverse. -/
inductive ScanState where
  | text (read : List Char)
  | directive (read : List Char) (quoted : Bool)

/-- A text segment before others, unless it is empty. -/
def Segment.consText (read : List Char) (segments : List Segment) : List Segment :=
  if read.isEmpty then segments else .text (String.ofList read.reverse) :: segments

/-- The segments of the rest of a line. -/
def scanSegments (owner line : String) :
    ScanState → List Char → Except TemplateError (List Segment)
  | .text read, [] => .ok (Segment.consText read [])
  | .text read, '%' :: '<' :: rest =>
    Segment.consText read <$> scanSegments owner line (.directive [] false) rest
  | .text read, c :: rest => scanSegments owner line (.text (c :: read)) rest
  | .directive _ _, [] => .error (.unterminated owner line)
  | .directive read quoted, c :: rest =>
    if c = '>' ∧ quoted = false then
      match Directive.parse? read.reverse with
      | none => .error (.invalidDirective owner (String.ofList read.reverse))
      | some directive => (.directive directive :: ·) <$> scanSegments owner line (.text []) rest
    else
      scanSegments owner line (.directive (c :: read) (if c = '\'' then !quoted else quoted)) rest

/-- The width of one level in template source. -/
def sourceIndent : Nat := 4

def leadingSpaces (line : List Char) : Nat := (line.takeWhile (· == ' ')).length

/-- The least indentation of the lines that are not blank. -/
def margin (lines : List (List Char)) : Nat :=
  (((lines.filter (!Text.isAllBlank ·)).map leadingSpaces).min?).getD 0

namespace Line

/-- The line of a source line, given the common margin. -/
def parse (owner : String) (margin : Nat) (source : List Char) : Except TemplateError Line :=
  if Text.isAllBlank source then .ok ⟨0, []⟩
  else
    let indent := leadingSpaces source
    let content := source.drop indent
    (⟨(indent - margin) / sourceIndent, ·⟩) <$>
      scanSegments owner (String.ofList content) (.text []) content

end Line

namespace Template

/-- The source lines without the blank lines around them. -/
def sourceLines (source : List Char) : List (List Char) :=
  let lines := (Text.lines source).dropWhile Text.isAllBlank
  (lines.reverse.dropWhile Text.isAllBlank).reverse

/-- The template that a source spells; `owner` names the table entry in errors. -/
def parse (owner source : String) : Except TemplateError Template :=
  let lines := sourceLines source.toList
  Template.mk <$> lines.mapM (Line.parse owner (margin lines))

end Template
end Retarget
