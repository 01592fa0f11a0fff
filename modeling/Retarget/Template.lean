/-! Templates: patterns of lines with directives in them. Levels count indentation steps relative to
the depth at which a template is rendered. -/
namespace Retarget

/-- A dotted path to an attribute, such as `iterators.index`. It has at least one segment. -/
structure Path where
  first : String
  rest : List String
  deriving DecidableEq

def Path.segments (path : Path) : List String := path.first :: path.rest

/-- How the members of a sequence are put together. -/
inductive JoinMode where
  /-- On one line, with a text between members. -/
  | separator (text : String)
  /-- One member a line. -/
  | lines
  /-- One statement a line; simple statements get the terminator. -/
  | statements
  /-- A blank line between members. -/
  | paragraphs
  deriving DecidableEq

inductive Directive where
  /-- A child rendered, or a scalar written out. -/
  | placeholder (path : Path)
  | join (path : Path) (mode : JoinMode)
  /-- A semantic type, written as the target spells it. -/
  | type (path : Path)
  /-- The pair of templates that a profile keeps for an attribute. -/
  | optional (name : String)
  /-- A function of the profile. -/
  | override (name : String)
  deriving DecidableEq

inductive Segment where
  | text (value : String)
  | directive (directive : Directive)
  deriving DecidableEq

def Segment.isDirective : Segment → Bool
  | .text _ => false
  | .directive _ => true

/-- A template line; one without segments is blank. -/
structure Line where
  level : Nat
  segments : List Segment
  deriving DecidableEq

namespace Line

def isBlank (line : Line) : Bool := line.segments.isEmpty

def hasDirective (line : Line) : Bool := line.segments.any Segment.isDirective

end Line

structure Template where
  lines : List Line
  deriving DecidableEq

def Template.isEmpty (template : Template) : Bool := template.lines.isEmpty

/-- What is wrong with the source of a template. The owner names the table entry. -/
inductive TemplateError where
  | unterminated (owner source : String)
  | invalidDirective (owner directive : String)
  deriving DecidableEq

def TemplateError.message : TemplateError → String
  | unterminated owner source => s!"unterminated directive in template for `{owner}`: {source}"
  | invalidDirective owner directive =>
    s!"invalid directive `%<{directive}>` in template for `{owner}`"

end Retarget
