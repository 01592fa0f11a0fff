import Retarget.Text
import Retarget.Profile.Indent

/-! Line layout: which lines of a rendered template stay, and how they are indented. A line whose
directives all render to nothing is dropped. A blank line stays only behind a line with a directive,
and not where a dropped line separates it from plain text. -/
namespace Retarget

/-- A template line with its directives rendered. -/
inductive RenderedLine where
  | blank
  | content (depth : Nat) (hasDirective : Bool) (text : String)

/-- A line of output: blank, or a text at a depth. -/
inductive OutputLine where
  | blank
  | filled (depth : Nat) (text : String)

namespace RenderedLine

/-- The lines that stay. `afterDirective` says whether the last line that stayed had a directive,
`pending` whether a blank line waits for a line to stand before, and `dropped` whether a line was
dropped since the last blank one. -/
def kept (afterDirective pending dropped : Bool) : List RenderedLine → List OutputLine
  | [] => []
  | .blank :: rest => kept afterDirective (pending || afterDirective) false rest
  | .content depth hasDirective text :: rest =>
    if hasDirective && Text.isAllBlank text.toList then kept afterDirective pending true rest
    else
      let lines := .filled depth text :: kept hasDirective false false rest
      if pending && (hasDirective || !dropped) then .blank :: lines else lines

end RenderedLine

namespace OutputLine

/-- A line with its indentation; a blank line has none. -/
def indented (indent : Indent) : OutputLine → String
  | blank => ""
  | filled depth text => indent.margin depth ++ text

/-- The caller has already placed the first line. -/
def unindented : OutputLine → String
  | blank => ""
  | filled _ text => text

def join (indent : Indent) : List OutputLine → String
  | [] => ""
  | first :: rest => "\n".intercalate (first.unindented :: rest.map (indented indent))

end OutputLine

/-- The text of a rendered template. -/
def layOut (indent : Indent) (lines : List RenderedLine) : String :=
  OutputLine.join indent (RenderedLine.kept false false false lines)

end Retarget
