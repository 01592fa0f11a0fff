import Retarget.Template
import Retarget.Tree.Tag

/-! Errors of generation, by cause. Generation either gives the whole text or one of these. -/
namespace Retarget

/-- What an attribute should have been. -/
inductive Expectation where
  | singleValue
  | sequence
  | type
  | switchableValue
  | node
  | text
  | oneSequencePerIterator
  deriving DecidableEq

def Expectation.describe : Expectation → String
  | singleValue => "a single value"
  | sequence => "a sequence"
  | type => "a type"
  | switchableValue => "a switchable value"
  | node => "a node"
  | text => "text"
  | oneSequencePerIterator => "one sequence per iterator"

inductive GenerateError where
  | unknownLanguage (name : String)
  | noTemplate (tag : Tag)
  | missingAttribute (tag : Tag) (name : String)
  | attributeShape (tag : Tag) (name : String) (expected : Expectation)
  | undefinedDirective (tag : Tag) (directive : String)
  | discriminantMismatch (tag : Tag) (discriminant : String)
  | unknownType (name : String)
  | unsupportedStandardCall (name : String)
  | template (cause : TemplateError)
  /-- The templates of a node lead back to the same node without end. -/
  | unending (tag : Tag)
  deriving DecidableEq

namespace GenerateError

def message : GenerateError → String
  | unknownLanguage name => s!"unknown language: {name}"
  | noTemplate tag => s!"no template or override for node `{tag.name}`"
  | missingAttribute tag name => s!"node `{tag.name}` has no attribute `{name}`"
  | attributeShape tag name expected =>
    s!"attribute `{name}` of node `{tag.name}` is not {expected.describe}"
  | undefinedDirective tag directive =>
    s!"directive `%<{directive}>` used by node `{tag.name}` is not defined by the profile"
  | discriminantMismatch tag discriminant =>
    s!"switch on `{discriminant}` for node `{tag.name}` matched no branch"
  | unknownType name => s!"type `{name}` has no entry in the type table"
  | unsupportedStandardCall name => s!"standard call `{name}` is not supported by this language"
  | template cause => cause.message
  | unending tag => s!"templates of node `{tag.name}` never end"

/-- Whether the error comes from a node that does not fit its template. -/
def isStructural : GenerateError → Bool
  | noTemplate _ => true
  | missingAttribute _ _ => true
  | attributeShape _ _ _ => true
  | undefinedDirective _ _ => true
  | unsupportedStandardCall _ => true
  | _ => false

end GenerateError
end Retarget
