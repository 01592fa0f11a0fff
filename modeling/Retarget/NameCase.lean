import Retarget.Text.Word

/-! Casing conventions for identifiers. Leading underscores are kept. -/
namespace Retarget

inductive NameCase where
  | camel
  | pascal
  | snake
  /-- Names stay as written. -/
  | preserve
  deriving DecidableEq

namespace NameCase

def all : List NameCase := [camel, pascal, snake, preserve]

def name : NameCase → String
  | camel => "camel"
  | pascal => "pascal"
  | snake => "snake"
  | preserve => "preserve"

def ofName? (name : String) : Option NameCase := all.find? (·.name == name)

def mapFirst (f : Char → Char) : List Char → List Char
  | [] => []
  | c :: rest => f c :: rest

/-- Words joined with an underscore between them. -/
def joinSnake (words : List (List Char)) : List Char := ['_'].intercalate (words.map Text.lower)

/-- Words joined with nothing between them, all capitalized but perhaps the first. -/
def joinCamel : List (List Char) → List Char
  | [] => []
  | first :: rest => Text.lower first ++ rest.flatMap Text.capitalize

def joinPascal (words : List (List Char)) : List Char := words.flatMap Text.capitalize

/-- Whether a name has a separator to split it at. -/
def hasSeparator (body : List Char) : Bool := body.any fun c => c == '_' || c == '-'

/-- The casing of a name without leading underscores. In camel and pascal case a name without
separators changes in its first character only, so that joined names stay as they are. -/
def convert : NameCase → List Char → List Char
  | preserve, body => body
  | snake, body => joinSnake (Text.words true body)
  | camel, body =>
    if hasSeparator body then joinCamel (Text.words false body) else mapFirst Char.toLower body
  | pascal, body =>
    if hasSeparator body then joinPascal (Text.words false body) else mapFirst Char.toUpper body

/-- The name under a convention. -/
def apply (convention : NameCase) (name : String) : String :=
  let underscores := name.toList.takeWhile (· == '_')
  let body := name.toList.dropWhile (· == '_')
  if body.isEmpty then name else String.ofList (underscores ++ convention.convert body)

end NameCase
end Retarget
