import Retarget.Text.Cluster
import Retarget.Text.Uppercase
import Retarget.Text.Lowercase

/-! Words of identifiers. Separators end words and are dropped; where case counts, a word also starts
at a capital behind a small letter, and at the last capital of several before a small letter. -/
namespace Retarget.Text

/-- A cluster that separates words: an underscore or a hyphen. -/
def isSeparator (cluster : List Char) : Bool := cluster == ['_'] || cluster == ['-']

/-- A cluster with two cases that is in upper case. -/
def isCapital (cluster : List Char) : Bool :=
  upper cluster != lower cluster && cluster == upper cluster

/-- A cluster with two cases that is in lower case. -/
def isSmall (cluster : List Char) : Bool :=
  upper cluster != lower cluster && cluster == lower cluster

/-- Whether a word starts at a cluster, given its neighbours. -/
def startsWord (previous : Option (List Char)) (cluster : List Char) (next : Option (List Char)) :
    Bool :=
  isCapital cluster &&
    (previous.any isSmall || (previous.any isCapital && next.any isSmall))

/-- The words of the rest of an identifier, the current word first; `byCase` says whether words start
at changes of case. -/
def wordsFrom (byCase : Bool) (previous : Option (List Char)) (word : List Char) :
    List (List Char) → List (List Char)
  | [] => [word]
  | cluster :: rest =>
    if isSeparator cluster then word :: wordsFrom byCase (some cluster) [] rest
    else if byCase && startsWord previous cluster rest.head? then
      word :: wordsFrom byCase (some cluster) cluster rest
    else wordsFrom byCase (some cluster) (word ++ cluster) rest

/-- The words of an identifier, none of them empty. -/
def words (byCase : Bool) (text : List Char) : List (List Char) :=
  (wordsFrom byCase none [] (clusters text)).filter (· ≠ [])

/-- The first cluster in upper case, the others in lower case. -/
def capitalize (word : List Char) : List Char :=
  match clusters word with
  | [] => []
  | first :: rest => upper first ++ lower rest.flatten

end Retarget.Text
