/-! Scanning: readers that take characters off the front of a text or refuse it. -/
namespace Retarget.Toml

/-- A reader of the front of a text. -/
abbrev Scan (α : Type) := StateT (List Char) Option α

namespace Scan

/-- One character of a class. -/
def satisfying (member : Char → Bool) : Scan Char := fun text =>
  match text with
  | c :: rest => if member c then some (c, rest) else none
  | [] => none

def char (c : Char) : Scan Unit := do let _ ← satisfying (· == c)

/-- A given text. -/
def word : List Char → Scan Unit
  | [] => pure ()
  | c :: rest => do char c; word rest

/-- All characters of a class at the front. -/
def spanning (member : Char → Bool) : Scan (List Char) := fun text =>
  some (text.takeWhile member, text.dropWhile member)

/-- The next character, which stays. -/
def peek : Scan (Option Char) := fun text => some (text.head?, text)

def atEnd : Scan Unit := fun text => if text.isEmpty then some ((), text) else none

/-- What a reader takes, as often as it takes something, `count` times at most. -/
def upTo (count : Nat) (reader : Scan α) : Scan (List α) := fun text =>
  match count with
  | 0 => some ([], text)
  | count + 1 =>
    match reader text with
    | none => some ([], text)
    | some (value, rest) =>
      if rest.length < text.length then
        (upTo count reader rest).map fun (values, rest) => (value :: values, rest)
      else some ([], text)

/-- What a reader takes, as often as it takes something. -/
def many (reader : Scan α) : Scan (List α) := fun text => upTo text.length reader text

/-- What the reader takes of the whole text, if it takes all of it. -/
def whole? (reader : Scan α) (text : List Char) : Option α := do
  let (value, rest) ← reader text
  if rest.isEmpty then some value else none

end Scan
end Retarget.Toml
