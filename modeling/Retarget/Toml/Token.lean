import Retarget.Data
import Retarget.Decimal.Finite
import Retarget.Text.Digits
import Retarget.Toml.Scan

/-! Tokens of TOML: blanks and comments, strings, keys, numbers and dates. -/
namespace Retarget.Toml

open Scan

def isWhite (c : Char) : Bool := c == ' ' || c == '\t'

/-- Characters of comments: all but control characters, tabs aside. -/
def isCommentChar (c : Char) : Bool := c == '\t' || (0x20 ≤ c.toNat && c.toNat != 0x7f)

def white : Scan Unit := do let _ ← spanning isWhite

def newline : Scan Unit := char '\n' <|> word ['\r', '\n']

def comment : Scan Unit := do
  char '#'
  let _ ← spanning isCommentChar

/-- What may follow the content of a line. -/
def lineEnd : Scan Unit := do
  white
  let _ ← optional comment
  newline <|> atEnd

/-- Blanks, comments and line breaks, which mean nothing inside an array. -/
def filler : Scan Unit := do
  let _ ← many <| (do let _ ← satisfying isWhite) <|> newline <|> do comment; newline

/-- A character given by its hexadecimal code point. -/
def codePoint (digits : Nat) : Scan Char := do
  let text ← upTo digits (satisfying fun c => (Text.digitValue? 16 c).isSome)
  match Text.natural? 16 text with
  | some value =>
    if text.length = digits ∧ value.isValidChar then return Char.ofNat value else failure
  | none => failure

/-- What stands behind a backslash. -/
def escaped : Scan Char := do
  match ← satisfying fun _ => true with
  | 'b' => return '\x08'
  | 't' => return '\t'
  | 'n' => return '\n'
  | 'f' => return '\x0c'
  | 'r' => return '\r'
  | '"' => return '"'
  | '\\' => return '\\'
  | 'u' => codePoint 4
  | 'U' => codePoint 8
  | _ => failure

def isLiteralChar (c : Char) : Bool := isCommentChar c && c != '\''

def isBasicChar (c : Char) : Bool := isCommentChar c && c != '"' && c != '\\'

def basicChar : Scan Char := satisfying isBasicChar <|> do char '\\'; escaped

def basicString : Scan (List Char) := do
  char '"'
  let text ← many basicChar
  char '"'
  return text

def literalString : Scan (List Char) := do
  char '\''
  let text ← spanning isLiteralChar
  char '\''
  return text

/-- A backslash at the end of a line, which takes the break and the blanks around it away. -/
def lineContinuation : Scan Unit := do
  char '\\'
  white
  newline
  let _ ← many ((do let _ ← satisfying isWhite) <|> newline)

/-- A line break inside a string. -/
def innerBreak : Scan (List Char) := do newline; return ['\n']

/-- A quote or two that do not end a string over several lines. -/
def innerQuotes (quote : Char) : Scan (List Char) := fun text =>
  let quotes := text.takeWhile (· == quote)
  if quotes.length = 1 ∨ quotes.length = 2 then some (quotes, text.drop quotes.length) else none

/-- The end of a string over several lines: three quotes, and up to two before them that belong to
the string. -/
def closingQuotes (quote : Char) : Scan (List Char) := fun text =>
  let quotes := text.takeWhile (· == quote)
  if 3 ≤ quotes.length ∧ quotes.length ≤ 5 then
    some (quotes.drop 3, text.drop quotes.length)
  else none

def multilineString (quote : Char) (part : Scan (List Char)) : Scan (List Char) := do
  word [quote, quote, quote]
  let _ ← optional newline
  let parts ← many (part <|> innerBreak <|> innerQuotes quote)
  return parts.flatten ++ (← closingQuotes quote)

def multilineBasic : Scan (List Char) :=
  multilineString '"' <| (do return [← basicChar]) <|> do lineContinuation; return []

def multilineLiteral : Scan (List Char) :=
  multilineString '\'' do return [← satisfying isLiteralChar]

def string : Scan String := do
  let text ← multilineBasic <|> basicString <|> multilineLiteral <|> literalString
  return String.ofList text

def isBareKeyChar (c : Char) : Bool := c.isAlphanum || c == '_' || c == '-'

def bareKey : Scan String := do
  match ← spanning isBareKeyChar with
  | [] => failure
  | name => return String.ofList name

def simpleKey : Scan String := do
  match ← peek with
  | some '"' => return String.ofList (← basicString)
  | some '\'' => return String.ofList (← literalString)
  | _ => bareKey

/-- How deep keys and values may go. -/
def depthLimit : Nat := 80

/-- A dotted key. -/
def key : Scan (List String) := do
  white
  let first ← simpleKey
  white
  let rest ← many do
    char '.'
    white
    let name ← simpleKey
    white
    return name
  if rest.length + 1 < depthLimit then return first :: rest else failure

/-- Digits of a base, with single underscores between them. -/
def digits (base : Nat) : Scan (List Char) := do
  let digit := satisfying fun c => (Text.digitValue? base c).isSome
  let first ← digit
  let rest ← many ((do char '_'; digit) <|> digit)
  return first :: rest

def sign : Scan Bool := (do char '-'; return true) <|> (do char '+'; return false) <|> pure false

/-- Decimal digits without a leading zero. -/
def decimalDigits : Scan (List Char) := do
  match ← digits 10 with
  | '0' :: _ :: _ => failure
  | text => return text

def markedInteger (mark : Char) (base : Nat) : Scan Int := do
  word ['0', mark]
  match Text.natural? base (← digits base) with
  | some value => if isWordInteger value then return value else failure
  | none => failure

def decimalInteger : Scan Int := do
  let negative ← sign
  match Text.natural? 10 (← decimalDigits) with
  | some magnitude =>
    let value : Int := if negative then -magnitude else magnitude
    if isWordInteger value then return value else failure
  | none => failure

def integer : Scan Int :=
  markedInteger 'x' 16 <|> markedInteger 'o' 8 <|> markedInteger 'b' 2 <|> decimalInteger

def exponentPart : Scan Int := do
  let _ ← satisfying fun c => c == 'e' || c == 'E'
  let negative ← sign
  match Text.natural? 10 (← digits 10) with
  | some magnitude => return if negative then -(magnitude : Int) else magnitude
  | none => failure

def fractionPart : Scan (List Char) := do
  char '.'
  digits 10

def specialFloat (negative : Bool) : Scan Float :=
  (do word "inf".toList; return if negative then -1 / 0 else 1 / 0) <|>
    (do word "nan".toList; return 0 / 0)

/-- A number with a fraction or an exponent. It has to stay finite, unless it is negative. -/
def ordinaryFloat (negative : Bool) : Scan Float := do
  let whole ← decimalDigits
  let fraction ← optional fractionPart
  let exponent ← optional exponentPart
  if fraction.isNone && exponent.isNone then failure
  let places := fraction.getD []
  match Text.natural? 10 (whole ++ places) with
  | none => failure
  | some significand =>
    let decimal : Decimal := ⟨significand, exponent.getD 0 - places.length⟩
    if decimal.isFinite then
      let magnitude := if decimal.leading < -400 then 0
        else Float.ofScientific (significand * Nat.pow 10 decimal.exponent.toNat) true
          (-decimal.exponent).toNat
      return if negative then -magnitude else magnitude
    else if negative then return -1 / 0
    else failure

def float : Scan Float := do
  let negative ← sign
  specialFloat negative <|> ordinaryFloat negative

/-- So many decimal digits, as a number in a range. -/
def fixedDigits (count low high : Nat) : Scan Nat := do
  let text ← upTo count (satisfying Char.isDigit)
  match Text.natural? 10 text with
  | some value =>
    if text.length = count ∧ low ≤ value ∧ value ≤ high then return value else failure
  | none => failure

def isLeapYear (year : Nat) : Bool := year % 4 == 0 && (year % 100 != 0 || year % 400 == 0)

def daysInMonth (year month : Nat) : Nat :=
  if month = 2 then (if isLeapYear year then 29 else 28)
  else if month = 4 ∨ month = 6 ∨ month = 9 ∨ month = 11 then 30
  else 31

def date : Scan Unit := do
  let year ← fixedDigits 4 0 9999
  char '-'
  let month ← fixedDigits 2 1 12
  char '-'
  let _ ← fixedDigits 2 1 (daysInMonth year month)

/-- A time of day; a minute may have a leap second. -/
def time : Scan Unit := do
  let _ ← fixedDigits 2 0 23
  char ':'
  let _ ← fixedDigits 2 0 59
  char ':'
  let _ ← fixedDigits 2 0 60
  let _ ← optional do
    char '.'
    let _ ← satisfying Char.isDigit
    let _ ← spanning Char.isDigit

def offset : Scan Unit :=
  (do let _ ← satisfying fun c => c == 'Z' || c == 'z') <|> do
    let _ ← satisfying fun c => c == '+' || c == '-'
    let _ ← fixedDigits 2 0 23
    char ':'
    let _ ← fixedDigits 2 0 59

/-- A date, a time or both, with an offset if there are both. -/
def dateTime : Scan Unit :=
  (do
    date
    let _ ← optional do
      let _ ← satisfying fun c => c == 'T' || c == 't' || c == ' '
      time
      optional offset) <|> time

end Retarget.Toml
