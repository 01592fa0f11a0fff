import Retarget.Text
import Retarget.Text.Digits
import Retarget.Data
import Retarget.Decimal.Finite
import Retarget.Decimal.Style

/-! Scalars of block YAML: a text is written plain where it reads back as that text, else between
single quotes, as a literal block if it has several lines, or between double quotes if nothing else
can hold its characters. -/
namespace Retarget.Yaml

open Retarget.Text

/-- Characters that may stand unescaped. -/
def isPrintable (c : Char) : Bool :=
  let n := c.toNat
  (0x20 ≤ n && n ≤ 0x7e) || n == 0x85 || (0xa0 ≤ n && n ≤ 0xd7ff) ||
    (0xe000 ≤ n && n ≤ 0xfffd && n != 0xfeff) || 0x10000 ≤ n

/-- Hexadecimal digits, at least `width` of them. -/
def hexDigits (width n : Nat) : List Char :=
  let digits := (Nat.toDigits 16 n).map Char.toUpper
  List.replicate (width - digits.length) '0' ++ digits

/-- A character between double quotes. -/
def escape (c : Char) : List Char :=
  let n := c.toNat
  if c = '"' then ['\\', '"']
  else if c = '\\' then ['\\', '\\']
  else if n = 0x00 then ['\\', '0']
  else if n = 0x07 then ['\\', 'a']
  else if n = 0x08 then ['\\', 'b']
  else if n = 0x09 then ['\\', 't']
  else if n = 0x0a then ['\\', 'n']
  else if n = 0x0b then ['\\', 'v']
  else if n = 0x0c then ['\\', 'f']
  else if n = 0x0d then ['\\', 'r']
  else if n = 0x1b then ['\\', 'e']
  else if isPrintable c then [c]
  else if n ≤ 0xff then '\\' :: 'x' :: hexDigits 2 n
  else if n ≤ 0xffff then '\\' :: 'u' :: hexDigits 4 n
  else '\\' :: 'U' :: hexDigits 8 n

def doubleQuoted (text : List Char) : List Char := '"' :: text.flatMap escape ++ ['"']

def singleQuoted (text : List Char) : List Char :=
  '\'' :: text.flatMap (fun c => if c = '\'' then ['\'', '\''] else [c]) ++ ['\'']

/-- A sign, `true` for minus, and the rest. -/
def splitSign : List Char → Bool × List Char
  | '+' :: rest => (false, rest)
  | '-' :: rest => (true, rest)
  | text => (false, text)

/-- Whether a text would read back as an integer of 128 bits: decimal digits, or digits after one of
the marks `0x`, `0o` and `0b`. -/
def readsAsInteger (text : List Char) : Bool :=
  let (negative, body) := splitSign text
  let value := match body with
    | '0' :: 'x' :: rest => natural? 16 rest
    | '0' :: 'o' :: rest => natural? 8 rest
    | '0' :: 'b' :: rest => natural? 2 rest
    | _ => natural? 10 body
  match value with
  | none => false
  | some value => if negative then value ≤ Nat.pow 2 127 else value < Nat.pow 2 128

/-- Digits with a leading zero, which some readers take for a number. -/
def hasLeadingZero (text : List Char) : Bool :=
  match (splitSign text).2 with
  | '0' :: digit :: rest => (digit :: rest).all Char.isDigit
  | _ => false

/-- The exponent part of a number: nothing, or `e`, an optional sign and digits. -/
def exponent? : List Char → Option Int
  | [] => some 0
  | mark :: rest =>
    if mark = 'e' ∨ mark = 'E' then do
      let (negative, digits) := splitSign rest
      let value ← natural? 10 digits
      return if negative then -value else value
    else none

/-- Whether a text would read back as a finite decimal number. -/
def readsAsDecimal (text : List Char) : Bool :=
  let body := (splitSign text).2
  let whole := body.takeWhile Char.isDigit
  let rest := body.dropWhile Char.isDigit
  let (fraction, rest) := match rest with
    | '.' :: rest => (rest.takeWhile Char.isDigit, rest.dropWhile Char.isDigit)
    | _ => ([], rest)
  match natural? 10 (whole ++ fraction), exponent? rest with
  | some significand, some exponent =>
    Decimal.isFinite ⟨significand, exponent - fraction.length⟩
  | _, _ => false

/-- The words that a reader takes for no value, a truth value, an infinity or NaN. -/
def reservedWords : List String :=
  ["", "~", "null", "Null", "NULL", "true", "True", "TRUE", "false", "False", "FALSE",
    ".inf", ".Inf", ".INF", "+.inf", "+.Inf", "+.INF", "-.inf", "-.Inf", "-.INF",
    ".nan", ".NaN", ".NAN"]

/-- Whether a text, written plain, would read back as something other than that text. -/
def readsAsOther (text : List Char) : Bool :=
  reservedWords.contains (String.ofList text) || readsAsInteger text || hasLeadingZero text ||
    readsAsDecimal text

/-- Whether some colon is followed by a blank or the end, or some `#` preceded by a blank. -/
def hasIndicator : List Char → Bool
  | [] => false
  | [c] => c == ':'
  | c :: next :: rest =>
    (c == ':' && next == ' ') || (c == ' ' && next == '#') || hasIndicator (next :: rest)

/-- Whether the syntax lets a text stand plain. -/
def mayStandPlain (text : List Char) : Bool :=
  !text.isEmpty && text.head? != some ' ' && text.getLast? != some ' ' &&
    !("---".toList.isPrefixOf text) && !("...".toList.isPrefixOf text) &&
    !(text.head?.any fun c => "#,[]\x7b\x7d&*!|>'\"%@`".toList.contains c) &&
    !(match text with
      | [c] => c == '-' || c == '?'
      | c :: next :: _ => (c == '-' || c == '?') && next == ' '
      | [] => false) &&
    !hasIndicator text

/-- Whether some blank stands right before a line break. -/
def hasBlankBeforeBreak : List Char → Bool
  | c :: next :: rest => (c == ' ' && next == '\n') || hasBlankBeforeBreak (next :: rest)
  | _ => false

/-- A scalar as it stands in a document: on its line, or as a header and the lines of a block. -/
inductive Scalar where
  | inline (text : List Char)
  | block (header : List Char) (lines : List (List Char))

/-- The header of a literal block: an explicit indentation where the text starts with a blank or a
break, and what becomes of the line breaks at the end. -/
def blockHeader (text : List Char) : List Char :=
  let start := if text.head? = some ' ' ∨ text.head? = some '\n' then ['2'] else []
  let breaks := (text.reverse.takeWhile (· == '\n')).length
  let ending := if breaks = 0 then ['-'] else if breaks = text.length ∨ breaks ≥ 2 then ['+'] else []
  '|' :: start ++ ending

/-- A literal block for a text with line breaks. -/
def literalBlock (text : List Char) : Scalar :=
  let pieces := splitOn '\n' text
  .block (blockHeader text) (if pieces.getLast? = some [] then pieces.dropLast else pieces)

/-- How a text is written. -/
def ofText (text : List Char) : Scalar :=
  let special := text.any fun c => c != '\n' && !isPrintable c
  if text.contains '\n' then
    if special || text.getLast? == some ' ' || hasBlankBeforeBreak text then
      .inline (doubleQuoted text)
    else literalBlock text
  else if special then .inline (doubleQuoted text)
  else if readsAsOther text || !mayStandPlain text then .inline (singleQuoted text)
  else .inline text

end Retarget.Yaml
