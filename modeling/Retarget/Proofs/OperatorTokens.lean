import Mathlib
import Retarget.Proofs.BlanklessTexts
import Retarget.Proofs.OperatorGrammar

/-! Tokens of a text. Every token takes as many characters as it can: two minus signs in a row are a
decrement, and no prefix operators. -/
namespace Retarget.CSharp

/-- Symbols of two characters. -/
def doubleSymbols : List (Char × Char) :=
  [('|', '|'), ('&', '&'), ('=', '='), ('!', '='), ('<', '='), ('>', '='), ('<', '<'), ('>', '>'), ('+', '+'),
    ('-', '-')]

/-- Whether a character goes on with the token that some characters start. -/
def goesOn (read : List Char) (c : Char) : Bool :=
  match read with
  | [] => false
  | first :: rest =>
    if continuesName first then continuesName c else rest.isEmpty && doubleSymbols.contains (first, c)

def Identifier.ofChars? (word : List Char) : Option Identifier :=
  if valid : word.head?.any startsName = true ∧ word.all continuesName = true then
    some ⟨String.ofList word, by rw [String.toList_ofList]; exact valid.1, by rw [String.toList_ofList]; exact valid.2⟩
  else none

/-- The token that some characters make; blanks and nothing make none. -/
def tokenOf (read : List Char) : Option (List Token) :=
  match read with
  | [] => some []
  | first :: _ =>
    if read.all Char.isDigit then some [.number (Nat.ofDigitChars 10 read 0)]
    else if continuesName first then do return [.name (← Identifier.ofChars? read)]
    else if first.isWhitespace then some []
    else if read = ['('] then some [.opening]
    else if read = [')'] then some [.closing]
    else some [.symbol (String.ofList read)]

/-- The tokens of the rest of a text, some characters of the current one being read. -/
def tokensFrom (read : List Char) : List Char → Option (List Token)
  | [] => tokenOf read
  | c :: rest =>
    if goesOn read c then tokensFrom (read ++ [c]) rest
    else do return (← tokenOf read) ++ (← tokensFrom [c] rest)

def tokens (text : List Char) : Option (List Token) := tokensFrom [] text

/-- What a text stands for. -/
def Reads (text : String) (expression : Expression) : Prop :=
  ∃ found, tokens text.toList = some found ∧ Derives 1 found expression

/-- Tokens before others. -/
def prepend (read : List Token) (others : Option (List Token)) : Option (List Token) := others.map (read ++ ·)

theorem prepend_prepend (first second : List Token) (others : Option (List Token)) :
    prepend first (prepend second others) = prepend (first ++ second) others := by
  cases others with
  | none => rfl
  | some others => exact congrArg some (List.append_assoc ..).symm

theorem tokens_cons (c : Char) (rest : List Char) : tokens (c :: rest) = tokensFrom [c] rest := by
  have nothing : tokens (c :: rest) = (do return [] ++ (← tokensFrom [c] rest)) := rfl
  rw [nothing]
  exact bind_pure _

/-- A token ends where a character does not go on with it. -/
theorem tokensFrom_of_ends (read : List Char) (found : List Token) (made : tokenOf read = some found) (rest : List Char)
    (ends : ∀ c ∈ rest.head?, goesOn read c = false) : tokensFrom read rest = prepend found (tokens rest) := by
  cases rest with
  | nil => rw [tokensFrom, made, prepend, tokens, tokensFrom, tokenOf, Option.map_some, List.append_nil]
  | cons c rest =>
    rw [tokensFrom, ends c rfl, made, tokens_cons]
    cases tokensFrom [c] rest <;> rfl

/-- Whether each of some characters goes on with the token that those before it start. -/
def grows (read : List Char) : List Char → Bool
  | [] => true
  | c :: rest => goesOn read c && grows (read ++ [c]) rest

theorem tokensFrom_of_grows (read text rest : List Char) (growing : grows read text = true) :
    tokensFrom read (text ++ rest) = tokensFrom (read ++ text) rest := by
  induction text generalizing read with
  | nil => rw [List.append_nil, List.nil_append]
  | cons c text ih =>
    rw [grows, Bool.and_eq_true] at growing
    rw [List.cons_append, tokensFrom, if_pos growing.1, ih _ growing.2, List.append_assoc, List.singleton_append]

/-- Whether some characters are read as one token. -/
def isToken : List Char → Bool
  | [] => false
  | c :: rest => grows [c] rest

theorem tokens_token (text : List Char) (whole : isToken text = true) (found : List Token)
    (made : tokenOf text = some found) (rest : List Char) (ends : ∀ c ∈ rest.head?, goesOn text c = false) :
    tokens (text ++ rest) = prepend found (tokens rest) := by
  cases text with
  | nil => cases whole
  | cons c text =>
    rw [List.cons_append, tokens_cons, tokensFrom_of_grows [c] text rest whole]
    exact tokensFrom_of_ends (c :: text) found made rest ends

theorem tokens_blank (rest : List Char) : tokens (' ' :: rest) = tokens rest := by
  have alone (c : Char) : goesOn [' '] c = false := by simp [goesOn, doubleSymbols, continuesName, startsName]
  exact (tokens_token [' '] rfl [] rfl rest fun c _ => alone c).trans Option.map_id'

theorem tokens_opening (rest : List Char) : tokens ('(' :: rest) = prepend [.opening] (tokens rest) := by
  have alone (c : Char) : goesOn ['('] c = false := by simp [goesOn, doubleSymbols, continuesName, startsName]
  exact tokens_token ['('] rfl _ (by decide) rest fun c _ => alone c

theorem tokens_closing (rest : List Char) : tokens (')' :: rest) = prepend [.closing] (tokens rest) := by
  have alone (c : Char) : goesOn [')'] c = false := by simp [goesOn, doubleSymbols, continuesName, startsName]
  exact tokens_token [')'] rfl _ (by decide) rest fun c _ => alone c

theorem tokens_binary (op : BinaryOperator) (rest : List Char) :
    tokens (op.symbol.toList ++ ' ' :: rest) = prepend [.symbol op.symbol] (tokens rest) := by
  have whole : isToken op.symbol.toList = true := by cases op <;> decide
  have made : tokenOf op.symbol.toList = some [.symbol op.symbol] := by cases op <;> decide
  have ends : goesOn op.symbol.toList ' ' = false := by cases op <;> decide
  rw [tokens_token _ whole _ made (' ' :: rest) fun c first => by cases first; exact ends, tokens_blank]

theorem tokens_prefix (op : PrefixOperator) (rest : List Char)
    (apart : ∀ c ∈ rest.head?, goesOn op.symbol.toList c = false) :
    tokens (op.symbol.toList ++ rest) = prepend [.symbol op.symbol] (tokens rest) := by
  have whole : isToken op.symbol.toList = true := by cases op <;> decide
  have made : tokenOf op.symbol.toList = some [.symbol op.symbol] := by cases op <;> decide
  exact tokens_token _ whole _ made rest apart

section Words

theorem grows_of_continuesName (read text : List Char) (nonempty : read ≠ [])
    (name : ∀ c ∈ read ++ text, continuesName c = true) : grows read text = true := by
  induction text generalizing read with
  | nil => rfl
  | cons c text ih =>
    have goes : goesOn read c = true := by
      cases read with
      | nil => exact absurd rfl nonempty
      | cons first read => rw [goesOn, if_pos (name first List.mem_cons_self), name c (by simp)]
    rw [grows, goes, Bool.true_and]
    exact ih (read ++ [c]) (by simp) (by simpa using name)

/-- A character that ends words: blanks and closing parentheses do. -/
theorem goesOn_word (word : List Char) (name : ∀ c ∈ word, continuesName c = true) (c : Char)
    (other : continuesName c = false) : goesOn word c = false := by
  cases word with
  | nil => rfl
  | cons first rest => rw [goesOn, if_pos (name first List.mem_cons_self), other]

theorem tokens_word (word : List Char) (nonempty : word ≠ []) (name : ∀ c ∈ word, continuesName c = true)
    (found : List Token) (made : tokenOf word = some found) (rest : List Char)
    (ends : ∀ c ∈ rest.head?, continuesName c = false) : tokens (word ++ rest) = prepend found (tokens rest) := by
  refine tokens_token word ?_ found made rest fun c first => goesOn_word word name c (ends c first)
  cases word with
  | nil => exact absurd rfl nonempty
  | cons first word => exact grows_of_continuesName [first] word (List.cons_ne_nil _ _) name

theorem continuesName_of_isDigit (c : Char) (digit : c.isDigit = true) : continuesName c = true := by
  rw [continuesName, digit, Bool.or_true]

theorem isBlank_of_startsName (c : Char) (starts : startsName c = true) : Text.isBlank c = false := by
  rw [startsName, Bool.and_eq_true, Bool.not_eq_true'] at starts
  exact starts.2

theorem not_startsName_of_isDigit (c : Char) (digit : c.isDigit = true) : startsName c = false := by
  have range := toNat_of_isDigit c digit
  have other : c ≠ '_' := by
    rintro rfl
    exact absurd range (by decide)
  have upper : c.isUpper = false := by
    refine decide_eq_false ?_
    simp only [ge_iff_le, UInt32.le_iff_toNat_le]
    change ¬(65 ≤ c.toNat ∧ c.toNat ≤ 90)
    omega
  have lower : c.isLower = false := by
    rw [Char.isLower, Bool.and_eq_false_iff, decide_eq_false_iff_not, decide_eq_false_iff_not]
    simp only [ge_iff_le, UInt32.le_iff_toNat_le]
    change ¬97 ≤ c.toNat ∨ ¬c.toNat ≤ 122
    omega
  rw [startsName, Char.isAlpha, upper, lower, beq_eq_false_iff_ne.mpr other, decide_eq_false (by omega)]
  rfl

theorem Identifier.exists_first (name : Identifier) :
    ∃ first rest, name.text.toList = first :: rest ∧ startsName first = true := by
  have start := name.start
  cases characters : name.text.toList with
  | nil => rw [characters] at start; cases start
  | cons first rest =>
    rw [characters] at start
    exact ⟨first, rest, rfl, start⟩

theorem tokenOf_identifier (name : Identifier) : tokenOf name.text.toList = some [.name name] := by
  obtain ⟨first, rest, characters, start⟩ := name.exists_first
  have other : (first :: rest).all Char.isDigit ≠ true := by
    intro digits
    have digit := List.all_eq_true.mp digits first List.mem_cons_self
    rw [not_startsName_of_isDigit first digit] at start
    cases start
  have continues : continuesName first = true := by rw [continuesName, start, Bool.true_or]
  have same : Identifier.ofChars? (first :: rest) = some name := by
    have valid := And.intro name.start name.rest
    rw [characters] at valid
    have text : String.ofList (first :: rest) = name.text := by rw [← characters, String.ofList_toList]
    rw [Identifier.ofChars?, dif_pos valid]
    exact congrArg some (Identifier.ext text)
  rw [characters, tokenOf, if_neg other, if_pos continues, same]
  rfl

theorem tokenOf_number (value : Nat) : tokenOf (toString value).toList = some [.number value] := by
  rw [toList_toString_nat]
  have digits : (Nat.toDigits 10 value).all Char.isDigit = true :=
    List.all_eq_true.mpr fun c member => Nat.isDigit_of_mem_toDigits (by decide) (by decide) member
  have same : Nat.ofDigitChars 10 (Nat.toDigits 10 value) 0 = value := Nat.ofDigitChars_ten_toDigits
  cases written : Nat.toDigits 10 value with
  | nil => exact absurd written Nat.toDigits_ne_nil
  | cons first rest =>
    rw [written] at digits same
    rw [tokenOf, if_pos digits, same]

end Words
end Retarget.CSharp
