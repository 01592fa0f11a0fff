import Retarget.CSharp.Overrides

/-! Literals of C# as they are read. A regular literal denotes what its characters and escapes stand for and ends at the
first quote that is not escaped; it has no end of a line in it. A verbatim literal denotes its characters and ends at the
first quote that is not doubled. Reading takes back what is written, whatever follows it. -/
namespace Retarget.CSharp

/-- Characters that C# takes for ends of lines. -/
def endsLine (c : Char) : Bool := [0x0a, 0x0d, 0x85, 0x2028, 0x2029].contains c.toNat

/-- Ends of lines that have no escape. -/
def endsLineRaw (c : Char) : Bool := [0x85, 0x2028, 0x2029].contains c.toNat

/-- What the character behind a backslash stands for. -/
def unescape? : Char → Option Char
  | '"' => some '"'
  | '\\' => some '\\'
  | 'n' => some '\n'
  | 'r' => some '\r'
  | 't' => some '\t'
  | '0' => some (Char.ofNat 0)
  | _ => none

/-- A character in front of a value that was read. -/
def before (c : Char) (read : List Char × List Char) : List Char × List Char := (c :: read.1, read.2)

/-- Reads the inside of a regular literal and the quote that ends it: the value, and what follows. -/
def readInside : List Char → Option (List Char × List Char)
  | [] => none
  | c :: rest =>
    if c = '"' then some ([], rest)
    else if c = '\\' then
      match rest with
      | [] => none
      | escaped :: rest => (unescape? escaped).bind fun c => (readInside rest).map (before c)
    else if endsLine c then none
    else (readInside rest).map (before c)

/-- Reads a regular literal. -/
def readLiteral : List Char → Option (List Char × List Char)
  | '"' :: rest => readInside rest
  | _ => none

/-- Reads the inside of a verbatim literal and the quote that ends it. -/
def readVerbatimInside : List Char → Option (List Char × List Char)
  | [] => none
  | c :: rest =>
    if c = '"' then
      match rest with
      | '"' :: rest => (readVerbatimInside rest).map (before '"')
      | rest => some ([], rest)
    else (readVerbatimInside rest).map (before c)

/-- Reads a verbatim literal. -/
def readVerbatim : List Char → Option (List Char × List Char)
  | '@' :: '"' :: rest => readVerbatimInside rest
  | _ => none

section Regular

theorem readInside_quote (rest : List Char) : readInside ('"' :: rest) = some ([], rest) := by
  cases rest <;> rfl

theorem readInside_escaped (escaped c : Char) (known : unescape? escaped = some c) (rest : List Char) :
    readInside ('\\' :: escaped :: rest) = (readInside rest).map (before c) := by
  rw [readInside, if_neg (by decide), if_pos rfl, known, Option.bind_some]

theorem readInside_plain (c : Char) (quote : c ≠ '"') (backslash : c ≠ '\\') (rest : List Char) :
    readInside (c :: rest) = if endsLine c then none else (readInside rest).map (before c) := by
  cases rest <;> simp [readInside, quote, backslash]

/-- A written character is read as itself, unless it ends a line and has no escape. -/
theorem readInside_escape (c : Char) (rest : List Char) :
    readInside (escape c ++ rest) = if endsLineRaw c then none else (readInside rest).map (before c) := by
  by_cases quote : c = '"'
  · subst quote
    exact readInside_escaped '"' '"' rfl rest
  by_cases backslash : c = '\\'
  · subst backslash
    exact readInside_escaped '\\' '\\' rfl rest
  by_cases lineFeed : c = '\n'
  · subst lineFeed
    exact readInside_escaped 'n' '\n' rfl rest
  by_cases carriageReturn : c = '\r'
  · subst carriageReturn
    exact readInside_escaped 'r' '\r' rfl rest
  by_cases tab : c = '\t'
  · subst tab
    exact readInside_escaped 't' '\t' rfl rest
  by_cases null : c.toNat = 0
  · obtain rfl : c = Char.ofNat 0 := by rw [← null, Char.ofNat_toNat]
    exact readInside_escaped '0' (Char.ofNat 0) rfl rest
  have plain : escape c = [c] := by
    rw [escape, if_neg quote, if_neg backslash, if_neg lineFeed, if_neg carriageReturn, if_neg tab, if_neg null]
  have ends : endsLine c = endsLineRaw c := by
    have first : c.toNat ≠ 0x0a := fun same => lineFeed (by rw [← Char.ofNat_toNat c, same])
    have second : c.toNat ≠ 0x0d := fun same => carriageReturn (by rw [← Char.ofNat_toNat c, same])
    rw [endsLine, endsLineRaw, List.contains_cons, List.contains_cons, beq_false_of_ne first, beq_false_of_ne second]
    rfl
  rw [plain, List.singleton_append, readInside_plain c quote backslash, ends]

/-- A literal is read as its value, if this has no end of a line without an escape. Otherwise it is no literal. -/
theorem readLiteral_quote (value rest : List Char) :
    readLiteral (quote value ++ rest) = if value.any endsLineRaw then none else some (value, rest) := by
  have inside : readInside (value.flatMap escape ++ '"' :: rest) =
      if value.any endsLineRaw then none else some (value, rest) := by
    induction value with
    | nil => exact readInside_quote rest
    | cons c value ih =>
      rw [List.flatMap_cons, List.append_assoc, readInside_escape, ih, List.any_cons]
      cases endsLineRaw c with
      | true => rfl
      | false => cases value.any endsLineRaw <;> rfl
  rw [← inside, quote, List.cons_append, List.cons_append, List.append_assoc]
  rfl

end Regular

section Verbatim

theorem readVerbatimInside_doubled (rest : List Char) :
    readVerbatimInside ('"' :: '"' :: rest) = (readVerbatimInside rest).map (before '"') := rfl

theorem readVerbatimInside_last (rest : List Char) (apart : rest.head? ≠ some '"') :
    readVerbatimInside ('"' :: rest) = some ([], rest) := by
  rw [readVerbatimInside, if_pos rfl]
  rintro other rfl
  exact apart rfl

theorem readVerbatimInside_plain (c : Char) (other : c ≠ '"') (rest : List Char) :
    readVerbatimInside (c :: rest) = (readVerbatimInside rest).map (before c) := by
  rw [readVerbatimInside.eq_def]
  exact if_neg other

/-- A verbatim literal is read as its value, if there is no quote behind it. -/
theorem readVerbatim_quoteVerbatim (value rest : List Char) (apart : rest.head? ≠ some '"') :
    readVerbatim (quoteVerbatim value ++ rest) = some (value, rest) := by
  have inside : readVerbatimInside (value.flatMap (fun c => if c = '"' then ['"', '"'] else [c]) ++ '"' :: rest) =
      some (value, rest) := by
    induction value with
    | nil => exact readVerbatimInside_last rest apart
    | cons c value ih =>
      rw [List.flatMap_cons, List.append_assoc]
      split
      · rename_i quote
        subst quote
        exact (readVerbatimInside_doubled _).trans (congrArg (Option.map (before '"')) ih)
      · rename_i other
        exact (readVerbatimInside_plain c other _).trans (congrArg (Option.map (before c)) ih)
  rw [← inside, quoteVerbatim, List.cons_append, List.cons_append, List.append_assoc]
  rfl

end Verbatim

end Retarget.CSharp
