import Retarget.CSharp.Overrides
import Retarget.Proofs.UnbrokenTexts

/-! Brackets and literals of C#. A text is scanned for the brackets that are open, and for the literals in which
brackets do not count. What it shows outside all brackets are its outermost pieces, where a group of brackets is one
piece. -/
namespace Retarget.CSharp

inductive Bracket where
  | round
  | square
  | curly
  deriving DecidableEq

namespace Bracket

def all : List Bracket := [round, square, curly]

def opening : Bracket → Char
  | round => '('
  | square => '['
  | curly => '\x7b'

def closing : Bracket → Char
  | round => ')'
  | square => ']'
  | curly => '\x7d'

def ofOpening? (c : Char) : Option Bracket := all.find? (·.opening == c)

def ofClosing? (c : Char) : Option Bracket := all.find? (·.closing == c)

end Bracket

/-- What a character stands in. Behind a verbatim literal, a quote goes on with it. -/
inductive Context where
  | code
  /-- Behind the sign that makes a literal verbatim. -/
  | marked
  | quoted
  | escaped
  | verbatim
  | closed
  deriving DecidableEq

/-- The brackets that are open, the innermost first, and what the next character stands in. -/
structure Position where
  brackets : List Bracket
  context : Context
  deriving DecidableEq

/-- Outside all brackets and literals. -/
def Position.outermost : Position := ⟨[], .code⟩

namespace Position

def nextInCode (position : Position) (c : Char) : Option Position :=
  if c = '"' then some ⟨position.brackets, .quoted⟩
  else if c = '@' then some ⟨position.brackets, .marked⟩
  else
    match Bracket.ofOpening? c, Bracket.ofClosing? c, position.brackets with
    | some bracket, _, brackets => some ⟨bracket :: brackets, .code⟩
    | none, none, brackets => some ⟨brackets, .code⟩
    | none, some bracket, inner :: brackets => if inner = bracket then some ⟨brackets, .code⟩ else none
    | none, some _, [] => none

def next (position : Position) (c : Char) : Option Position :=
  match position.context with
  | .code => position.nextInCode c
  | .closed => if c = '"' then some ⟨position.brackets, .verbatim⟩ else position.nextInCode c
  | .marked => if c = '"' then some ⟨position.brackets, .verbatim⟩ else none
  | .quoted =>
    some ⟨position.brackets, if c = '"' then .code else if c = '\\' then .escaped else .quoted⟩
  | .escaped => some ⟨position.brackets, .quoted⟩
  | .verbatim => some ⟨position.brackets, if c = '"' then .closed else .verbatim⟩

end Position

/-- A piece of a text outside all brackets. -/
inductive Piece where
  | char (c : Char)
  | group (bracket : Bracket)
  | literal
  deriving DecidableEq

/-- The piece that ends with a character, if one does. -/
def Piece.ending (before after : Position) (c : Char) : List Piece :=
  match before.brackets, after.brackets with
  | [bracket], [] => [group bracket]
  | [], [] =>
    match before.context, after.context with
    | .quoted, .code | .verbatim, .closed => [literal]
    | .code, .code | .closed, .code => [char c]
    | _, _ => []
  | _, _ => []

/-- The position behind a text, and the pieces that end in it. -/
def scan (position : Position) : List Char → Option (Position × List Piece)
  | [] => some (position, [])
  | c :: rest => do
    let after ← position.next c
    let (final, pieces) ← scan after rest
    return (final, Piece.ending position after c ++ pieces)

section Scan

variable {first middle last : Position} {chars others : List Char} {pieces rest : List Piece}

theorem scan_cons (c : Char) (steps : first.next c = some middle) (scanned : scan middle chars = some (last, pieces)) :
    scan first (c :: chars) = some (last, Piece.ending first middle c ++ pieces) := by
  rw [scan, steps, Option.bind_eq_bind, Option.bind_some, scanned]
  rfl

theorem exists_of_scan_cons {c : Char} (scanned : scan first (c :: chars) = some (last, pieces)) :
    ∃ after inner, first.next c = some after ∧ scan after chars = some (last, inner) ∧
      pieces = Piece.ending first after c ++ inner := by
  simp only [scan, Option.bind_eq_bind, Option.bind_eq_some_iff, Option.pure_def, Option.some.injEq] at scanned
  obtain ⟨after, steps, ⟨final, inner⟩, scanned, same⟩ := scanned
  cases same
  exact ⟨after, inner, steps, scanned, rfl⟩

theorem scan_append (scanned : scan first chars = some (middle, pieces))
    (continued : scan middle others = some (last, rest)) :
    scan first (chars ++ others) = some (last, pieces ++ rest) := by
  induction chars generalizing first pieces with
  | nil =>
    cases scanned
    exact continued
  | cons c chars ih =>
    obtain ⟨after, inner, steps, later, rfl⟩ := exists_of_scan_cons scanned
    rw [List.cons_append, List.append_assoc]
    exact scan_cons c steps (ih later)

/-- What is scanned behind a text. -/
theorem exists_of_scan_append (scanned : scan first (chars ++ others) = some (last, pieces))
    (before : scan first chars = some (middle, rest)) : ∃ following, scan middle others = some (last, following) := by
  induction chars generalizing first pieces rest with
  | nil =>
    cases before
    exact ⟨pieces, scanned⟩
  | cons c chars ih =>
    obtain ⟨after, inner, steps, continued, rfl⟩ := exists_of_scan_cons scanned
    obtain ⟨_, other, alsoSteps, earlier, rfl⟩ := exists_of_scan_cons before
    cases steps.symm.trans alsoSteps
    exact ih continued earlier

/-- Brackets around a text stay open. -/
theorem Position.next_around (c : Char) (around : List Bracket) (steps : first.next c = some middle) :
    Position.next ⟨first.brackets ++ around, first.context⟩ c = some ⟨middle.brackets ++ around, middle.context⟩ := by
  obtain ⟨brackets, context⟩ := first
  cases context <;> simp only [next, nextInCode] at steps ⊢ <;> grind

theorem scan_around (bracket : Bracket) (around : List Bracket) (scanned : scan first chars = some (last, pieces)) :
    scan ⟨first.brackets ++ bracket :: around, first.context⟩ chars =
      some (⟨last.brackets ++ bracket :: around, last.context⟩, []) := by
  have inside (brackets : List Bracket) : brackets ++ bracket :: around ≠ [] := by simp
  induction chars generalizing first pieces with
  | nil =>
    cases scanned
    rfl
  | cons c chars ih =>
    obtain ⟨after, inner, steps, later, rfl⟩ := exists_of_scan_cons scanned
    have nothing (before after : Position) (within : after.brackets ≠ []) : Piece.ending before after c = [] := by
      rw [Piece.ending]
      split <;> grind
    have continued := scan_cons c (Position.next_around c _ steps) (ih later)
    rw [nothing _ _ (inside _)] at continued
    exact continued

end Scan

/-- A text in which all brackets and literals are complete, and its outermost pieces. -/
def Shows (chars : List Char) (pieces : List Piece) : Prop := scan .outermost chars = some (.outermost, pieces)

instance (chars : List Char) (pieces : List Piece) : Decidable (Shows chars pieces) :=
  inferInstanceAs (Decidable (_ = _))

/-- A text in which all brackets and literals are complete. -/
def Balanced (chars : List Char) : Prop := ∃ pieces, Shows chars pieces

section Shows

variable {chars others : List Char} {pieces rest : List Piece}

theorem Shows.nil : Shows [] [] := rfl

theorem Shows.append (shows : Shows chars pieces) (following : Shows others rest) :
    Shows (chars ++ others) (pieces ++ rest) := scan_append shows following

theorem Shows.unique (shows : Shows chars pieces) (other : Shows chars rest) : pieces = rest := by
  cases shows.symm.trans other
  rfl

/-- A balanced text changes nothing where it stands in code. -/
theorem Balanced.scan_eq (balanced : Balanced chars) (brackets : List Bracket) :
    ∃ pieces, scan ⟨brackets, .code⟩ chars = some (⟨brackets, .code⟩, pieces) := by
  obtain ⟨pieces, shows⟩ := balanced
  cases brackets with
  | nil => exact ⟨pieces, shows⟩
  | cons bracket around => exact ⟨[], scan_around bracket around shows⟩

theorem Balanced.nil : Balanced [] := ⟨[], rfl⟩

theorem Balanced.append (balanced : Balanced chars) (following : Balanced others) : Balanced (chars ++ others) :=
  have ⟨_, shows⟩ := balanced
  have ⟨_, following⟩ := following
  ⟨_, shows.append following⟩

/-- Brackets around a balanced text make one piece. -/
theorem Shows.group (bracket : Bracket) (balanced : Balanced chars) :
    Shows (bracket.opening :: chars ++ [bracket.closing]) [.group bracket] := by
  have opens : Position.next .outermost bracket.opening = some ⟨[bracket], .code⟩ := by cases bracket <;> decide
  have closes : scan ⟨[bracket], .code⟩ [bracket.closing] = some (.outermost, [.group bracket]) := by
    cases bracket <;> decide
  obtain ⟨pieces, inner⟩ := balanced
  have opened := scan_cons bracket.opening opens (scan_around bracket [] inner)
  have nothing : Piece.ending .outermost ⟨[bracket], .code⟩ bracket.opening = [] := by cases bracket <;> decide
  rw [nothing] at opened
  exact scan_append opened closes

/-- Brackets, and what literals start with. -/
def marks : List Char := Bracket.all.map Bracket.opening ++ Bracket.all.map Bracket.closing ++ ['"', '@']

def isPlain (c : Char) : Bool := !marks.contains c

/-- Characters of a sort are plain if no mark is of that sort. -/
theorem isPlain_of {sort : Char → Bool} (none : marks.all (!sort ·) = true) (c : Char) (ofSort : sort c = true) :
    isPlain c = true := by
  rw [isPlain, Bool.not_eq_true', ← Bool.not_eq_true, List.contains_iff_mem]
  intro mark
  have other := List.all_eq_true.mp none c mark
  rw [ofSort] at other
  cases other

theorem next_plain (brackets : List Bracket) (c : Char) (plain : isPlain c = true) :
    Position.next ⟨brackets, .code⟩ c = some ⟨brackets, .code⟩ := by
  have opens : Bracket.ofOpening? c = none := by
    rw [Bracket.ofOpening?, List.find?_eq_none]
    rintro bracket - same
    cases (beq_iff_eq.mp same : bracket.opening = c)
    cases bracket <;> exact absurd plain (by decide)
  have closes : Bracket.ofClosing? c = none := by
    rw [Bracket.ofClosing?, List.find?_eq_none]
    rintro bracket - same
    cases (beq_iff_eq.mp same : bracket.closing = c)
    cases bracket <;> exact absurd plain (by decide)
  have other (mark : Char) (isMark : mark ∈ marks) : c ≠ mark := by
    rintro rfl
    rw [isPlain, List.contains_iff_mem.mpr isMark] at plain
    cases plain
  simp [Position.next, Position.nextInCode, opens, closes, other '"' (by decide), other '@' (by decide)]

theorem Shows.plain (plain : ∀ c ∈ chars, isPlain c = true) : Shows chars (chars.map .char) := by
  induction chars with
  | nil => exact .nil
  | cons c chars ih =>
    rw [List.forall_mem_cons] at plain
    exact scan_cons c (next_plain [] c plain.1) (ih plain.2)

theorem Balanced.plain (plain : ∀ c ∈ chars, isPlain c = true) : Balanced chars := ⟨_, .plain plain⟩

/-- A piece is a character of the text, or there is a character that ends it. -/
def Piece.last : Piece → Char
  | char c => c
  | group bracket => bracket.closing
  | literal => '"'

theorem Piece.last_of_mem_ending {before after : Position} {c : Char} (steps : before.next c = some after)
    (piece : Piece) (ends : piece ∈ Piece.ending before after c) : piece.last = c := by
  have closing (bracket : Bracket) (found : Bracket.ofClosing? c = some bracket) : bracket.closing = c := by
    simpa using List.find?_some found
  obtain ⟨brackets, context⟩ := before
  rw [Piece.ending] at ends
  cases context <;> simp only [Position.next, Position.nextInCode] at steps <;> grind [Piece.last]

theorem last_mem_of_scan {first final : Position} (scanned : scan first chars = some (final, pieces)) :
    ∀ piece ∈ pieces, piece.last ∈ chars := by
  induction chars generalizing first pieces with
  | nil =>
    cases scanned
    exact List.forall_mem_nil _
  | cons c chars ih =>
    simp only [scan, Option.bind_eq_bind, Option.bind_eq_some_iff, Option.pure_def, Option.some.injEq] at scanned
    obtain ⟨after, steps, ⟨last, inner⟩, scanned, same⟩ := scanned
    cases same
    rw [List.forall_mem_append]
    exact ⟨fun piece ends => List.mem_cons.mpr (.inl (Piece.last_of_mem_ending steps piece ends)),
      fun piece later => List.mem_cons_of_mem c (ih scanned piece later)⟩

theorem scan_flatMap (position : Position) (write : Char → List Char) (value : List Char)
    (stays : ∀ c, ∃ pieces, scan position (write c) = some (position, pieces)) :
    ∃ pieces, scan position (value.flatMap write) = some (position, pieces) := by
  induction value with
  | nil => exact ⟨[], rfl⟩
  | cons c value ih =>
    obtain ⟨first, here⟩ := stays c
    obtain ⟨rest, later⟩ := ih
    rw [List.flatMap_cons]
    exact ⟨first ++ rest, scan_append here later⟩

/-- An escaped literal is one piece. -/
theorem Shows.quote (value : List Char) : Shows (quote value) [.literal] := by
  have inner : scan ⟨[], .quoted⟩ (value.flatMap escape) = some (⟨[], .quoted⟩, []) := by
    induction value with
    | nil => rfl
    | cons c value ih =>
      have here : scan ⟨[], .quoted⟩ (escape c) = some (⟨[], .quoted⟩, []) := by
        unfold escape
        split_ifs with isQuote isMark
        iterate 6 rfl
        · have steps : Position.next ⟨[], .quoted⟩ c = some ⟨[], .quoted⟩ := by
            simp only [Position.next, if_neg isQuote, if_neg isMark]
          exact scan_cons c steps rfl
      rw [List.flatMap_cons]
      exact scan_append here ih
  have opened : scan .outermost ('"' :: value.flatMap escape) = some (⟨[], .quoted⟩, []) :=
    scan_cons '"' rfl inner
  exact scan_append opened rfl

/-- A verbatim literal ends where no quote follows. -/
theorem scan_quoteVerbatim (value : List Char) :
    ∃ pieces, scan .outermost (quoteVerbatim value) = some (⟨[], .closed⟩, pieces) := by
  obtain ⟨pieces, inner⟩ := scan_flatMap ⟨[], .verbatim⟩ (fun c => if c = '"' then ['"', '"'] else [c]) value
    fun c => by
      split
      · exact ⟨_, rfl⟩
      · rename_i other
        have steps : Position.next ⟨[], .verbatim⟩ c = some ⟨[], .verbatim⟩ := by
          simp only [Position.next, if_neg other]
        exact ⟨_, scan_cons c steps rfl⟩
  have opened : scan .outermost ('@' :: '"' :: value.flatMap fun c => if c = '"' then ['"', '"'] else [c]) = _ :=
    scan_cons '@' rfl (scan_cons '"' rfl inner)
  exact ⟨_, scan_append opened rfl⟩

end Shows

end Retarget.CSharp
