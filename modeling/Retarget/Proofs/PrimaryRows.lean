import Retarget.Proofs.BalancedTexts
import Retarget.Proofs.OperatorTokens

/-! Primary expressions of C#. A postfix form takes the longest primary expression that ends where the form starts, so
it takes all that stands before it exactly if that is a primary expression. A reader goes through the outermost pieces
of a text from the left: it accepts all primary expressions, and nothing else where no type is written. -/
namespace Retarget.CSharp

section Grammar

structure IsWord (chars : List Char) : Prop where
  start : chars.head?.any startsName = true
  rest : chars.all continuesName = true

instance (chars : List Char) : Decidable (IsWord chars) :=
  decidable_of_iff (chars.head?.any startsName = true ∧ chars.all continuesName = true)
    ⟨fun ⟨start, rest⟩ => ⟨start, rest⟩, fun word => ⟨word.start, word.rest⟩⟩

/-- The word that creations start with. -/
def creating : List Char := "new".toList

/-- A word that can name something. Of the keywords, only one matters for how postfix forms are read. -/
structure IsIdentifier (chars : List Char) : Prop extends IsWord chars where
  other : chars ≠ creating

instance (chars : List Char) : Decidable (IsIdentifier chars) :=
  decidable_of_iff (IsWord chars ∧ chars ≠ creating)
    ⟨fun ⟨word, other⟩ => ⟨word, other⟩, fun name => ⟨name.toIsWord, name.other⟩⟩

inductive IsType : List Piece → Prop
  | name {word : List Char} : IsIdentifier word → IsType (word.map .char)
  | generic {word : List Char} {args : List (List Piece)} : IsIdentifier word → args ≠ [] → (∀ arg ∈ args, IsType arg) →
      IsType (word.map .char ++ .char '<' :: [.char ',', .char ' '].intercalate args ++ [.char '>'])
  | array {row : List Piece} : IsType row → IsType (row ++ [.group .square])

inductive Postfix : List Piece → Prop
  | member {word : List Char} : IsWord word → Postfix (.char '.' :: word.map .char)
  | index : Postfix [.group .square]
  | call : Postfix [.group .round]

/-- Postfix forms, one behind the other. -/
inductive Postfixes : List Piece → Prop
  | nil : Postfixes []
  | concat {forms form : List Piece} : Postfixes forms → Postfix form → Postfixes (forms ++ form)

inductive Primary : List Piece → Prop
  | name {word : List Char} : IsIdentifier word → Primary (word.map .char)
  | number {chars : List Char} : Numeral chars → Primary (chars.map .char)
  | literal : Primary [.literal]
  | group : Primary [.group .round]
  | created {type : List Piece} : IsType type →
      Primary (creating.map .char ++ .char ' ' :: type ++ [.group .round])
  | filled {type : List Piece} : IsType type →
      Primary (creating.map .char ++ .char ' ' :: type ++ [.char ' ', .group .curly])
  | applied {row form : List Piece} : Primary row → Postfix form → Primary (row ++ form)

/-- What a postfix form behind a row is applied to: the longest primary expression that the row ends with. -/
structure TakenFrom (row operand : List Piece) : Prop where
  ends : operand <:+ row
  primary : Primary operand
  longest : ∀ other, other <:+ row → Primary other → other.length ≤ operand.length

theorem takenFrom_self_iff (row : List Piece) : TakenFrom row row ↔ Primary row := by
  constructor
  · exact TakenFrom.primary
  · intro primary
    exact ⟨List.suffix_refl row, primary, fun other ends _ => ends.length_le⟩

theorem Primary.append {row forms : List Piece} (primary : Primary row) (postfixes : Postfixes forms) :
    Primary (row ++ forms) := by
  induction postfixes with
  | nil => rwa [List.append_nil]
  | concat _ form ih =>
    rw [← List.append_assoc]
    exact .applied ih form

theorem Magnitude.primary {chars : List Char} (magnitude : Magnitude chars) : Primary (chars.map .char) := by
  cases magnitude with
  | numeral numeral => exact .number numeral
  | infinity => exact .name (by decide)
  | nan => exact .name (by decide)

end Grammar

/-- What has been read of a primary expression. -/
inductive Stage where
  | start
  | name (letters : List Char)
  | number
  | point
  | dot
  | member
  | closed
  | type
  deriving DecidableEq

namespace Stage

/-- Whether a primary expression may have been read. -/
def accepts : Stage → Bool
  | name letters => letters != creating
  | number | member | closed => true
  | _ => false

/-- What the reader takes for a character of a type. -/
def isOfType (c : Char) : Bool := continuesName c || [',', ' ', '<', '>'].contains c

def onChar : Stage → Char → Option Stage
  | start, c => if startsName c then some (name [c]) else if c.isDigit then some number else none
  | name letters, c =>
    if continuesName c then some (name (letters ++ [c]))
    else if letters = creating then if c = ' ' then some type else none
    else if c = '.' then some dot else none
  | number, c => if c.isDigit then some number else if c = '.' then some point else none
  | point, c => if continuesName c then some member else none
  | dot, c => if startsName c then some member else none
  | member, c => if continuesName c then some member else if c = '.' then some dot else none
  | closed, c => if c = '.' then some dot else none
  | type, c => if isOfType c then some type else none

def onGroup (stage : Stage) (bracket : Bracket) : Option Stage :=
  match stage with
  | start => if bracket = .round then some closed else none
  | type => some (if bracket = .square then type else closed)
  | stage => if stage.accepts = true ∧ bracket ≠ .curly then some closed else none

def next (stage : Stage) : Piece → Option Stage
  | .char c => stage.onChar c
  | .group bracket => stage.onGroup bracket
  | .literal => if stage = start then some closed else none

def run (stage : Stage) (row : List Piece) : Option Stage := row.foldlM next stage

@[simp] theorem run_nil (stage : Stage) : stage.run [] = some stage := rfl

@[simp] theorem run_cons (stage : Stage) (piece : Piece) (row : List Piece) :
    stage.run (piece :: row) = (stage.next piece).bind (·.run row) := rfl

@[simp] theorem run_append (stage : Stage) (first second : List Piece) :
    stage.run (first ++ second) = (stage.run first).bind (·.run second) := by
  rw [run, List.foldlM_append]
  rfl

end Stage

section Reading

variable {word : List Char}

theorem IsWord.exists_first (isWord : IsWord word) : ∃ first rest, word = first :: rest ∧ startsName first = true ∧
    ∀ c ∈ rest, continuesName c = true := by
  obtain ⟨start, rest⟩ := isWord
  cases word with
  | nil => cases start
  | cons first letters =>
    rw [List.all_cons, Bool.and_eq_true, List.all_eq_true] at rest
    exact ⟨first, letters, rfl, by simpa using start, rest.2⟩

namespace Stage

theorem run_name (isWord : IsWord word) : start.run (word.map .char) = some (name word) := by
  have later (letters rest : List Char) (continues : ∀ c ∈ rest, continuesName c = true) :
      (name letters).run (rest.map .char) = some (name (letters ++ rest)) := by
    induction rest generalizing letters with
    | nil => simp
    | cons c rest ih =>
      rw [List.forall_mem_cons] at continues
      simp [next, onChar, continues.1, ih _ continues.2]
  obtain ⟨first, rest, rfl, starts, continues⟩ := isWord.exists_first
  simp [next, onChar, starts, later _ _ continues]

theorem run_chars {stage : Stage} (sort : Char → Bool) (reads : ∀ c, sort c = true → stage.next (.char c) = some stage)
    (chars : List Char) (ofSort : ∀ c ∈ chars, sort c = true) : stage.run (chars.map .char) = some stage := by
  induction chars with
  | nil => rfl
  | cons c rest ih =>
    rw [List.forall_mem_cons] at ofSort
    simp [reads c ofSort.1, ih ofSort.2]

/-- Digits lead from where a number or its fraction may start to where it may go on. -/
theorem run_digits {first stage : Stage} {digits : List Char} (isDigits : Digits digits)
    (starts : ∀ c, c.isDigit = true → first.next (.char c) = some stage)
    (reads : ∀ c, c.isDigit = true → stage.next (.char c) = some stage) :
    first.run (digits.map .char) = some stage := by
  cases digits with
  | nil => exact absurd rfl isDigits.some
  | cons c rest =>
    have all := List.forall_mem_cons.mp isDigits.digits
    simp [starts c all.1, run_chars Char.isDigit reads rest all.2]

theorem run_number {chars : List Char} (numeral : Numeral chars) :
    start.run (chars.map .char) = some number ∨ start.run (chars.map .char) = some member := by
  have starts (c : Char) (digit : c.isDigit = true) : start.next (.char c) = some number := by
    simp [next, onChar, digit, not_startsName_of_isDigit c digit]
  have reads (c : Char) (digit : c.isDigit = true) : number.next (.char c) = some number := by
    simp [next, onChar, digit]
  cases numeral with
  | whole digits => exact .inl (run_digits digits starts reads)
  | fraction whole behind =>
    have startsFraction (c : Char) (digit : c.isDigit = true) : point.next (.char c) = some member := by
      simp [next, onChar, continuesName_of_isDigit c digit]
    have readsFraction (c : Char) (digit : c.isDigit = true) : member.next (.char c) = some member := by
      simp [next, onChar, continuesName_of_isDigit c digit]
    right
    rw [List.map_append, List.map_cons, run_append, run_digits whole starts reads, Option.bind_some, run_cons]
    exact run_digits behind startsFraction readsFraction

theorem run_member (isWord : IsWord word) {stage : Stage} (waits : stage = dot ∨ stage = point) :
    stage.run (word.map .char) = some member := by
  obtain ⟨first, rest, rfl, starts, continues⟩ := isWord.exists_first
  have later : member.run (rest.map .char) = some member := by
    refine run_chars continuesName (fun c continues => ?_) rest continues
    simp [next, onChar, continues]
  have alsoContinues : continuesName first = true := by simp [continuesName, starts]
  rcases waits with rfl | rfl <;> simp [next, onChar, starts, alsoContinues, later]

theorem run_intercalate {stage : Stage} {separator : List Piece} (apart : stage.run separator = some stage)
    (rows : List (List Piece)) (reads : ∀ row ∈ rows, stage.run row = some stage) :
    stage.run (separator.intercalate rows) = some stage := by
  induction rows with
  | nil => rfl
  | cons row rows ih =>
    rw [List.forall_mem_cons] at reads
    cases rows with
    | nil => simpa [List.intercalate] using reads.1
    | cons second rows =>
      have later := ih reads.2
      simp only [List.intercalate, List.intersperse_cons_cons, List.flatten_cons] at later ⊢
      simp [reads.1, apart, later]

theorem run_type {row : List Piece} (isType : IsType row) : type.run row = some type := by
  have ofName {word : List Char} (isIdentifier : IsIdentifier word) : type.run (word.map .char) = some type := by
    refine run_chars continuesName (fun c continues => ?_) word fun c member => ?_
    · simp [next, onChar, isOfType, continues]
    · exact List.all_eq_true.mp isIdentifier.rest c member
  induction isType with
  | name isIdentifier => exact ofName isIdentifier
  | generic isIdentifier _ _ ih =>
    have apart : type.run [.char ',', .char ' '] = some type := by decide
    have inner := run_intercalate apart _ ih
    simp [ofName isIdentifier, inner, next, onChar, isOfType]
  | array _ ih => simp [ih, next, onGroup]

section Accepted

variable {stage : Stage} (accepted : stage.accepts = true)
include accepted

theorem next_point : ∃ after, stage.next (.char '.') = some after ∧ (after = dot ∨ after = point) := by
  cases stage with
  | name letters =>
    have other : letters ≠ creating := bne_iff_ne.mp accepted
    exact ⟨dot, by simp [next, onChar, other, show continuesName '.' = false by decide], .inl rfl⟩
  | number => exact ⟨point, rfl, .inr rfl⟩
  | member | closed => exact ⟨dot, rfl, .inl rfl⟩
  | _ => cases accepted

theorem next_group {bracket : Bracket} (other : bracket ≠ .curly) : stage.next (.group bracket) = some closed := by
  cases stage with
  | start | type => cases accepted
  | _ => simp [next, onGroup, accepted, other]

/-- No blank follows a primary expression. -/
theorem next_blank : stage.next (.char ' ') = none := by
  cases stage with
  | name letters =>
    have other : letters ≠ creating := bne_iff_ne.mp accepted
    simp [next, onChar, other, show continuesName ' ' = false by decide]
  | number | member | closed => rfl
  | _ => cases accepted

end Accepted

end Stage

/-- The reader accepts primary expressions. -/
theorem Primary.reads {row : List Piece} (primary : Primary row) :
    ∃ stage, Stage.start.run row = some stage ∧ stage.accepts = true := by
  have creation : Stage.start.run (creating.map .char ++ [.char ' ']) = some .type := by decide
  have created {type : List Piece} (isType : IsType type) :
      Stage.start.run (creating.map .char ++ .char ' ' :: type) = some .type := by
    rw [List.append_cons, Stage.run_append, creation]
    exact Stage.run_type isType
  induction primary with
  | @name word isIdentifier => exact ⟨_, Stage.run_name isIdentifier.toIsWord, bne_iff_ne.mpr isIdentifier.other⟩
  | number numeral => rcases Stage.run_number numeral with read | read <;> exact ⟨_, read, rfl⟩
  | literal | group => exact ⟨.closed, rfl, rfl⟩
  | created isType =>
    refine ⟨.closed, ?_, rfl⟩
    rw [Stage.run_append, created isType]
    rfl
  | filled isType =>
    refine ⟨.closed, ?_, rfl⟩
    rw [Stage.run_append, created isType]
    decide
  | applied _ form ih =>
    obtain ⟨stage, read, accepted⟩ := ih
    cases form with
    | member isWord =>
      obtain ⟨after, steps, waits⟩ := Stage.next_point accepted
      exact ⟨.member, by simp [read, steps, Stage.run_member isWord waits], rfl⟩
    | index | call =>
      have closes {bracket : Bracket} (other : bracket ≠ .curly) := Stage.next_group accepted other
      exact ⟨.closed, by simp [read, closes], rfl⟩

section Postfixes

/-- What the reader has read behind a primary expression. -/
def Stage.Describes (row : List Piece) : Stage → Prop
  | dot => ∃ forms, Postfixes forms ∧ row = forms ++ [.char '.']
  | member => ∃ forms word, Postfixes forms ∧ IsWord word ∧ row = forms ++ .char '.' :: word.map .char
  | closed => Postfixes row
  | _ => False

variable {row : List Piece} {stage after : Stage} (described : stage.Describes row)
include described

theorem Stage.Describes.postfixes (accepted : stage.accepts = true) : Postfixes row := by
  cases stage with
  | member =>
    obtain ⟨forms, word, postfixes, isWord, rfl⟩ := described
    exact .concat postfixes (.member isWord)
  | closed => exact described
  | name | number => cases described
  | _ => cases accepted

theorem Stage.Describes.onChar {c : Char} (steps : stage.onChar c = some after) :
    after.Describes (row ++ [.char c]) := by
  cases stage with
  | dot =>
    obtain ⟨forms, postfixes, rfl⟩ := described
    rw [Stage.onChar] at steps
    split_ifs at steps with starts
    cases steps
    exact ⟨forms, [c], postfixes, ⟨by simpa using starts, by simp [continuesName, starts]⟩, by simp⟩
  | member =>
    obtain ⟨forms, word, postfixes, isWord, rfl⟩ := described
    rw [Stage.onChar] at steps
    split_ifs at steps with continues isDot
    · cases steps
      obtain ⟨first, rest, rfl, starts, _⟩ := isWord.exists_first
      have longer : IsWord (first :: rest ++ [c]) :=
        ⟨by simpa using starts, by rw [List.all_append, isWord.rest]; simpa using continues⟩
      exact ⟨forms, _, postfixes, longer, by simp⟩
    · cases steps
      cases isDot
      exact ⟨_, .concat postfixes (.member isWord), rfl⟩
  | closed =>
    rw [Stage.onChar] at steps
    split_ifs at steps with isDot
    cases steps
    cases isDot
    exact ⟨row, described, rfl⟩
  | _ => cases described

theorem Stage.Describes.onGroup {bracket : Bracket} (steps : stage.onGroup bracket = some after) :
    after.Describes (row ++ [.group bracket]) := by
  cases stage with
  | start | type => cases described
  | _ =>
    rw [Stage.onGroup] at steps
    · split_ifs at steps with condition
      cases steps
      have postfixes := described.postfixes condition.1
      cases bracket with
      | round => exact .concat postfixes .call
      | square => exact .concat postfixes .index
      | curly => exact absurd rfl condition.2
    · exact nofun
    · exact nofun

theorem Stage.Describes.run {pieces : List Piece} (read : stage.run pieces = some after) :
    after.Describes (row ++ pieces) := by
  induction pieces generalizing row stage with
  | nil =>
    cases read
    rwa [List.append_nil]
  | cons piece pieces ih =>
    obtain ⟨next, steps, continued⟩ := Option.bind_eq_some_iff.mp read
    rw [List.append_cons]
    refine ih ?_ continued
    cases piece with
    | char c => exact described.onChar steps
    | group bracket => exact described.onGroup steps
    | literal =>
      rw [Stage.next] at steps
      split_ifs at steps with atStart
      cases atStart
      cases described

omit described in
/-- What the reader accepts behind a primary expression are postfix forms. -/
theorem postfixes_of_run {pieces : List Piece} (read : Stage.closed.run pieces = some after)
    (accepted : after.accepts = true) : Postfixes pieces :=
  have described : Stage.closed.Describes [] := Postfixes.nil
  (described.run read).postfixes accepted

end Postfixes

/-- No primary expression starts with these pieces. -/
def Rejected (row : List Piece) : Prop := Stage.start.run row = none

section Rejected

variable {row : List Piece}

theorem Rejected.append (rejected : Rejected row) (pieces : List Piece) : Rejected (row ++ pieces) := by
  rw [Rejected, Stage.run_append, rejected]
  rfl

/-- No primary expression starts with a sign, or with anything else that is no part of a name. -/
theorem rejected_of_sign {c : Char} (sign : continuesName c = false) (rest : List Piece) :
    Rejected (.char c :: rest) := by
  rw [continuesName, Bool.or_eq_false_iff] at sign
  have stops : Stage.start.next (.char c) = none := by simp [Stage.next, Stage.onChar, sign.1, sign.2]
  rw [Rejected, Stage.run_cons, stops]
  rfl

theorem Rejected.not_primary (rejected : Rejected row) : ¬Primary row := by
  intro primary
  obtain ⟨stage, read, _⟩ := primary.reads
  cases rejected.symm.trans read

/-- Behind a blank, no primary expression goes on. -/
theorem rejected_of_blank (known : Primary row ∨ Rejected row) (rest : List Piece) :
    Rejected (row ++ .char ' ' :: rest) := by
  rcases known with primary | rejected
  · obtain ⟨stage, read, accepted⟩ := primary.reads
    rw [Rejected, Stage.run_append, read, Option.bind_some, Stage.run_cons, Stage.next_blank accepted]
    rfl
  · exact rejected.append _

end Rejected

section Visible

/-- A row with a piece that does not end in a blank. -/
def Visible (row : List Piece) : Prop := ∃ piece ∈ row, Text.isBlank piece.last = false

theorem Visible.append {row : List Piece} (visible : Visible row) (pieces : List Piece) : Visible (row ++ pieces) := by
  obtain ⟨piece, member, filled⟩ := visible
  exact ⟨piece, List.mem_append_left _ member, filled⟩

theorem visible_of_char {c : Char} (filled : Text.isBlank c = false) {row : List Piece} (member : .char c ∈ row) :
    Visible row := ⟨.char c, member, filled⟩

theorem IsWord.visible {word : List Char} (isWord : IsWord word) : Visible (word.map .char) := by
  obtain ⟨first, rest, rfl, starts, _⟩ := isWord.exists_first
  exact visible_of_char (isBlank_of_startsName first starts) List.mem_cons_self

theorem Digits.visible {digits : List Char} (isDigits : Digits digits) : Visible (digits.map .char) := by
  cases digits with
  | nil => exact absurd rfl isDigits.some
  | cons digit rest =>
    exact visible_of_char (isBlank_of_isDigit digit (isDigits.digits digit List.mem_cons_self)) List.mem_cons_self

theorem Primary.visible {row : List Piece} (primary : Primary row) : Visible row := by
  induction primary with
  | name isIdentifier => exact isIdentifier.toIsWord.visible
  | number numeral =>
    cases numeral with
    | whole digits => exact digits.visible
    | fraction whole _ =>
      rw [List.map_append]
      exact whole.visible.append _
  | literal | group => exact ⟨_, List.mem_cons_self, by decide⟩
  | created | filled => exact visible_of_char (by decide : Text.isBlank 'n' = false) (by simp [creating])
  | applied _ _ ih => exact ih.append _

theorem Postfix.visible {row : List Piece} (form : Postfix row) : Visible row := by
  cases form with
  | member => exact visible_of_char (by decide) List.mem_cons_self
  | index | call => exact ⟨_, List.mem_cons_self, by decide⟩

theorem Postfixes.visible {forms : List Piece} (postfixes : Postfixes forms) (some : forms ≠ []) : Visible forms := by
  cases postfixes with
  | nil => exact absurd rfl some
  | concat _ form =>
    obtain ⟨piece, member, filled⟩ := form.visible
    exact ⟨piece, List.mem_append_right _ member, filled⟩

end Visible

end Reading

end Retarget.CSharp
