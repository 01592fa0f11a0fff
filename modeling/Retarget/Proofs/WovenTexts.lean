import Retarget.Proofs.ContainedTexts

/-! Woven texts. A frame is a text with gaps in it, and texts are woven if they all are one frame with words in its
gaps, so that they differ in the words only. Texts that are put together from woven ones are woven, and so are those
that are laid out line by line, since a line with a word on it is never dropped. -/
namespace Retarget

/-- Pieces of a text with words between them. -/
def interleave : List (List Char) → List (List Char) → List Char
  | piece :: pieces, word :: words => piece ++ (word ++ interleave pieces words)
  | pieces, _ => pieces.flatten

theorem interleave_cons (c : Char) (piece : List Char) (pieces words : List (List Char)) :
    interleave ((c :: piece) :: pieces) words = c :: interleave (piece :: pieces) words := by
  cases words <;> rfl

/-- The same word everywhere. -/
theorem interleave_replicate (word : List Char) (pieces : List (List Char)) (gaps : Nat)
    (length : pieces.length = gaps + 1) : interleave pieces (List.replicate gaps word) = word.intercalate pieces := by
  induction gaps generalizing pieces with
  | zero =>
    obtain ⟨piece, rfl⟩ := List.length_eq_one_iff.mp length
    simp [interleave]
  | succ gaps ih =>
    match pieces, length with
    | first :: second :: pieces, length =>
      rw [List.replicate_succ, interleave, ih (second :: pieces) (Nat.succ.inj length), List.intercalate_cons_cons,
        List.append_assoc]

theorem notMem_interleave {c : Char} {pieces words : List (List Char)} (apart : ∀ piece ∈ pieces, c ∉ piece)
    (absent : ∀ word ∈ words, c ∉ word) : c ∉ interleave pieces words := by
  fun_induction interleave pieces words with
  | case1 piece pieces word words ih =>
    rw [List.forall_mem_cons] at apart absent
    simp [apart.1, absent.1, ih apart.2 absent.2]
  | case2 pieces words _ =>
    rw [List.mem_flatten]
    rintro ⟨piece, member, inside⟩
    exact apart piece member inside

theorem mem_interleave {c : Char} {pieces : List (List Char)} (words : List (List Char))
    (member : c ∈ pieces.flatten) : c ∈ interleave pieces words := by
  fun_induction interleave pieces words with
  | case1 piece pieces word words ih =>
    rw [List.flatten_cons, List.mem_append] at member
    rw [List.mem_append, List.mem_append]
    exact member.imp_right fun behind => .inr (ih behind)
  | case2 => exact member

theorem infix_interleave {pieces words : List (List Char)} (longer : pieces.length = words.length + 1)
    {word : List Char} (member : word ∈ words) : word <:+: interleave pieces words := by
  fun_induction interleave pieces words with
  | case1 piece pieces first words ih =>
    rcases List.mem_cons.mp member with rfl | member
    · exact ⟨piece, interleave pieces words, List.append_assoc ..⟩
    · obtain ⟨front, back, same⟩ := ih (Nat.succ.inj longer) member
      exact ⟨piece ++ (first ++ front), back, by rw [← same]; simp⟩
  | case2 pieces words outside =>
    cases pieces with
    | nil => cases longer
    | cons piece pieces =>
      cases words with
      | nil => cases member
      | cons first words => exact (outside piece pieces first words rfl rfl).elim

/-- What a text starts with stands in front of the first word, if this starts otherwise. -/
theorem head?_interleave {c : Char} {pieces : List (List Char)} {word : List Char} {words : List (List Char)}
    (starts : (interleave pieces (word :: words)).head? = some c) (filled : word ≠ []) (other : word.head? ≠ some c)
    (others : List (List Char)) : (interleave pieces others).head? = some c := by
  match pieces with
  | [] => cases starts
  | [] :: pieces =>
    obtain ⟨d, rest, rfl⟩ := List.exists_cons_of_ne_nil filled
    exact absurd starts other
  | (d :: piece) :: pieces =>
    rw [interleave_cons] at starts ⊢
    exact starts

/-- Pieces for words in a row: a text in front of them, one between any two, and one behind them. -/
theorem exists_pieces_around (front separator back : List Char) (count : Nat) :
    ∃ pieces : List (List Char), pieces.length = count + 2 ∧ front ∈ pieces ∧
      (∀ piece ∈ pieces, piece = front ∨ piece = separator ∨ piece = back) ∧
      ∀ words : List (List Char), words.length = count + 1 →
        front ++ separator.intercalate words ++ back = interleave pieces words := by
  induction count generalizing front with
  | zero =>
    refine ⟨[front, back], rfl, List.mem_cons_self, by simp, fun words single => ?_⟩
    obtain ⟨word, rfl⟩ := List.length_eq_one_iff.mp single
    simp [interleave]
  | succ count ih =>
    obtain ⟨pieces, length, _, among, same⟩ := ih separator
    refine ⟨front :: pieces, by rw [List.length_cons, length], List.mem_cons_self, ?_, fun words more => ?_⟩
    · rw [List.forall_mem_cons]
      exact ⟨.inl rfl, fun piece member => .inr ((among piece member).elim .inl id)⟩
    · cases words with
      | nil => cases more
      | cons first rest =>
        cases rest with
        | nil => cases Nat.succ.inj more
        | cons second words =>
          rw [interleave, ← same (second :: words) (Nat.succ.inj more), List.intercalate_cons_cons]
          simp

/-- A text with gaps; each of them has a name. -/
abbrev Frame (κ : Type) := List (Char ⊕ κ)

namespace Frame

variable {κ : Type}

/-- The names of the gaps, in the order of the text. -/
def gaps (frame : Frame κ) : List κ := frame.filterMap Sum.getRight?

/-- The text with words in the gaps. -/
def fill (frame : Frame κ) (word : κ → List Char) : List Char := frame.flatMap (Sum.elim (fun c => [c]) word)

/-- A text without gaps. -/
def solid (text : List Char) : Frame κ := text.map Sum.inl

theorem gaps_append (first second : Frame κ) : gaps (first ++ second) = first.gaps ++ second.gaps :=
  List.filterMap_append

theorem fill_append (first second : Frame κ) (word : κ → List Char) :
    fill (first ++ second) word = first.fill word ++ second.fill word := List.flatMap_append

theorem gaps_solid (text : List Char) : (solid text : Frame κ).gaps = [] := by
  induction text with
  | nil => rfl
  | cons c rest ih => exact ih

theorem fill_solid (text : List Char) (word : κ → List Char) : (solid text).fill word = text := by
  induction text with
  | nil => rfl
  | cons c rest ih => exact congrArg (c :: ·) ih

/-- Whether a text with visible words in its gaps is blank. -/
def isBlank (frame : Frame κ) : Bool := frame.all (Sum.elim Text.isBlank fun _ => false)

theorem isAllBlank_fill (frame : Frame κ) (word : κ → List Char)
    (visible : ∀ name, Text.isAllBlank (word name) = false) : Text.isAllBlank (frame.fill word) = frame.isBlank := by
  induction frame with
  | nil => rfl
  | cons part rest ih =>
    have parted : fill (part :: rest) word = Sum.elim (fun c => [c]) word part ++ fill rest word := List.flatMap_cons
    rw [Text.isAllBlank] at ih
    rw [Text.isAllBlank, parted, List.all_append, ih]
    cases part with
    | inl c => simp [isBlank]
    | inr name =>
      have seen : (word name).all Text.isBlank = false := visible name
      simp [isBlank, seen]

theorem gaps_eq_nil_of_isBlank (frame : Frame κ) (blank : frame.isBlank = true) : frame.gaps = [] := by
  refine List.filterMap_eq_nil_iff.mpr fun part member => ?_
  cases part with
  | inl c => rfl
  | inr name => exact absurd (List.all_eq_true.mp blank _ member) Bool.false_ne_true

/-- A frame comes to the pieces between its gaps with the words between the pieces. -/
theorem exists_interleaved (frame : Frame κ) : ∃ pieces : List (List Char), pieces.length = frame.gaps.length + 1 ∧
    ∀ word, frame.fill word = interleave pieces (frame.gaps.map word) := by
  induction frame with
  | nil => exact ⟨[[]], rfl, fun _ => rfl⟩
  | cons part frame ih =>
    obtain ⟨pieces, length, same⟩ := ih
    obtain ⟨first, rest, rfl⟩ := List.exists_cons_of_length_pos (Nat.lt_of_lt_of_eq (Nat.succ_pos _) length.symm)
    cases part with
    | inl c =>
      refine ⟨(c :: first) :: rest, length, fun word => (congrArg (c :: ·) (same word)).trans ?_⟩
      exact (interleave_cons c first rest _).symm
    | inr name =>
      refine ⟨[] :: first :: rest, congrArg Nat.succ length, fun word => ?_⟩
      have filled : fill (.inr name :: frame) word = word name ++ fill frame word := List.flatMap_cons
      rw [filled, same]
      rfl

/-- A frame whose gaps all have one name comes to the pieces between them with the word between the pieces. -/
theorem exists_pieces (frame : Frame Unit) : ∃ pieces : List (List Char), pieces.length = frame.gaps.length + 1 ∧
    ∀ word, frame.fill word = (word ()).intercalate pieces := by
  obtain ⟨pieces, length, same⟩ := frame.exists_interleaved
  refine ⟨pieces, length, fun word => ?_⟩
  have words : frame.gaps.map word = List.replicate frame.gaps.length (word ()) :=
    List.map_eq_replicate_iff.mpr fun _ _ => rfl
  rw [same, words, interleave_replicate (word ()) pieces _ length]

end Frame

section Texts

variable {ι κ α : Type} {word : ι → κ → List Char}

/-- Texts that are one frame with different words in its gaps. -/
def Woven (word : ι → κ → List Char) (gaps : List κ) (text : ι → List Char) : Prop :=
  ∃ frame : Frame κ, frame.gaps = gaps ∧ ∀ i, text i = frame.fill (word i)

theorem woven_const (word : ι → κ → List Char) (text : List Char) : Woven word [] fun _ => text :=
  ⟨.solid text, Frame.gaps_solid text, fun _ => (Frame.fill_solid text _).symm⟩

theorem woven_word (word : ι → κ → List Char) (name : κ) : Woven word [name] fun i => word i name :=
  ⟨[.inr name], rfl, fun _ => (List.flatMap_singleton ..).symm⟩

theorem Woven.append {front back : List κ} {first second : ι → List Char} (woven : Woven word front first)
    (following : Woven word back second) : Woven word (front ++ back) fun i => first i ++ second i := by
  obtain ⟨frame, rfl, same⟩ := woven
  obtain ⟨other, rfl, alike⟩ := following
  exact ⟨frame ++ other, frame.gaps_append other, fun i => by simp only [same, alike, Frame.fill_append]⟩

/-- A text with something constant around it. -/
theorem Woven.between {gaps : List κ} {text : ι → List Char} (woven : Woven word gaps text)
    (front back : List Char) : Woven word gaps fun i => front ++ text i ++ back := by
  have around := ((woven_const word front).append woven).append (woven_const word back)
  rwa [List.append_nil] at around

/-- Where the words are visible, woven texts are blank all together or none of them is. -/
theorem Woven.blank_or_visible {gaps : List κ} {text : ι → List Char} (woven : Woven word gaps text)
    (visible : ∀ i name, Text.isAllBlank (word i name) = false) :
    (gaps = [] ∧ ∀ i, Text.isAllBlank (text i) = true) ∨ ∀ i, Text.isAllBlank (text i) = false := by
  obtain ⟨frame, rfl, same⟩ := woven
  have blankness (i : ι) : Text.isAllBlank (text i) = frame.isBlank := by
    rw [same, frame.isAllBlank_fill _ (visible i)]
  cases blank : frame.isBlank with
  | true => exact .inl ⟨frame.gaps_eq_nil_of_isBlank blank, fun i => (blankness i).trans blank⟩
  | false => exact .inr fun i => (blankness i).trans blank

/-- Lists of which all members are in a relation to some of the gaps. -/
inductive Rows (R : List κ → (ι → α) → Prop) : List κ → (ι → List α) → Prop
  | nil : Rows R [] fun _ => []
  | cons {front back : List κ} {member : ι → α} {rest : ι → List α} :
      R front member → Rows R back rest → Rows R (front ++ back) fun i => member i :: rest i

/-- Strings that are woven. -/
abbrev WovenString (word : ι → κ → List Char) (gaps : List κ) (text : ι → String) : Prop :=
  Woven word gaps fun i => (text i).toList

theorem wovenString_const (word : ι → κ → List Char) (text : String) : WovenString word [] fun _ => text :=
  woven_const word text.toList

theorem WovenString.append {front back : List κ} {first second : ι → String} (woven : WovenString word front first)
    (following : WovenString word back second) : WovenString word (front ++ back) fun i => first i ++ second i := by
  simpa only [WovenString, String.toList_append] using Woven.append woven following

theorem WovenString.between {gaps : List κ} {text : ι → String} (woven : WovenString word gaps text)
    (front back : String) : WovenString word gaps fun i => front ++ text i ++ back := by
  simpa only [WovenString, String.toList_append] using Woven.between woven front.toList back.toList

theorem Rows.join {gaps : List κ} {pieces : ι → List String} (rows : Rows (WovenString word) gaps pieces) :
    WovenString word gaps fun i => String.join (pieces i) := by
  induction rows with
  | nil => exact wovenString_const word ""
  | cons piece _ ih => simpa only [String.join_cons] using piece.append ih

theorem Rows.intercalate {gaps : List κ} {pieces : ι → List String} (rows : Rows (WovenString word) gaps pieces)
    (separator : String) : WovenString word gaps fun i => separator.intercalate (pieces i) := by
  induction rows with
  | nil => exact wovenString_const word ""
  | cons piece rest ih =>
    cases rest with
    | nil => simpa using piece
    | cons next rest =>
      simp only [String.intercalate_cons_cons]
      exact (by simpa using piece.between "" separator : WovenString word _ _).append ih

end Texts

section Layout

variable {ι κ : Type} {word : ι → κ → List Char}

/-- Lines with woven texts on them. -/
inductive WovenLine (word : ι → κ → List Char) : List κ → (ι → RenderedLine) → Prop
  | blank : WovenLine word [] fun _ => .blank
  | content {gaps : List κ} {text : ι → String} (depth : Nat) (hasDirective : Bool) :
      WovenString word gaps text → WovenLine word gaps fun i => .content depth hasDirective (text i)

/-- Lines that stay, with woven texts on them. -/
inductive WovenOutput (word : ι → κ → List Char) : List κ → (ι → OutputLine) → Prop
  | blank : WovenOutput word [] fun _ => .blank
  | filled {gaps : List κ} {text : ι → String} (depth : Nat) :
      WovenString word gaps text → WovenOutput word gaps fun i => .filled depth (text i)

theorem WovenOutput.unindented {gaps : List κ} {line : ι → OutputLine} (woven : WovenOutput word gaps line) :
    WovenString word gaps fun i => (line i).unindented := by
  cases woven with
  | blank => exact wovenString_const word ""
  | filled depth text => exact text

theorem WovenOutput.indented {gaps : List κ} {line : ι → OutputLine} (woven : WovenOutput word gaps line)
    (indent : Indent) : WovenString word gaps fun i => (line i).indented indent := by
  cases woven with
  | blank => exact wovenString_const word ""
  | filled depth text => exact (wovenString_const word (indent.margin depth)).append text

theorem Rows.tail {gaps : List κ} {lines : ι → List OutputLine} (rows : Rows (WovenOutput word) gaps lines)
    (indent : Indent) : Woven word gaps fun i => OutputLine.tail indent (lines i) := by
  induction rows with
  | nil => exact woven_const word []
  | cons line _ ih =>
    simp only [OutputLine.tail, List.flatMap_cons]
    exact (by simpa using Woven.between (line.indented indent) ['\n'] [] : Woven word _ _).append ih

theorem Rows.joinLines {gaps : List κ} {lines : ι → List OutputLine} (rows : Rows (WovenOutput word) gaps lines)
    (indent : Indent) : WovenString word gaps fun i => OutputLine.join indent (lines i) := by
  cases rows with
  | nil => exact wovenString_const word ""
  | cons line rest =>
    simp only [WovenString, OutputLine.toList_join]
    exact Woven.append line.unindented (rest.tail indent)

theorem Rows.behindBlank {gaps : List κ} {lines : ι → List OutputLine} (rows : Rows (WovenOutput word) gaps lines)
    (waits : Bool) : Rows (WovenOutput word) gaps fun i => if waits = true then .blank :: lines i else lines i := by
  cases waits with
  | true => exact .cons .blank rows
  | false => exact rows

/-- What stays of woven lines is woven: a line is dropped only where there is no word on it. -/
theorem Rows.kept (visible : ∀ i name, Text.isAllBlank (word i name) = false) {gaps : List κ}
    {lines : ι → List RenderedLine} (rows : Rows (WovenLine word) gaps lines) (afterDirective pending dropped : Bool) :
    Rows (WovenOutput word) gaps fun i => RenderedLine.kept afterDirective pending dropped (lines i) := by
  induction rows generalizing afterDirective pending dropped with
  | nil => exact .nil
  | cons line _ ih =>
    cases line with
    | blank =>
      rw [List.nil_append]
      exact ih _ _ _
    | content depth hasDirective text =>
      have stays := Rows.cons (.filled depth text) (ih hasDirective false false)
      -- Words can be seen, so a line that is blank in one of the texts has no gaps and is blank in all of them.
      rcases text.blank_or_visible visible with ⟨rfl, blank⟩ | filled
      · cases hasDirective with
        | true =>
          simp only [RenderedLine.kept, blank, Bool.and_true, if_true]
          exact ih afterDirective pending true
        | false =>
          simp only [RenderedLine.kept, Bool.false_and, Bool.false_eq_true, if_false]
          exact stays.behindBlank _
      · simp only [RenderedLine.kept, filled, Bool.and_false, Bool.false_eq_true, if_false]
        exact stays.behindBlank _

theorem Rows.layOut (visible : ∀ i name, Text.isAllBlank (word i name) = false) {gaps : List κ}
    {lines : ι → List RenderedLine} (rows : Rows (WovenLine word) gaps lines) (indent : Indent) :
    WovenString word gaps fun i => layOut indent (lines i) :=
  (rows.kept visible false false false).joinLines indent

end Layout

section Results

variable {ι α β : Type}

/-- Results that are in a relation, or all fail. -/
def Alike (R : (ι → α) → Prop) (result : ι → Except GenerateError α) : Prop :=
  (∃ value, R value ∧ ∀ i, result i = .ok (value i)) ∨ ∀ i, ∃ cause, result i = .error cause

namespace Alike

variable {R : (ι → α) → Prop}

theorem ok {value : ι → α} (related : R value) : Alike R fun i => .ok (value i) := .inl ⟨value, related, fun _ => rfl⟩

theorem error (cause : ι → GenerateError) : Alike R fun i => .error (cause i) := .inr fun i => ⟨cause i, rfl⟩

theorem const (result : Except GenerateError α) (related : ∀ value, result = .ok value → R fun _ => value) :
    Alike R fun _ => result := by
  cases same : result with
  | ok value => exact .ok (related value same)
  | error cause => exact .error _

theorem bind {S : (ι → β) → Prop} {first : ι → Except GenerateError α} {next : ι → α → Except GenerateError β}
    (alike : Alike R first) (continued : ∀ value, R value → Alike S fun i => next i (value i)) :
    Alike S fun i => first i >>= next i := by
  rcases alike with ⟨value, related, same⟩ | fails
  · simp only [same]
    exact continued value related
  · refine .inr fun i => ?_
    obtain ⟨cause, failed⟩ := fails i
    exact ⟨cause, by simp only [failed]; rfl⟩

/-- Something that is done first, in the same way everywhere. -/
theorem bind_left {γ : Type} {first : Except GenerateError γ} {next : ι → γ → Except GenerateError α}
    (continued : ∀ value, first = .ok value → Alike R fun i => next i value) : Alike R fun i => first >>= next i := by
  cases same : first with
  | ok value => exact continued value same
  | error cause => exact .error _

theorem mapM {κ γ : Type} (R : List κ → (ι → α) → Prop) (f : ι → γ → Except GenerateError α) (gaps : γ → List κ)
    (xs : List γ) (alike : ∀ x ∈ xs, Alike (R (gaps x)) fun i => f i x) :
    Alike (Rows R (xs.flatMap gaps)) fun i => xs.mapM (f i) := by
  induction xs with
  | nil => exact .ok .nil
  | cons x xs ih =>
    rw [List.forall_mem_cons] at alike
    simp only [List.mapM_cons, List.flatMap_cons]
    exact alike.1.bind fun member here => (ih alike.2).bind fun rest rows => .ok (.cons here rows)

end Alike

/-- A template comes to woven texts, or fails, if its segments do. -/
theorem Renderer.step_alike {κ : Type} (word : ι → κ → List Char)
    (visible : ∀ i name, Text.isAllBlank (word i name) = false) (overrides : OverrideTable) (renderer : ι → Renderer)
    (indent : Indent) (same : ∀ i, (renderer i).target.indent = indent) (node : ι → Node) (template : Template)
    (gaps : Segment → List κ) (depth : Nat)
    (segments : ∀ line ∈ template.lines, ∀ segment ∈ line.segments,
      Alike (WovenString word (gaps segment)) fun i =>
        (renderer i).segment overrides (node i) (depth + line.level) segment) :
    Alike (WovenString word ((template.lines.flatMap Line.segments).flatMap gaps)) fun i =>
      (renderer i).step overrides template (node i) depth := by
  have lines (line : Line) (listed : line ∈ template.lines) :
      Alike (WovenLine word (line.segments.flatMap gaps)) fun i => (renderer i).line overrides (node i) depth line := by
    simp only [Renderer.line]
    split
    · rename_i empty
      rw [List.isEmpty_iff.mp empty]
      exact .ok .blank
    · have parts := Alike.mapM (WovenString word)
        (fun i => (renderer i).segment overrides (node i) (depth + line.level)) gaps line.segments
        fun segment member => segments line listed segment member
      exact parts.bind fun texts rows => .ok (.content _ _ rows.join)
  rw [List.flatMap_assoc]
  simp only [Renderer.step, same]
  exact (Alike.mapM (WovenLine word) _ _ template.lines lines).bind fun rendered rows => .ok (rows.layOut visible _)

end Results

end Retarget
