import Mathlib.Data.List.Basic
import Retarget.Profile.TypeSyntax
import Retarget.Proofs.BlanklessTexts

/-! Slots of formats. A format is read once, as characters and slots, and can be filled at once: each slot that has a
component gives way to it, and nothing else does. Spellings fill one slot after the other instead, in all of the text
that they have so far. The two come to the same as long as no slot shows in that text that is not one of the format. -/
namespace Retarget

namespace Text

/-- What an occurrence cannot start in stays as it is. -/
theorem replaceFrom_append {first : Char} (pattern replacement : List Char) {front : List Char}
    (clean : first ∉ front) (back : List Char) :
    replaceFrom (first :: pattern) replacement 0 (front ++ back) =
      front ++ replaceFrom (first :: pattern) replacement 0 back := by
  induction front with
  | nil => rfl
  | cons c front ih =>
    rw [List.mem_cons, not_or] at clean
    have other : ((first :: pattern).isPrefixOf (c :: (front ++ back))) = false := by simp [List.isPrefixOf, clean.1]
    rw [List.cons_append, replaceFrom, other, if_neg Bool.false_ne_true, ih clean.2, List.cons_append]

theorem replaceFrom_skip (pattern replacement : List Char) (skip : Nat) (text : List Char) :
    replaceFrom pattern replacement skip text = replaceFrom pattern replacement 0 (text.drop skip) := by
  induction skip generalizing text with
  | zero => rfl
  | succ skip ih =>
    cases text with
    | nil => rfl
    | cons c rest => rw [replaceFrom, ih, List.drop_succ_cons]

theorem replaceFrom_found {first : Char} (pattern replacement rest : List Char) :
    replaceFrom (first :: pattern) replacement 0 (first :: (pattern ++ rest)) =
      replacement ++ replaceFrom (first :: pattern) replacement 0 rest := by
  have found : (first :: pattern).isPrefixOf (first :: (pattern ++ rest)) = true :=
    List.isPrefixOf_iff_prefix.mpr (List.prefix_append (first :: pattern) rest)
  rw [replaceFrom, found, if_pos rfl, replaceFrom_skip, List.length_cons, Nat.add_sub_cancel, List.drop_left]

end Text

namespace TypeSyntax

/-- A piece of a format: a character that stands for itself, or a slot. -/
inductive Piece where
  | char (c : Char)
  | slot (position : Nat)
  deriving DecidableEq

/-- The position of the slot that a text starts with. -/
def slotAt? (text : List Char) : Option Nat :=
  let position := Nat.ofDigitChars 10 (text.tail.takeWhile Char.isDigit) 0
  if (slot position).isPrefixOf text then some position else none

namespace Piece

/-- Reads a text from the left; `skip` characters of a slot are still to be passed over. -/
def readFrom : Nat → List Char → List Piece
  | _, [] => []
  | skip + 1, _ :: rest => readFrom skip rest
  | 0, c :: rest =>
    match slotAt? (c :: rest) with
    | some position => .slot position :: readFrom ((TypeSyntax.slot position).length - 1) rest
    | none => .char c :: readFrom 0 rest

/-- The pieces of a text. -/
def read (text : List Char) : List Piece := readFrom 0 text

/-- A piece with its component in its place, if it is a slot that has one. -/
def filled (components : List String) : Piece → List Char
  | .char c => [c]
  | .slot position =>
    match components[position]? with
    | some component => component.toList
    | none => TypeSyntax.slot position

end Piece

/-- A format with all slots that have a component filled at once. -/
def fillAtOnce (format : String) (components : List String) : String :=
  String.ofList ((Piece.read format.toList).flatMap (Piece.filled components))

/-- How often a text has the slot of a position. -/
def slotCount (position : Nat) (text : String) : Nat := (Piece.read text.toList).count (.slot position)

section Slots

theorem slot_eq (position : Nat) : slot position = '\x7b' :: (Nat.toDigits 10 position ++ ['\x7d']) := by
  rw [slot, toList_toString_nat, List.cons_append]

theorem isDigit_of_mem_toDigits {position : Nat} {c : Char} (member : c ∈ Nat.toDigits 10 position) :
    c.isDigit = true := Nat.isDigit_of_mem_toDigits (by decide) (by decide) member

theorem notMem_slot_tail (position : Nat) : '\x7b' ∉ Nat.toDigits 10 position ++ ['\x7d'] := by
  rw [List.mem_append, not_or]
  exact ⟨fun member => absurd (isDigit_of_mem_toDigits member) (by decide), by decide⟩

theorem slotAt?_slot (position : Nat) (rest : List Char) : slotAt? (slot position ++ rest) = some position := by
  have digits : (slot position ++ rest).tail.takeWhile Char.isDigit = Nat.toDigits 10 position := by
    rw [slot_eq, List.cons_append, List.tail_cons, List.append_assoc,
      List.takeWhile_append_of_pos fun c member => isDigit_of_mem_toDigits member]
    simp
  have found : (slot position).isPrefixOf (slot position ++ rest) = true :=
    List.isPrefixOf_iff_prefix.mpr (List.prefix_append _ _)
  rw [slotAt?, digits, Nat.ofDigitChars_ten_toDigits, if_pos found]

theorem slotAt?_eq_some_iff (text : List Char) (position : Nat) :
    slotAt? text = some position ↔ ∃ rest, text = slot position ++ rest := by
  constructor
  · intro found
    rw [slotAt?] at found
    split at found
    · rename_i starts
      cases found
      obtain ⟨rest, same⟩ := List.isPrefixOf_iff_prefix.mp starts
      exact ⟨rest, same.symm⟩
    · cases found
  · rintro ⟨rest, rfl⟩
    exact slotAt?_slot position rest

theorem slotAt?_of_ne {c : Char} (other : c ≠ '\x7b') (rest : List Char) : slotAt? (c :: rest) = none := by
  refine Option.eq_none_iff_forall_ne_some.mpr fun position found => ?_
  obtain ⟨after, same⟩ := (slotAt?_eq_some_iff _ _).mp found
  rw [slot_eq, List.cons_append] at same
  exact other (List.cons.inj same).1

end Slots

namespace Piece

theorem readFrom_skip (skip : Nat) (text : List Char) : readFrom skip text = read (text.drop skip) := by
  induction skip generalizing text with
  | zero => rfl
  | succ skip ih =>
    cases text with
    | nil => rfl
    | cons c rest => rw [readFrom, ih, List.drop_succ_cons]

theorem read_slot (position : Nat) (rest : List Char) :
    read (TypeSyntax.slot position ++ rest) = .slot position :: read rest := by
  have found := slotAt?_slot position rest
  rw [slot_eq, List.cons_append] at found ⊢
  rw [read, readFrom, found]
  simp only [readFrom_skip, slot_eq, List.length_cons, Nat.add_sub_cancel, List.drop_left]

theorem read_char {c : Char} {rest : List Char} (absent : slotAt? (c :: rest) = none) :
    read (c :: rest) = .char c :: read rest := by
  rw [read, readFrom, absent]
  rfl

/-- A text is empty, or starts with a slot or with another character. -/
theorem read_induct {P : List Char → Prop} (nil : P [])
    (slot : ∀ position rest, P rest → P (TypeSyntax.slot position ++ rest))
    (char : ∀ c rest, slotAt? (c :: rest) = none → P rest → P (c :: rest)) (text : List Char) : P text := by
  induction h : text.length using Nat.strongRecOn generalizing text with
  | ind length ih =>
    subst h
    cases text with
    | nil => exact nil
    | cons c rest =>
      cases found : slotAt? (c :: rest) with
      | none => exact char c rest found (ih _ (Nat.lt_succ_self _) rest rfl)
      | some position =>
        obtain ⟨after, same⟩ := (slotAt?_eq_some_iff _ _).mp found
        rw [same]
        refine slot position after (ih _ ?_ after rfl)
        rw [same, slot_eq, List.length_append, List.length_cons]
        omega

/-- A slot does not go on where another one may start. -/
theorem slotAt?_append_of_none {c : Char} {rest : List Char} (absent : slotAt? (c :: rest) = none) (back : List Char) :
    slotAt? (c :: (rest ++ '\x7b' :: back)) = none := by
  refine Option.eq_none_iff_forall_ne_some.mpr fun position found => ?_
  obtain ⟨after, same⟩ := (slotAt?_eq_some_iff _ _).mp found
  rw [← List.cons_append] at same
  rcases List.append_eq_append_iff.mp same with ⟨more, slots, behind⟩ | ⟨more, whole, _⟩
  · cases more with
    | nil =>
      have starts := (slotAt?_eq_some_iff (c :: rest) position).mpr ⟨[], by rw [slots, List.append_nil, List.append_nil]⟩
      rw [absent] at starts
      cases starts
    | cons opening more =>
      obtain ⟨rfl, _⟩ := List.cons.inj behind
      rw [slot_eq, List.cons_append] at slots
      have inside := (List.cons.inj slots).2
      exact notMem_slot_tail position (by rw [inside]; simp)
  · have starts := (slotAt?_eq_some_iff (c :: rest) position).mpr ⟨more, whole⟩
    rw [absent] at starts
    cases starts

theorem read_append (text back : List Char) :
    read (text ++ '\x7b' :: back) = read text ++ read ('\x7b' :: back) := by
  induction text using read_induct with
  | nil => rfl
  | slot position rest ih => rw [List.append_assoc, read_slot, ih, read_slot, List.cons_append]
  | char c rest absent ih =>
    rw [List.cons_append, read_char (slotAt?_append_of_none absent back), ih, read_char absent, List.cons_append]

/-- A slot is read as such, whatever stands around it. -/
theorem read_around (front back : List Char) (position : Nat) :
    read (front ++ (TypeSyntax.slot position ++ back)) = read front ++ .slot position :: read back := by
  rw [← read_slot, slot_eq, List.cons_append, read_append]

theorem flatMap_filled_nil (text : List Char) : (read text).flatMap (filled []) = text := by
  induction text using read_induct with
  | nil => rfl
  | slot position rest ih =>
    rw [read_slot, List.flatMap_cons, ih]
    rfl
  | char c rest absent ih =>
    rw [read_char absent, List.flatMap_cons, ih]
    rfl

end Piece

/-- Replacing a slot exchanges the pieces that are this slot. -/
theorem replace_slot (position : Nat) (value text : List Char) :
    Text.replace (slot position) value text =
      (Piece.read text).flatMap fun piece => if piece = .slot position then value else piece.filled [] := by
  induction text using Piece.read_induct with
  | nil => rfl
  | slot other rest ih =>
    rw [Piece.read_slot, List.flatMap_cons, ← ih]
    by_cases same : other = position
    · rw [if_pos (congrArg Piece.slot same), same, Text.replace, Text.replace, slot_eq, List.cons_append,
        Text.replaceFrom_found]
    · have elsewhere : (slot position).isPrefixOf (slot other ++ rest) = false := by
        refine Bool.eq_false_iff.mpr fun starts => same ?_
        obtain ⟨after, found⟩ := List.isPrefixOf_iff_prefix.mp starts
        have read := slotAt?_slot position after
        rw [found, slotAt?_slot, Option.some.injEq] at read
        exact read
      rw [if_neg (mt Piece.slot.inj same), Text.replace, Text.replace]
      rw [slot_eq, slot_eq, List.cons_append] at elsewhere
      rw [slot_eq, slot_eq, List.cons_append, Text.replaceFrom, elsewhere, if_neg Bool.false_ne_true,
        Text.replaceFrom_append _ _ (notMem_slot_tail other), Piece.filled, slot_eq]
      rfl
  | char c rest absent ih =>
    have elsewhere : (slot position).isPrefixOf (c :: rest) = false := by
      refine Bool.eq_false_iff.mpr fun starts => ?_
      obtain ⟨after, found⟩ := List.isPrefixOf_iff_prefix.mp starts
      rw [← found, slotAt?_slot] at absent
      cases absent
    rw [Piece.read_char absent, List.flatMap_cons, ← ih, if_neg nofun, Text.replace, Text.replaceFrom, elsewhere,
      if_neg Bool.false_ne_true]
    rfl

theorem replace_slot_eq_self (position : Nat) (value : List Char) {text : List Char}
    (absent : Piece.slot position ∉ Piece.read text) : Text.replace (slot position) value text = text := by
  have same (piece : Piece) (member : piece ∈ Piece.read text) :
      (if piece = .slot position then value else piece.filled []) = piece.filled [] := by
    refine if_neg ?_
    rintro rfl
    exact absent member
  rw [replace_slot, List.flatMap_congr same, Piece.flatMap_filled_nil]

section Filling

variable {components : List String}

theorem filled_length : Piece.filled components (.slot components.length) = slot components.length := by
  rw [Piece.filled, List.getElem?_eq_none (Nat.le_refl _)]

theorem filled_concat (value : String) (piece : Piece) :
    piece.filled (components ++ [value]) =
      if piece = .slot components.length then value.toList else piece.filled components := by
  cases piece with
  | char c => rfl
  | slot position =>
    by_cases last : position = components.length
    · subst last
      rw [if_pos rfl, Piece.filled, List.getElem?_concat_length]
    · rw [if_neg (mt Piece.slot.inj last), Piece.filled, Piece.filled]
      have same : (components ++ [value])[position]? = components[position]? := by
        rcases Nat.lt_or_gt_of_ne last with before | behind
        · exact List.getElem?_append_left before
        · rw [List.getElem?_eq_none (Nat.le_of_lt behind), List.getElem?_eq_none]
          rw [List.length_append]
          exact behind
      rw [same]

theorem flatMap_filled_concat (value : String) {row : List Piece} (absent : Piece.slot components.length ∉ row) :
    row.flatMap (Piece.filled (components ++ [value])) = row.flatMap (Piece.filled components) := by
  refine List.flatMap_congr fun piece member => ?_
  rw [filled_concat, if_neg]
  rintro rfl
  exact absent member

/-- Pieces that are filled show the next slot wherever it is one of them. If it shows nowhere else, replacing it fills
these. -/
theorem replace_filled (value : String) (row : List Piece) :
    row.count (.slot components.length) ≤
        (Piece.read (row.flatMap (Piece.filled components))).count (.slot components.length) ∧
      ((Piece.read (row.flatMap (Piece.filled components))).count (.slot components.length) =
          row.count (.slot components.length) →
        Text.replace (slot components.length) value.toList (row.flatMap (Piece.filled components)) =
          row.flatMap (Piece.filled (components ++ [value]))) := by
  -- The row is taken apart at the first place of the slot: what is in front of it must not show the slot.
  induction h : row.length using Nat.strongRecOn generalizing row with
  | ind length ih =>
    subst h
    by_cases member : Piece.slot components.length ∈ row
    · obtain ⟨front, back, rfl, others⟩ := List.eq_append_cons_of_mem member
      obtain ⟨least, filled⟩ := ih back.length (by simp; omega) back rfl
      have none : front.count (.slot components.length) = 0 := List.count_eq_zero.mpr others
      simp only [List.flatMap_append, List.flatMap_cons, filled_length, filled_concat, if_pos, Piece.read_around,
        List.count_append, List.count_cons_self, none, flatMap_filled_concat value others]
      refine ⟨by omega, fun same => ?_⟩
      have shown : Piece.slot components.length ∉ Piece.read (front.flatMap (Piece.filled components)) :=
        List.count_eq_zero.mp (by omega)
      have exchanged := filled (by omega)
      have unchanged := replace_slot_eq_self components.length value.toList shown
      rw [replace_slot] at exchanged unchanged ⊢
      rw [Piece.read_around, List.flatMap_append, List.flatMap_cons, if_pos rfl, unchanged, exchanged]
    · rw [List.count_eq_zero.mpr member, flatMap_filled_concat value member]
      exact ⟨Nat.zero_le _, fun none => replace_slot_eq_self _ _ (List.count_eq_zero.mp none)⟩

theorem fill_fillAtOnce (format value : String)
    (own : slotCount components.length (fillAtOnce format components) = slotCount components.length format) :
    fill (fillAtOnce format components) components.length value = fillAtOnce format (components ++ [value]) := by
  rw [slotCount, slotCount, fillAtOnce, String.toList_ofList] at own
  rw [fill, fillAtOnce, fillAtOnce, String.toList_ofList, (replace_filled value _).2 own]

/-- Without a piece, a row is shorter by the texts that stand for it. -/
theorem length_flatMap_exchange (f : Piece → List Char) (gone : Piece) (row : List Piece) :
    (row.flatMap fun piece => if piece = gone then [] else f piece).length + row.count gone * (f gone).length =
      (row.flatMap f).length := by
  induction row with
  | nil => simp
  | cons piece row ih =>
    rw [List.flatMap_cons, List.flatMap_cons, List.length_append, List.length_append, ← ih]
    by_cases same : piece = gone
    · subst same
      rw [if_pos rfl, List.count_cons_self, Nat.succ_mul, List.length_nil]
      omega
    · rw [if_neg same, List.count_cons_of_ne same]
      omega

/-- If an empty component does not show the difference, the slot is there as often as in the format. -/
theorem slotCount_of_fill_eq (format : String)
    (same : fill (fillAtOnce format components) components.length "" = fillAtOnce format (components ++ [""])) :
    slotCount components.length (fillAtOnce format components) = slotCount components.length format := by
  have inText := length_flatMap_exchange (Piece.filled []) (.slot components.length)
    (Piece.read (fillAtOnce format components).toList)
  have inFormat := length_flatMap_exchange (Piece.filled components) (.slot components.length)
    (Piece.read format.toList)
  have exchanged : (fillAtOnce format (components ++ [""])).toList = (Piece.read format.toList).flatMap
      fun piece => if piece = .slot components.length then [] else piece.filled components := by
    rw [fillAtOnce, String.toList_ofList]
    exact List.flatMap_congr fun piece _ => filled_concat "" piece
  have lengths := congrArg (fun text => text.toList.length) same
  simp only [fill, replace_slot, String.toList_ofList, String.toList_empty, exchanged] at lengths
  have whole : (fillAtOnce format components).toList.length =
      ((Piece.read format.toList).flatMap (Piece.filled components)).length := by rw [fillAtOnce, String.toList_ofList]
  rw [lengths, Piece.flatMap_filled_nil, whole, ← inFormat, filled_length] at inText
  have positive : 0 < (slot components.length).length := by
    rw [slot_eq]
    exact Nat.succ_pos _
  exact Nat.eq_of_mul_eq_mul_right positive (Nat.add_left_cancel inText)

end Filling

section Steps

theorem fillFrom_concat (format : String) (position : Nat) (components : List String) (value : String) :
    fillFrom format position (components ++ [value]) =
      fill (fillFrom format position components) (position + components.length) value := by
  induction components generalizing format position with
  | nil => rfl
  | cons component rest ih =>
    rw [List.cons_append, fillFrom, ih, fillFrom, List.length_cons, Nat.add_comm rest.length, Nat.add_assoc]

theorem apply_concat (format : String) (components : List String) (value : String) :
    (positional format).apply (components ++ [value]) =
      fill ((positional format).apply components) components.length value := by
  rw [apply, apply, fillFrom_concat, Nat.zero_add]

theorem fillAtOnce_nil (format : String) : fillAtOnce format [] = format := by
  rw [fillAtOnce, Piece.flatMap_filled_nil, String.ofList_toList]

/-- Whenever a slot is to be filled, the text so far has it as often as the format. -/
def ShowsOwnSlots (format : String) (components : List String) : Prop :=
  ∀ position < components.length,
    slotCount position (fillAtOnce format (components.take position)) = slotCount position format

instance (format : String) (components : List String) : Decidable (ShowsOwnSlots format components) :=
  inferInstanceAs (Decidable (∀ position < components.length, _))

/-- The components in front of a position can be filled at once, if the text shows no other slots up to there. -/
theorem apply_take {format : String} {components : List String} (own : ShowsOwnSlots format components)
    (position : Nat) (within : position ≤ components.length) :
    (positional format).apply (components.take position) = fillAtOnce format (components.take position) := by
  induction position with
  | zero => exact (fillAtOnce_nil format).symm
  | succ position ih =>
    have counted := own position within
    have length : (components.take position).length = position := List.length_take_of_le (Nat.le_of_lt within)
    rw [List.take_succ_eq_append_getElem within, apply_concat, ih (Nat.le_of_lt within)]
    refine fill_fillAtOnce format _ ?_
    rwa [length]

theorem apply_eq_fillAtOnce {format : String} {components : List String} (own : ShowsOwnSlots format components) :
    (positional format).apply components = fillAtOnce format components := by
  have all := apply_take own components.length (Nat.le_refl _)
  rwa [List.take_length] at all

theorem showsOwnSlots_iff (format : String) (components : List String) :
    ShowsOwnSlots format components ↔ ∀ position < components.length, ∀ value,
      (positional format).apply (components.take position ++ [value]) =
        fillAtOnce format (components.take position ++ [value]) := by
  constructor
  · intro own position within value
    have length : (components.take position).length = position := List.length_take_of_le (Nat.le_of_lt within)
    rw [apply_concat, apply_take own position (Nat.le_of_lt within)]
    refine fill_fillAtOnce format value ?_
    rw [length]
    exact own position within
  · intro alike position within
    have length : (components.take position).length = position := List.length_take_of_le (Nat.le_of_lt within)
    have before : (positional format).apply (components.take position) =
        fillAtOnce format (components.take position) := by
      cases position with
      | zero => exact (fillAtOnce_nil format).symm
      | succ position =>
        rw [List.take_succ_eq_append_getElem (Nat.lt_of_succ_lt within)]
        exact alike position (Nat.lt_of_succ_lt within) _
    have empty := alike position within ""
    rw [apply_concat, before] at empty
    have counted := slotCount_of_fill_eq format empty
    rwa [length] at counted

end Steps

section PlainComponents

/-- A text that takes no part in any slot: it has no brace, and it is more than digits. -/
def IsPlain (component : String) : Prop :=
  '\x7b' ∉ component.toList ∧ '\x7d' ∉ component.toList ∧ ∃ c ∈ component.toList, c.isDigit = false

instance (component : String) : Decidable (IsPlain component) :=
  decidable_of_iff ('\x7b' ∉ component.toList ∧ '\x7d' ∉ component.toList ∧
    (component.toList.any fun c => !c.isDigit) = true) (by simp [IsPlain])

variable {components : List String}

/-- The pieces that a piece is read as once it is filled. -/
def Piece.opened (components : List String) : Piece → List Piece
  | .char c => [.char c]
  | .slot position =>
    match components[position]? with
    | some component => component.toList.map .char
    | none => [.slot position]

theorem read_text_append {front : List Char} (clean : '\x7b' ∉ front) (back : List Char) :
    Piece.read (front ++ back) = front.map .char ++ Piece.read back := by
  induction front with
  | nil => rfl
  | cons c front ih =>
    rw [List.mem_cons, not_or] at clean
    rw [List.cons_append, Piece.read_char (slotAt?_of_ne (Ne.symm clean.1) _), ih clean.2, List.map_cons,
      List.cons_append]

/-- What closes a slot in a filled format closes it in the format. -/
theorem closes_of_filled (plain : ∀ component ∈ components, IsPlain component) (text : List Char)
    {digits after : List Char} (areDigits : ∀ c ∈ digits, c.isDigit = true)
    (closed : (Piece.read text).flatMap (Piece.filled components) = digits ++ '\x7d' :: after) :
    ∃ rest, text = digits ++ '\x7d' :: rest := by
  induction text using Piece.read_induct generalizing digits with
  | nil => simp [Piece.read, Piece.readFrom] at closed
  | slot position rest _ =>
    rw [Piece.read_slot, List.flatMap_cons, Piece.filled] at closed
    cases found : components[position]? with
    | some component =>
      obtain ⟨_, noClosing, c, member, other⟩ := plain component (List.mem_of_getElem? found)
      simp only [found] at closed
      rcases List.append_eq_append_iff.mp closed with ⟨more, inside, _⟩ | ⟨more, inside, behind⟩
      · rw [inside, List.forall_mem_append] at areDigits
        rw [areDigits.1 c member] at other
        cases other
      · cases more with
        | nil =>
          rw [List.append_nil] at inside
          rw [areDigits c (inside ▸ member)] at other
          cases other
        | cons closing more =>
          obtain ⟨rfl, _⟩ := List.cons.inj behind
          exact absurd (by rw [inside]; simp) noClosing
    | none =>
      simp only [found, slot_eq, List.cons_append] at closed
      cases digits with
      | nil => exact absurd (List.cons.inj closed).1 (by decide)
      | cons digit digits =>
        have isDigit := areDigits digit List.mem_cons_self
        rw [← (List.cons.inj closed).1] at isDigit
        exact absurd isDigit (by decide)
  | char c rest absent ih =>
    rw [Piece.read_char absent, List.flatMap_cons, Piece.filled, List.singleton_append] at closed
    cases digits with
    | nil => exact ⟨rest, by rw [(List.cons.inj closed).1, List.nil_append]⟩
    | cons digit digits =>
      rw [List.cons_append] at closed
      obtain ⟨same, following⟩ := List.cons.inj closed
      obtain ⟨behind, closes⟩ := ih (fun c member => areDigits c (List.mem_cons_of_mem _ member)) following
      exact ⟨behind, by rw [same, closes, List.cons_append]⟩

/-- A character that starts no slot of a format starts none once the format is filled. -/
theorem slotAt?_filled (plain : ∀ component ∈ components, IsPlain component) {c : Char} {rest : List Char}
    (absent : slotAt? (c :: rest) = none) :
    slotAt? (c :: (Piece.read rest).flatMap (Piece.filled components)) = none := by
  refine Option.eq_none_iff_forall_ne_some.mpr fun position found => ?_
  obtain ⟨after, same⟩ := (slotAt?_eq_some_iff _ _).mp found
  rw [slot_eq, List.cons_append, List.append_assoc, List.singleton_append] at same
  obtain ⟨rfl, closed⟩ := List.cons.inj same
  obtain ⟨behind, rfl⟩ := closes_of_filled plain rest (fun _ member => isDigit_of_mem_toDigits member) closed
  have starts : slotAt? (slot position ++ behind) = some position := slotAt?_slot position behind
  rw [slot_eq, List.cons_append, List.append_assoc, List.singleton_append, absent] at starts
  cases starts

/-- Plain components bring no slots into a format. -/
theorem read_filled (plain : ∀ component ∈ components, IsPlain component) (text : List Char) :
    Piece.read ((Piece.read text).flatMap (Piece.filled components)) =
      (Piece.read text).flatMap (Piece.opened components) := by
  induction text using Piece.read_induct with
  | nil => rfl
  | slot position rest ih =>
    rw [Piece.read_slot, List.flatMap_cons, List.flatMap_cons, Piece.filled, Piece.opened]
    cases found : components[position]? with
    | some component =>
      simp only
      rw [read_text_append (plain component (List.mem_of_getElem? found)).1, ih]
    | none =>
      simp only
      rw [Piece.read_slot, ih, List.singleton_append]
  | char c rest absent ih =>
    rw [Piece.read_char absent, List.flatMap_cons, List.flatMap_cons, Piece.filled, List.singleton_append,
      Piece.read_char (slotAt?_filled plain absent), ih, Piece.opened, List.singleton_append]

theorem slotCount_fillAtOnce (format : String) (plain : ∀ component ∈ components, IsPlain component)
    {position : Nat} (behind : components.length ≤ position) :
    slotCount position (fillAtOnce format components) = slotCount position format := by
  have opened (piece : Piece) :
      (piece.opened components).count (.slot position) = [piece].count (.slot position) := by
    cases piece with
    | char c => rfl
    | slot other =>
      rw [Piece.opened]
      cases found : components[other]? with
      | none => rfl
      | some component =>
        have before := (List.getElem?_eq_some_iff.mp found).1
        have apart : Piece.slot position ∉ [Piece.slot other] := by
          rw [List.mem_singleton, Piece.slot.injEq]
          omega
        rw [List.count_eq_zero.mpr apart]
        exact List.count_eq_zero.mpr (by simp)
  rw [slotCount, slotCount, fillAtOnce, String.toList_ofList, read_filled plain]
  induction Piece.read format.toList with
  | nil => rfl
  | cons piece row ih =>
    rw [List.flatMap_cons, List.count_append, opened, ih, ← List.count_append, List.singleton_append]

/-- A format shows its own slots only, if all components but the last one are plain. -/
theorem showsOwnSlots_of_isPlain (format : String)
    (plain : ∀ component ∈ components.dropLast, IsPlain component) : ShowsOwnSlots format components := by
  intro position within
  have early : ∀ component ∈ components.take position, IsPlain component := by
    intro component member
    refine plain component ?_
    rw [List.dropLast_eq_take]
    exact List.take_subset_take_left _ (Nat.le_sub_one_of_lt within) member
  exact slotCount_fillAtOnce format early (List.length_take_le _ _)

end PlainComponents

/-- Spellings come to a format whose slots are filled at once, if and as long as only slots of the format show when
they are filled. They always do so if the components, apart from the last one, have no braces and are more than
digits. -/
theorem slots_are_filled_at_once_iff (format : String) (components : List String) :
    (ShowsOwnSlots format components ↔ ∀ position < components.length, ∀ value,
      (positional format).apply (components.take position ++ [value]) =
        fillAtOnce format (components.take position ++ [value])) ∧
      (ShowsOwnSlots format components → (positional format).apply components = fillAtOnce format components) ∧
      ((∀ component ∈ components.dropLast, IsPlain component) → ShowsOwnSlots format components) :=
  ⟨showsOwnSlots_iff format components, apply_eq_fillAtOnce, showsOwnSlots_of_isPlain format⟩

/-- Components without braces go into a format at once. -/
theorem dictionary_is_filled_at_once :
    (∀ component ∈ ["string", "List<int>"].dropLast, IsPlain component) ∧
      (positional "Dictionary<\x7b0\x7d, \x7b1\x7d>").apply ["string", "List<int>"] =
        fillAtOnce "Dictionary<\x7b0\x7d, \x7b1\x7d>" ["string", "List<int>"] := by
  have plain : ∀ component ∈ ["string", "List<int>"].dropLast, IsPlain component :=
    List.forall_mem_singleton.mpr (by decide)
  obtain ⟨_, agrees, ownSlots⟩ :=
    slots_are_filled_at_once_iff "Dictionary<\x7b0\x7d, \x7b1\x7d>" ["string", "List<int>"]
  exact ⟨plain, agrees (ownSlots plain)⟩

/-- A slot that a component brings along is filled as if it were one of the format. -/
theorem component_slot_is_filled :
    (positional "Dictionary<\x7b0\x7d, \x7b1\x7d>").apply ["\x7b1\x7d", "int"] = "Dictionary<int, int>" ∧
      (positional "Dictionary<\x7b0\x7d, \x7b1\x7d>").apply ["\x7b1\x7d", "int"] ≠
        fillAtOnce "Dictionary<\x7b0\x7d, \x7b1\x7d>" ["\x7b1\x7d", "int"] := by
  decide

end TypeSyntax
end Retarget
