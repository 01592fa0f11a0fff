import Retarget.Proofs.TextOutlines
import Retarget.Proofs.UnbrokenTexts

/-! Trimmed texts: filled, on one line, and with no blank at the edges. Types are spelled by trimmed texts if their
spellings in the table are trimmed, also where nothing is filled in. -/
namespace Retarget

structure Trimmed (text : String) : Prop where
  unbroken : Unbroken text
  solid : Outline.solid.Holds text.toList

theorem trimmed_iff (text : String) : Trimmed text ↔ Outline.ofChars? text.toList = some .solid := by
  constructor
  · rintro ⟨unbroken, holds⟩
    have clean : text.toList.contains '\n' = false := by simpa [Unbroken] using unbroken
    have filled : text.toList.isEmpty = false := by simpa using holds.filled rfl
    have start : (text.toList.head?.all fun c => !Text.isBlank c) = true := by
      simpa [Option.all_eq_true] using holds.visibleStart rfl
    have finish : (text.toList.getLast?.all fun c => !Text.isBlank c) = true := by
      simpa [Option.all_eq_true] using holds.visibleEnd rfl
    rw [Outline.ofChars?, clean, filled, start, finish]
    rfl
  · intro known
    refine ⟨fun feed => ?_, Outline.holds_ofChars known⟩
    rw [Outline.ofChars?, if_pos (List.contains_iff_mem.mpr feed)] at known
    cases known

instance (text : String) : Decidable (Trimmed text) := decidable_of_iff _ (trimmed_iff text).symm

theorem Blankless.trimmed {text : String} (blankless : Blankless text) (filled : text ≠ "") : Trimmed text where
  unbroken := blankless.unbroken
  solid := Outline.holds_of_visible (by simpa using filled) blankless

theorem Trimmed.intercalate {separator : String} (apart : Unbroken separator) (pieces : List String)
    (trimmed : ∀ piece ∈ pieces, Trimmed piece) (some : pieces ≠ []) : Trimmed (separator.intercalate pieces) where
  unbroken := unbroken_intercalate separator pieces apart fun piece listed => (trimmed piece listed).unbroken
  solid := Outline.holds_intercalate (.of_notMem apart) pieces (fun piece listed => (trimmed piece listed).solid) some

namespace Text

theorem visibleEnd_replaceFrom (pattern : List Char) {replacement : List Char}
    (inserted : Outline.solid.Holds replacement) (skip : Nat) (text : List Char)
    (visibleEnd : ∀ c ∈ text.getLast?, isBlank c = false) :
    ∀ c ∈ (replaceFrom pattern replacement skip text).getLast?, isBlank c = false := by
  have later {d : Char} {rest : List Char} (ends : ∀ c ∈ (d :: rest).getLast?, isBlank c = false) :
      ∀ c ∈ rest.getLast?, isBlank c = false := fun c last => ends c (by
    rw [Option.mem_def] at last
    rw [List.getLast?_cons, last]
    rfl)
  fun_induction replaceFrom pattern replacement skip text with
  | case1 => exact visibleEnd
  | case2 skip d rest ih => exact ih (later visibleEnd)
  | case3 d rest starts ih =>
    intro c last
    rw [List.getLast?_append] at last
    cases found : (replaceFrom pattern replacement (pattern.length - 1) rest).getLast? with
    | none =>
      rw [found] at last
      exact inserted.visibleEnd rfl c last
    | some final =>
      rw [found] at last
      exact ih (later visibleEnd) c (found.trans last)
  | case4 d rest other ih =>
    intro c last
    rw [List.getLast?_cons] at last
    cases rest with
    | nil => exact visibleEnd c last
    | cons e rest =>
      -- What is left is not empty, because something visible is put in for every occurrence.
      have filled : replaceFrom pattern replacement 0 (e :: rest) ≠ [] := by
        rw [replaceFrom]
        split
        · exact fun empty => inserted.filled rfl (List.append_eq_nil_iff.mp empty).1
        · exact List.cons_ne_nil _ _
      rw [List.getLast?_eq_some_getLast filled] at last
      exact ih (later visibleEnd) c ((List.getLast?_eq_some_getLast filled).trans last)

end Text

namespace TypeSyntax

/-- Trimmed texts put in for slots leave a text trimmed. -/
theorem trimmed_fill {format : String} (position : Nat) {value : String} (trimmed : Trimmed format)
    (inserted : Trimmed value) : Trimmed (fill format position value) := by
  have clean := unbroken_fill format position value trimmed.unbroken inserted.unbroken
  have start : ∀ c rest, format.toList = c :: rest →
      ∃ d others, (fill format position value).toList = d :: others ∧ Text.isBlank d = false := by
    intro c rest split
    rw [fill, String.toList_ofList, Text.replace, split, Text.replaceFrom]
    split
    · cases chars : value.toList with
      | nil => exact absurd chars (inserted.solid.filled rfl)
      | cons d others => exact ⟨d, _, rfl, inserted.solid.visibleStart rfl d (by rw [chars]; rfl)⟩
    · exact ⟨c, _, rfl, trimmed.solid.visibleStart rfl c (by rw [split]; rfl)⟩
  cases chars : format.toList with
  | nil => exact absurd chars (trimmed.solid.filled rfl)
  | cons c rest =>
    obtain ⟨d, others, whole, visible⟩ := start c rest chars
    refine ⟨clean, .of_notMem clean, fun _ => ?_, fun _ => ?_, fun _ => ?_, fun _ => ?_⟩
    · simp [whole]
    · simpa [whole] using visible
    · simpa [whole] using Outline.ne_feed_of_visible visible
    · rw [fill, String.toList_ofList]
      exact Text.visibleEnd_replaceFrom _ inserted.solid 0 _ (trimmed.solid.visibleEnd rfl)

theorem trimmed_fillFrom {format : String} (position : Nat) (components : List String) (trimmed : Trimmed format)
    (inserted : ∀ component ∈ components, Trimmed component) : Trimmed (fillFrom format position components) := by
  induction components generalizing format position with
  | nil => exact trimmed
  | cons component rest ih =>
    rw [List.forall_mem_cons] at inserted
    exact ih _ (trimmed_fill position trimmed inserted.1) inserted.2

/-- What types are spelled with is trimmed. A slot for all components may also have to take none. -/
def IsTrimmed : TypeSyntax → Prop
  | plain text => Trimmed text
  | positional format => Trimmed format
  | variadic format separator => Trimmed format ∧ Trimmed (fill format 0 "") ∧ Unbroken separator
  | callable format procedure bare _ separator =>
    (Trimmed format ∧ Trimmed (fill format 0 "") ∧ Unbroken separator) ∧ Trimmed procedure ∧ Trimmed bare

instance : DecidablePred IsTrimmed
  | plain text => inferInstanceAs (Decidable (Trimmed text))
  | positional format => inferInstanceAs (Decidable (Trimmed format))
  | variadic format separator =>
    inferInstanceAs (Decidable (Trimmed format ∧ Trimmed (fill format 0 "") ∧ Unbroken separator))
  | callable format procedure bare _ separator =>
    inferInstanceAs (Decidable
      ((Trimmed format ∧ Trimmed (fill format 0 "") ∧ Unbroken separator) ∧ Trimmed procedure ∧ Trimmed bare))

variable {components : List String} (inserted : ∀ component ∈ components, Trimmed component)
include inserted

theorem trimmed_fill_intercalate {format separator : String}
    (trimmed : Trimmed format ∧ Trimmed (fill format 0 "") ∧ Unbroken separator) :
    Trimmed (fill format 0 (separator.intercalate components)) := by
  cases components with
  | nil => exact trimmed.2.1
  | cons => exact trimmed_fill 0 trimmed.1 (.intercalate trimmed.2.2 _ inserted nofun)

theorem trimmed_apply (spelling : TypeSyntax) (trimmed : spelling.IsTrimmed) :
    Trimmed (spelling.apply components) := by
  cases spelling with
  | plain text => exact trimmed
  | positional format => exact trimmed_fillFrom 0 components trimmed inserted
  | variadic format separator => exact trimmed_fill_intercalate inserted trimmed
  | callable format procedure bare void separator =>
    obtain ⟨all, procedure, bare⟩ := trimmed
    rw [apply]
    split
    · split
      · exact bare
      · rename_i some
        refine trimmed_fill 0 procedure (.intercalate all.2.2 _ (fun param listed => ?_) some)
        exact inserted param (List.dropLast_subset _ listed)
    · exact trimmed_fill_intercalate inserted all

end TypeSyntax

/-- The spellings of a table are trimmed, and so are the names that stand for themselves. -/
structure TrimmedTypes (types : TypeTable) (declared : List String) : Prop where
  spellings : ∀ name spelling, types.get? name = some spelling → spelling.IsTrimmed
  names : ∀ name ∈ declared, Trimmed name

namespace SemType

section Spelled

variable {types : TypeTable} {declared : List String} {P : String → Prop}

theorem forall_renderAll (args : List SemType) (components : List String)
    (rendered : renderAll types declared args = .ok components)
    (each : ∀ type ∈ args, ∀ text, type.render types declared = .ok text → P text) :
    ∀ component ∈ components, P component := by
  induction args generalizing components with
  | nil =>
    cases rendered
    exact nofun
  | cons type rest ih =>
    rw [renderAll] at rendered
    obtain ⟨first, inner, continued⟩ := (bind_eq_ok_iff _ _ _).mp rendered
    obtain ⟨others, following, same⟩ := (bind_eq_ok_iff _ _ _).mp continued
    cases same
    rw [List.forall_mem_cons] at each ⊢
    exact ⟨each.1 first inner, ih others following each.2⟩

variable (numbers : ∀ value : Nat, P (toString value)) (names : ∀ name ∈ declared, P name)
  (spellings : ∀ name spelling, types.get? name = some spelling →
    ∀ components : List String, (∀ component ∈ components, P component) → P (spelling.apply components))
include numbers names spellings

/-- What holds of numbers and declared names, and of a spelling if it does of its components, holds of all types. -/
theorem forall_render (type : SemType) (text : String) (rendered : type.render types declared = .ok text) : P text := by
  match type with
  | .named name =>
    rw [render] at rendered
    split at rendered
    · rename_i spelling found
      cases rendered
      exact spellings name spelling found [] (List.forall_mem_nil _)
    · split at rendered
      · rename_i known
        cases rendered
        exact names _ (List.contains_iff_mem.mp known)
      · cases rendered
  | .container name args =>
    rw [render] at rendered
    split at rendered
    · rename_i spelling found
      obtain ⟨components, inner, same⟩ := (bind_eq_ok_iff _ _ _).mp rendered
      cases same
      exact spellings name spelling found components
        (forall_renderAll args components inner fun arg _ text written => forall_render arg text written)
    · cases rendered
  | .fixedArray element size =>
    rw [render] at rendered
    split at rendered
    · rename_i spelling found
      obtain ⟨component, inner, same⟩ := (bind_eq_ok_iff _ _ _).mp rendered
      cases same
      refine spellings "Array" spelling found _ ?_
      rw [List.forall_mem_cons, List.forall_mem_singleton]
      exact ⟨forall_render element component inner, numbers size⟩
    · cases rendered

end Spelled

theorem trimmed_render {types : TypeTable} {declared : List String} (trimmed : TrimmedTypes types declared)
    (type : SemType) (text : String) (rendered : type.render types declared = .ok text) : Trimmed text :=
  forall_render (fun value => (blankless_toString_nat value).trimmed (toString_nat_ne_empty value)) trimmed.names
    (fun name spelling found _ inserted => TypeSyntax.trimmed_apply inserted spelling
      (trimmed.spellings name spelling found)) type text rendered

end SemType

end Retarget
