import Retarget.Proofs.Descriptors
import Retarget.Proofs.LastRegistrations
import Retarget.Proofs.TypeRows
import Retarget.Proofs.WovenTexts

/-! Complete types. A type that is read has containers with as many components as their names ask for, but its names may
be any: a scalar may have the name of a container, and a container that of a scalar. The text of a type is complete if
no slot is left in it and if the components of all its containers stand in their places. -/
namespace Retarget

namespace SemType

mutual
/-- A type and all types inside it. -/
def parts : SemType → List SemType
  | .named name => [.named name]
  | .container name args => .container name args :: allParts args
  | .fixedArray element size => .fixedArray element size :: element.parts
def allParts : List SemType → List SemType
  | [] => []
  | type :: rest => type.parts ++ allParts rest
end

/-- The components that are to stand in the text of a type: all of them, but for a final `Void` of a function, which
has a form of its own for it. -/
def shown : SemType → List SemType
  | .container name args => if name = "Function" ∧ args.getLast? = some void then args.dropLast else args
  | type => type.components

/-- The type with others in the places of the components shown. -/
def withShown (type : SemType) (others : List SemType) : SemType :=
  match type with
  | .named name => .named name
  | .container name args => .container name (others ++ args.drop type.shown.length)
  | .fixedArray element size => .fixedArray (others.headD element) size

/-- A name that a class can have, and that no type of the table has. -/
structure IsClass (types : TypeTable) (name : String) : Prop where
  isIdentifier : CSharp.IsIdentifier name.toList
  other : name ≠ "void"
  unlisted : types.get? name = none

theorem IsClass.slotless {types : TypeTable} {name : String} (isClass : IsClass types name) : '\x7b' ∉ name.toList :=
  CSharp.notMem_of_isWord isClass.isIdentifier.toIsWord

/-- The components that a type shows stand in its text, between pieces that would be the same for classes of any names
in their places. -/
structure ShowsBetween (types : TypeTable) (declared : List String) (type : SemType) (pieces : List (List Char)) :
    Prop where
  length : pieces.length = type.shown.length + 1
  exists_texts : ∃ text texts, type.render types declared = .ok text ∧ renderAll types declared type.shown = .ok texts ∧
    text.toList = interleave pieces (texts.map String.toList)
  alike : ∀ names : List String, names.length = type.shown.length → (∀ name ∈ names, IsClass types name) →
    ∃ text, (type.withShown (names.map .named)).render types (names ++ declared) = .ok text ∧
      text.toList = interleave pieces (names.map String.toList)

def ShowsComponents (types : TypeTable) (declared : List String) (type : SemType) : Prop :=
  ∃ pieces, type.ShowsBetween types declared pieces

/-- A scalar whose name has no slot to fill, or a container whose name takes components. A function that returns what a
class called `void` is takes it for no result. -/
def IsSpelledOut : SemType → Prop
  | .named name => name ∉ ["List", "Dictionary", "Set", "Array"]
  | .container name args => name ∈ containers ∧ ¬(name = "Function" ∧ args.getLast? = some (.named "void"))
  | .fixedArray _ _ => True

instance : DecidablePred IsSpelledOut
  | .named _ => inferInstanceAs (Decidable (¬_ ∈ _))
  | .container _ _ => inferInstanceAs (Decidable (_ ∧ ¬_))
  | .fixedArray _ _ => inferInstanceAs (Decidable True)

theorem not_countFits_zero (name : String) : ¬CountFits name 0 := by
  unfold CountFits
  split_ifs <;> simp

theorem mem_parts_self (type : SemType) : type ∈ type.parts := by
  cases type <;> simp [parts]

theorem mem_allParts_iff (part : SemType) (args : List SemType) :
    part ∈ allParts args ↔ ∃ arg ∈ args, part ∈ arg.parts := by
  induction args with
  | nil => simp [allParts]
  | cons arg args ih => simp [allParts, ih]

/-- A type shows all its components, or all but a `Void` that a function returns. -/
theorem container_cases (name : String) (args : List SemType) :
    ((container name args).shown = args ∧ ¬(name = "Function" ∧ args.getLast? = some void)) ∨
      name = "Function" ∧ args = (container name args).shown ++ [void] := by
  rw [shown]
  split
  · rename_i returns
    obtain ⟨init, rfl⟩ := List.getLast?_eq_some_iff.mp returns.2
    exact .inr ⟨returns.1, by rw [List.dropLast_concat]⟩
  · rename_i other
    exact .inl ⟨rfl, other⟩

theorem shown_subset {name : String} {args : List SemType} : (container name args).shown ⊆ args := by
  rw [shown]
  split
  · exact List.dropLast_subset _
  · exact List.Subset.refl _

section Rows

variable {types : TypeTable} {declared : List String}

theorem renderAll_eq_ok_iff (args : List SemType) (texts : List String) :
    renderAll types declared args = .ok texts ↔
      List.Forall₂ (fun arg text => arg.render types declared = .ok text) args texts := by
  have mapped : renderAll types declared args = args.mapM (render types declared) := by
    induction args with
    | nil => rfl
    | cons arg args ih => rw [renderAll, ih, List.mapM_cons]
  rw [mapped, mapM_eq_ok_iff]

theorem renderAll_append_eq_ok_iff (args others : List SemType) (texts : List String) :
    renderAll types declared (args ++ others) = .ok texts ↔ ∃ front back,
      renderAll types declared args = .ok front ∧ renderAll types declared others = .ok back ∧
        texts = front ++ back := by
  simp only [renderAll_eq_ok_iff]
  constructor
  · intro related
    have turned := related.flip
    exact ⟨_, _, (List.forall₂_take_append _ _ _ turned).flip, (List.forall₂_drop_append _ _ _ turned).flip,
      (List.take_append_drop _ _).symm⟩
  · rintro ⟨front, back, first, second, rfl⟩
    exact List.rel_append first second

theorem render_named {name : String} (unlisted : types.get? name = none) (known : name ∈ declared) :
    (named name).render types declared = .ok name := by
  rw [render, unlisted]
  exact if_pos (List.contains_iff_mem.mpr known)

/-- Classes are written by their names. -/
theorem renderAll_named {names : List String} (classes : ∀ name ∈ names, IsClass types name) :
    renderAll types (names ++ declared) (names.map .named) = .ok names := by
  rw [renderAll_eq_ok_iff, List.forall₂_map_left_iff, List.forall₂_same]
  exact fun name member => render_named (classes name member).unlisted (List.mem_append_left _ member)

theorem eq_of_render_named {name text : String} (unlisted : types.get? name = none)
    (rendered : (named name).render types declared = .ok text) : text = name := by
  rw [render, unlisted] at rendered
  dsimp only at rendered
  split at rendered
  · exact (Except.ok.inj rendered).symm
  · cases rendered

theorem render_container {name : String} {args : List SemType} {spelling : TypeSyntax}
    (found : types.get? name = some spelling) {texts : List String}
    (inner : renderAll types declared args = .ok texts) :
    (container name args).render types declared = .ok (spelling.apply texts) := by
  rw [render, found]
  simp only [inner]
  rfl

/-- What is written of a container, once it is found in the table. -/
theorem exists_spelling {name : String} {args : List SemType} {text : String}
    (rendered : (container name args).render types declared = .ok text) : ∃ spelling texts,
      types.get? name = some spelling ∧ renderAll types declared args = .ok texts ∧ text = spelling.apply texts := by
  rw [render] at rendered
  split at rendered
  · rename_i spelling found
    obtain ⟨texts, inner, same⟩ := (bind_eq_ok_iff _ _ _).mp rendered
    exact ⟨spelling, texts, found, inner, (Except.ok.inj same).symm⟩
  · cases rendered

theorem exists_of_forall₂_of_mem {α β : Type} {R : α → β → Prop} {xs : List α} {ys : List β}
    (related : List.Forall₂ R xs ys) {x : α} (member : x ∈ xs) : ∃ y ∈ ys, R x y := by
  induction related with
  | nil => cases member
  | cons same _ ih =>
    rcases List.mem_cons.mp member with rfl | member
    · exact ⟨_, List.mem_cons_self, same⟩
    · obtain ⟨y, listed, behind⟩ := ih member
      exact ⟨y, List.mem_cons_of_mem _ listed, behind⟩

theorem exists_text_of_mem {args : List SemType} {texts : List String}
    (inner : renderAll types declared args = .ok texts) {arg : SemType} (member : arg ∈ args) :
    ∃ text ∈ texts, arg.render types declared = .ok text :=
  exists_of_forall₂_of_mem ((renderAll_eq_ok_iff args texts).mp inner) member

theorem exists_arg_of_mem {args : List SemType} {texts : List String}
    (inner : renderAll types declared args = .ok texts) {text : String} (listed : text ∈ texts) :
    ∃ arg ∈ args, arg.render types declared = .ok text :=
  exists_of_forall₂_of_mem ((renderAll_eq_ok_iff args texts).mp inner).flip listed

end Rows

end SemType

namespace CSharp

open SemType TypeSyntax

/-- The pieces around components have no braces, and no text that has them is `void`. -/
structure Surrounds (pieces : List (List Char)) : Prop where
  slotless : ∀ piece ∈ pieces, '\x7b' ∉ piece
  other : ∃ c ∈ pieces.flatten, c ∉ "void".toList

section Spellings

theorem exists_pieces_generic (word : String) (slotless : '\x7b' ∉ word.toList) (count : Nat) (some : 0 < count) :
    ∃ pieces : List (List Char), pieces.length = count + 1 ∧ Surrounds pieces ∧
      ∀ texts : List String, texts.length = count →
        (generic word texts).toList = interleave pieces (texts.map String.toList) := by
  obtain ⟨pieces, length, first, among, same⟩ :=
    exists_pieces_around (word.toList ++ ['<']) ", ".toList ['>'] (count - 1)
  refine ⟨pieces, by omega, ⟨fun piece member => ?_, '<', ?_, by decide⟩, fun texts counted => ?_⟩
  · rcases among piece member with rfl | rfl | rfl
    · simp [slotless]
    · decide
    · decide
  · exact List.mem_flatten.mpr ⟨_, first, by simp⟩
  · rw [← same _ (by rw [List.length_map]; omega), generic, String.toList_ofList]
    simp

/-- A container that has components shows them, if no slot is among them and a function does not end in `void`. -/
theorem exists_pieces_apply {name : String} (listed : name ∈ containers) {spelling : TypeSyntax}
    (found : types.get? name = some spelling) {count : Nat} (fits : (Arity.ofContainer name).admits count = true) :
    ∃ pieces : List (List Char), pieces.length = count + 1 ∧ Surrounds pieces ∧
      ∀ texts : List String, texts.length = count → (∀ text ∈ texts, '\x7b' ∉ text.toList) →
        (name = "Function" → texts.getLast? ≠ some "void") →
        (spelling.apply texts).toList = interleave pieces (texts.map String.toList) := by
  simp only [containers, List.mem_cons, List.not_mem_nil, or_false] at listed
  rcases listed with rfl | rfl | rfl | rfl | rfl | rfl <;> cases found
  · obtain rfl := beq_iff_eq.mp fits
    obtain ⟨pieces, length, surrounds, same⟩ := exists_pieces_generic "List" (by decide) 1 Nat.one_pos
    exact ⟨pieces, length, surrounds, fun texts single _ _ => (apply_single single).1 ▸ same texts single⟩
  · obtain rfl := beq_iff_eq.mp fits
    obtain ⟨pieces, length, surrounds, same⟩ := exists_pieces_generic "Dictionary" (by decide) 2 Nat.two_pos
    exact ⟨pieces, length, surrounds, fun texts pair slotless _ => apply_pair pair slotless ▸ same texts pair⟩
  · obtain rfl := beq_iff_eq.mp fits
    obtain ⟨pieces, length, surrounds, same⟩ := exists_pieces_generic "HashSet" (by decide) 1 Nat.one_pos
    exact ⟨pieces, length, surrounds, fun texts single _ _ => (apply_single single).2 ▸ same texts single⟩
  · cases fits
  · have some : 2 ≤ count := of_decide_eq_true fits
    obtain ⟨pieces, length, surrounds, same⟩ := exists_pieces_generic "Tuple" (by decide) count (by omega)
    exact ⟨pieces, length, surrounds, fun texts counted _ _ => same texts counted⟩
  · have some : 1 ≤ count := of_decide_eq_true fits
    obtain ⟨pieces, length, surrounds, same⟩ := exists_pieces_generic "Func" (by decide) count some
    exact ⟨pieces, length, surrounds, fun texts counted _ last => apply_function (last rfl) ▸ same texts counted⟩

/-- A function whose result is `void` shows its parameters. -/
theorem exists_pieces_procedure {spelling : TypeSyntax} (found : types.get? "Function" = some spelling) (count : Nat) :
    ∃ pieces : List (List Char), pieces.length = count + 1 ∧ Surrounds pieces ∧
      ∀ texts : List String, texts.length = count →
        (spelling.apply (texts ++ ["void"])).toList = interleave pieces (texts.map String.toList) := by
  cases found
  cases count with
  | zero =>
    refine ⟨["Action".toList], rfl, ⟨by decide, 'A', by decide, by decide⟩, fun texts none => ?_⟩
    rw [List.length_eq_zero_iff.mp none]
    rfl
  | succ count =>
    obtain ⟨pieces, length, surrounds, same⟩ := exists_pieces_generic "Action" (by decide) (count + 1) count.succ_pos
    refine ⟨pieces, length, surrounds, fun texts counted => ?_⟩
    rw [apply_procedure (List.ne_nil_of_length_eq_add_one counted)]
    exact same texts counted

end Spellings

section Clean

variable {declared : List String}

/-- No slot is left in the text of a type, and it is `void` for nothing but `Void` and a class of this name. -/
structure Clean (type : SemType) (text : String) : Prop where
  slotless : '\x7b' ∉ text.toList
  isVoid : text = "void" → type = void ∨ type = .named "void"

theorem clean_of_showsBetween {type : SemType} {pieces : List (List Char)}
    (shows : type.ShowsBetween types declared pieces) (surrounds : Surrounds pieces)
    (inner : ∀ arg ∈ type.shown, ∀ text, arg.render types declared = .ok text → Clean arg text) {text : String}
    (rendered : type.render types declared = .ok text) : Clean type text := by
  obtain ⟨other, texts, rendered', components, same⟩ := shows.exists_texts
  obtain rfl := Except.ok.inj (rendered.symm.trans rendered')
  constructor
  · rw [same]
    refine notMem_interleave surrounds.slotless (List.forall_mem_map.mpr fun component listed => ?_)
    obtain ⟨arg, member, written⟩ := exists_arg_of_mem components listed
    exact (inner arg member component written).slotless
  · rintro rfl
    obtain ⟨c, member, apart⟩ := surrounds.other
    rw [same] at apart
    exact absurd (mem_interleave _ member) apart

/-- Only `Void` and a class called `void` are written `void` at the end of clean components. -/
theorem getLast?_ne_void {args : List SemType} {texts : List String}
    (inner : ∀ arg ∈ args, ∀ text, arg.render types declared = .ok text → Clean arg text)
    (components : renderAll types declared args = .ok texts) (noVoid : args.getLast? ≠ some void)
    (noClass : args.getLast? ≠ some (.named "void")) : texts.getLast? ≠ some "void" := by
  intro ends
  have related := Profile.rel_getLast? ((renderAll_eq_ok_iff _ _).mp components)
  rw [ends] at related
  generalize final : args.getLast? = ending at related
  cases related with
  | some written =>
    rcases (inner _ (List.mem_of_getLast? final) _ written).isVoid rfl with rfl | rfl
    · exact noVoid final
    · exact noClass final

section Containers

variable {name : String} {args : List SemType} {spelling : TypeSyntax} {texts : List String}
  (found : types.get? name = some spelling) (components : renderAll types declared args = .ok texts)
include found components

/-- A container that shows all its components has a place for each. -/
theorem exists_showsBetween_of_shown (listed : name ∈ containers)
    (fits : (Arity.ofContainer name).admits args.length = true) (all : (container name args).shown = args)
    (slotless : ∀ text ∈ texts, '\x7b' ∉ text.toList) (last : name = "Function" → texts.getLast? ≠ some "void") :
    ∃ pieces, Surrounds pieces ∧ (container name args).ShowsBetween types declared pieces := by
  obtain ⟨pieces, length, surrounds, same⟩ := exists_pieces_apply listed found fits
  have counted := ((renderAll_eq_ok_iff _ _).mp components).length_eq
  refine ⟨pieces, surrounds, ⟨by rw [all, length], ?_, fun names many classes => ?_⟩⟩
  · exact ⟨_, texts, render_container found components, all.symm ▸ components, same texts counted.symm slotless last⟩
  · rw [all] at many
    refine ⟨_, ?_, same names many (fun name member => (classes name member).slotless) ?_⟩
    · rw [withShown, all, List.drop_length, List.append_nil]
      exact render_container found (renderAll_named classes)
    · exact fun _ ends => (classes _ (List.mem_of_getLast? ends)).other rfl

/-- A function without a result has a place for each parameter. -/
theorem exists_showsBetween_of_procedure (isFunction : name = "Function")
    (ends : args = (container name args).shown ++ [void]) :
    ∃ pieces, Surrounds pieces ∧ (container name args).ShowsBetween types declared pieces := by
  subst isFunction
  have rendered := render_container found components
  have ending : args.drop (container "Function" args).shown.length = [void] := by
    generalize (container "Function" args).shown = params at ends ⊢
    rw [ends, List.drop_left]
  rw [ends] at components
  obtain ⟨params, result, first, second, rfl⟩ := (renderAll_append_eq_ok_iff _ _ _).mp components
  obtain rfl : result = ["void"] := (Except.ok.inj second).symm
  obtain ⟨pieces, length, surrounds, same⟩ := exists_pieces_procedure found (container "Function" args).shown.length
  refine ⟨pieces, surrounds, ⟨length, ?_, fun names many classes => ?_⟩⟩
  · exact ⟨_, params, rendered, first, same params ((renderAll_eq_ok_iff _ _).mp first).length_eq.symm⟩
  · refine ⟨_, ?_, same names many⟩
    rw [withShown, ending]
    exact render_container found ((renderAll_append_eq_ok_iff _ _ _).mpr ⟨_, _, renderAll_named classes, rfl, rfl⟩)

end Containers

/-- A container that is spelled out shows its components, if these are clean. -/
theorem exists_showsBetween_container {name : String} {args : List SemType}
    (fits : (Arity.ofContainer name).admits args.length = true) (out : (container name args).IsSpelledOut)
    (inner : ∀ arg ∈ args, ∀ text, arg.render types declared = .ok text → Clean arg text) {text : String}
    (rendered : (container name args).render types declared = .ok text) :
    ∃ pieces, Surrounds pieces ∧ (container name args).ShowsBetween types declared pieces := by
  obtain ⟨spelling, texts, found, components, rfl⟩ := exists_spelling rendered
  rcases container_cases name args with ⟨all, noResult⟩ | ⟨isFunction, ends⟩
  · refine exists_showsBetween_of_shown found components out.1 fits all (fun text listed => ?_) fun isFunction => ?_
    · obtain ⟨arg, member, written⟩ := exists_arg_of_mem components listed
      exact (inner arg member text written).slotless
    · exact getLast?_ne_void inner components (fun final => noResult ⟨isFunction, final⟩)
        fun final => out.2 ⟨isFunction, final⟩
  · exact exists_showsBetween_of_procedure found components isFunction ends

/-- An array shows its element, if this is clean. -/
theorem exists_showsBetween_fixedArray {element : SemType} {size : Nat}
    (inner : ∀ text, element.render types declared = .ok text → Clean element text) {text : String}
    (rendered : (fixedArray element size).render types declared = .ok text) :
    ∃ pieces, Surrounds pieces ∧ (fixedArray element size).ShowsBetween types declared pieces := by
  obtain ⟨component, inner', same⟩ : ∃ component, element.render types declared = .ok component ∧
      text = (positional "\x7b0\x7d[]").apply [component, toString size] := by
    obtain ⟨component, written, same⟩ := (bind_eq_ok_iff _ _ _).mp rendered
    exact ⟨component, written, (Except.ok.inj same).symm⟩
  rw [apply_fixedArray (inner component inner').slotless] at same
  subst same
  refine ⟨[[], "[]".toList], ⟨by decide, '[', by decide, by decide⟩, rfl, ?_, fun names many classes => ?_⟩
  · have all : renderAll types declared [element] = .ok [component] := by
      rw [renderAll, inner']
      rfl
    exact ⟨_, [component], rendered, all, by simp [interleave]⟩
  · obtain ⟨name, rfl⟩ := List.length_eq_one_iff.mp many
    have isClass := classes name List.mem_cons_self
    refine ⟨name ++ "[]", ?_, by simp [interleave]⟩
    rw [withShown, List.map_singleton, List.headD_cons, render,
      render_named isClass.unlisted (List.mem_append_left _ List.mem_cons_self)]
    exact congrArg Except.ok (apply_fixedArray isClass.slotless _)

theorem clean_scalar (names : ∀ name ∈ declared, IsIdentifier name.toList) {name : String}
    (out : (named name).IsSpelledOut) {text : String} (rendered : (named name).render types declared = .ok text) :
    Clean (named name) text := by
  have listed : ∀ entry ∈ types.entries, entry.1 ∉ ["List", "Dictionary", "Set", "Array"] →
      '\x7b' ∉ (entry.2.apply []).toList ∧ (entry.2.apply [] = "void" → entry.1 = "Void") := by decide
  rw [render] at rendered
  split at rendered
  · rename_i spelling found
    cases rendered
    obtain ⟨slotless, isVoid⟩ := listed _ (types.mem_entries_of_get? name spelling found) out
    exact ⟨slotless, fun same => .inl (congrArg named (isVoid same))⟩
  · split at rendered
    · rename_i known
      cases rendered
      exact ⟨notMem_of_isWord (names _ (List.contains_iff_mem.mp known)).toIsWord,
        fun same => .inr (congrArg named same)⟩
    · cases rendered

theorem showsComponents_scalar {name : String} {text : String}
    (rendered : (named name).render types declared = .ok text) : (named name).ShowsComponents types declared := by
  refine ⟨[text.toList], rfl, ⟨text, [], rendered, rfl, (List.append_nil _).symm⟩, fun names none _ => ?_⟩
  obtain rfl := List.length_eq_zero_iff.mp none
  exact ⟨text, rendered, (List.append_nil _).symm⟩

/-- A type that is spelled out everywhere has a clean text, in which its components are. -/
theorem clean_render (names : ∀ name ∈ declared, IsIdentifier name.toList) {type : SemType} (regular : type.Regular)
    (out : ∀ part ∈ type.parts, part.IsSpelledOut) {text : String} (rendered : type.render types declared = .ok text) :
    Clean type text ∧ type.ShowsComponents types declared := by
  induction regular generalizing text with
  | named name => exact ⟨clean_scalar names (out _ (mem_parts_self _)) rendered, showsComponents_scalar rendered⟩
  | container name args other fits _ ih =>
    rw [SemType.parts, List.forall_mem_cons] at out
    have inner (arg : SemType) (member : arg ∈ args) (component : String)
        (written : arg.render types declared = .ok component) : Clean arg component :=
      (ih arg member (fun part within => out.2 part ((mem_allParts_iff _ _).mpr ⟨arg, member, within⟩)) written).1
    obtain ⟨pieces, surrounds, shows⟩ :=
      exists_showsBetween_container ((admits_iff _ _).mpr ⟨other, fits⟩) out.1 inner rendered
    exact ⟨clean_of_showsBetween shows surrounds (fun arg member => inner arg (shown_subset member)) rendered,
      pieces, shows⟩
  | fixedArray element size _ fits ih =>
    rw [SemType.parts, List.forall_mem_cons] at out
    have inner (component : String) (written : element.render types declared = .ok component) :
        Clean element component := (ih out.2 written).1
    obtain ⟨pieces, surrounds, shows⟩ := exists_showsBetween_fixedArray inner rendered
    exact ⟨clean_of_showsBetween shows surrounds (List.forall_mem_singleton.mpr inner) rendered, pieces, shows⟩

end Clean

section Incomplete

variable {declared : List String}

/-- The text of a component that is shown is part of the text. -/
theorem exists_infix_of_showsComponents {type part : SemType} (shows : type.ShowsComponents types declared)
    (isShown : part ∈ type.shown) {text : String} (rendered : type.render types declared = .ok text) :
    ∃ component, part.render types declared = .ok component ∧ component.toList <:+: text.toList := by
  obtain ⟨pieces, length, ⟨other, texts, again, components, same⟩, _⟩ := shows
  obtain rfl := Except.ok.inj (rendered.symm.trans again)
  obtain ⟨component, listed, written⟩ := exists_text_of_mem components isShown
  have counted := ((renderAll_eq_ok_iff _ _).mp components).length_eq
  refine ⟨component, written, ?_⟩
  rw [same]
  exact infix_interleave (by rw [length, List.length_map, counted]) (List.mem_map_of_mem listed)

/-- The slot of a scalar is left wherever the components stand in the texts around it. -/
theorem slot_infix_render {type : SemType} (regular : type.Regular)
    (shows : ∀ part ∈ type.parts, part.ShowsComponents types declared) {name : String}
    (slotted : name ∈ ["List", "Dictionary", "Set", "Array"]) (within : .named name ∈ type.parts) {text : String}
    (rendered : type.render types declared = .ok text) : slot 0 <:+: text.toList := by
  induction regular generalizing text with
  | named other =>
    obtain rfl := SemType.named.inj (List.mem_singleton.mp within)
    simp only [List.mem_cons, List.not_mem_nil, or_false] at slotted
    rcases slotted with rfl | rfl | rfl | rfl <;> cases rendered <;> decide
  | container head args _ _ _ ih =>
    rw [SemType.parts, List.forall_mem_cons] at shows
    have deeper : .named name ∈ allParts args := by
      rcases List.mem_cons.mp within with isSelf | deeper
      · cases isSelf
      · exact deeper
    obtain ⟨arg, member, inside⟩ := (mem_allParts_iff _ _).mp deeper
    have isShown : arg ∈ (container head args).shown := by
      rcases container_cases head args with ⟨all, _⟩ | ⟨_, ends⟩
      · rwa [all]
      · rw [ends] at member
        rcases List.mem_append.mp member with isShown | isVoid
        · exact isShown
        · rw [List.mem_singleton.mp isVoid, void, SemType.parts, List.mem_singleton, named.injEq] at inside
          rw [inside] at slotted
          exact absurd slotted (by decide)
    obtain ⟨component, written, part⟩ := exists_infix_of_showsComponents shows.1 isShown rendered
    have below : ∀ part ∈ arg.parts, part.ShowsComponents types declared := fun part deep =>
      shows.2 part ((mem_allParts_iff _ _).mpr ⟨arg, member, deep⟩)
    exact (ih arg member below inside written).trans part
  | fixedArray element size _ _ ih =>
    rw [SemType.parts, List.forall_mem_cons] at shows
    have deeper : .named name ∈ element.parts := by
      rcases List.mem_cons.mp within with isSelf | deeper
      · cases isSelf
      · exact deeper
    obtain ⟨component, written, part⟩ := exists_infix_of_showsComponents shows.1 List.mem_cons_self rendered
    exact (ih shows.2 deeper written).trans part

/-- A container that shows its components has a name that takes some. -/
theorem mem_containers_of_showsComponents {name : String} {args : List SemType} (filled : args ≠ [])
    (shows : (container name args).ShowsComponents types declared) : name ∈ containers := by
  have listed : ∀ entry ∈ types.entries, containers.contains entry.1 = false →
      ∃ text ∈ entry.2.texts, entry.2 = .plain text ∧ text.toList.length < "ComponentName".toList.length := by decide
  by_contra other
  rcases container_cases name args with ⟨all, _⟩ | ⟨rfl, _⟩
  · obtain ⟨pieces, length, _, alike⟩ := shows
    obtain ⟨text, rendered, same⟩ := alike (List.replicate args.length "ComponentName")
      (by rw [all, List.length_replicate])
      (fun name member => List.eq_of_mem_replicate member ▸ ⟨by decide, by decide, by decide⟩)
    obtain ⟨spelling, texts, found, _, rfl⟩ := exists_spelling rendered
    obtain ⟨text, _, rfl, short⟩ :=
      listed _ (types.mem_entries_of_get? name spelling found) (by simpa using other)
    have inside : "ComponentName".toList <:+: ((plain text).apply texts).toList := by
      rw [same]
      exact infix_interleave (by simp [length, all]) (by simp [filled])
    have long := inside.length_le
    rw [apply] at long
    omega
  · exact other (by decide)

theorem prefix_generic (word : String) (texts : List String) : word.toList <+: (generic word texts).toList := by
  rw [generic, String.toList_ofList, List.append_assoc]
  exact List.prefix_append _ _

/-- A function whose last component is written `void` is a procedure, any other one is not. -/
theorem prefix_apply_function {spelling : TypeSyntax} (found : types.get? "Function" = some spelling)
    (texts : List String) :
    (if texts.getLast? = some "void" then "Action" else "Func").toList <+: (spelling.apply texts).toList := by
  cases found
  split
  · rename_i ends
    obtain ⟨params, rfl⟩ := List.getLast?_eq_some_iff.mp ends
    cases params with
    | nil => exact List.prefix_rfl
    | cons param params =>
      rw [apply_procedure (List.cons_ne_nil _ _)]
      exact prefix_generic "Action" _
  · rename_i other
    rw [apply_function other]
    exact prefix_generic "Func" texts

theorem action_prefix_render {params : List SemType} {text : String}
    (rendered : (function params void).render types declared = .ok text) : "Action".toList <+: text.toList := by
  obtain ⟨spelling, texts, found, components, rfl⟩ := exists_spelling rendered
  obtain ⟨front, back, _, result, rfl⟩ := (renderAll_append_eq_ok_iff _ _ _).mp components
  obtain rfl : back = ["void"] := (Except.ok.inj result).symm
  have starts := prefix_apply_function found (front ++ ["void"])
  rwa [if_pos List.getLast?_concat] at starts

/-- A class called `void` at the end makes a procedure of a function. -/
theorem action_prefix_of_class {args : List SemType} {spelling : TypeSyntax} {texts : List String}
    (found : types.get? "Function" = some spelling) (components : renderAll types declared args = .ok texts)
    (ends : args.getLast? = some (.named "void")) : "Action".toList <+: (spelling.apply texts).toList := by
  have related := Profile.rel_getLast? ((renderAll_eq_ok_iff _ _).mp components)
  rw [ends] at related
  generalize last : texts.getLast? = final at related
  cases related with
  | some written =>
    obtain rfl := eq_of_render_named rfl written
    have starts := prefix_apply_function found texts
    rwa [if_pos last] at starts

/-- A function that shows its components does not end in a class called `void`. -/
theorem getLast?_ne_of_showsComponents {args : List SemType}
    (shows : (container "Function" args).ShowsComponents types declared) : args.getLast? ≠ some (.named "void") := by
  intro ends
  have noResult : args.getLast? ≠ some void := by rw [ends]; decide
  have filled : args ≠ [] := by
    rintro rfl
    cases ends
  have all : (container "Function" args).shown = args := if_neg fun result => noResult result.2
  obtain ⟨pieces, length, ⟨text, texts, rendered, components, same⟩, alike⟩ := shows
  rw [all] at alike components
  obtain ⟨spelling, others, found, again, rfl⟩ := exists_spelling rendered
  obtain rfl := Except.ok.inj (components.symm.trans again)
  -- As it is, the text starts as a procedure, and would start as a function with other components.
  have procedure := action_prefix_of_class found components ends
  obtain ⟨count, counted⟩ := Nat.exists_eq_add_one_of_ne_zero (mt List.length_eq_zero_iff.mp filled)
  have classes : ∀ name ∈ List.replicate args.length "Item", IsClass types name := fun name member =>
    List.eq_of_mem_replicate member ▸ ⟨by decide, by decide, by decide⟩
  obtain ⟨text, written, shown⟩ := alike _ List.length_replicate classes
  rw [withShown, all, List.drop_length, List.append_nil] at written
  obtain rfl := Except.ok.inj ((render_container found (renderAll_named classes)).symm.trans written)
  have function := prefix_apply_function found (List.replicate args.length "Item")
  rw [if_neg (by simp [List.getLast?_replicate, filled]), shown, counted, List.replicate_succ, List.map_cons]
    at function
  obtain ⟨_, function⟩ := function
  obtain ⟨_, procedure⟩ := procedure
  have starts : (interleave pieces (texts.map String.toList)).head? = some 'F' :=
    head?_interleave (congrArg List.head? function.symm) (by decide) (by decide) _
  rw [← same, ← procedure] at starts
  exact absurd starts (by simp)

end Incomplete

end CSharp

/-- The parts of a type are like it: they are read where it is, and written where it is. -/
theorem SemType.forall_parts {types : TypeTable} {declared : List String} {type : SemType} (regular : type.Regular)
    {text : String} (rendered : type.render types declared = .ok text) : ∀ part ∈ type.parts,
      part.Regular ∧ part.parts ⊆ type.parts ∧ ∃ component, part.render types declared = .ok component := by
  induction regular generalizing text with
  | named name =>
    rw [parts, List.forall_mem_singleton]
    exact ⟨.named name, List.Subset.refl _, text, rendered⟩
  | container name args other fits regular ih =>
    rw [parts, List.forall_mem_cons]
    refine ⟨⟨.container name args other fits regular, List.Subset.refl _, text, rendered⟩, fun part within => ?_⟩
    obtain ⟨arg, member, inside⟩ := (mem_allParts_iff _ _).mp within
    obtain ⟨spelling, texts, _, components, _⟩ := exists_spelling rendered
    obtain ⟨component, _, written⟩ := exists_text_of_mem components member
    obtain ⟨kept, subset, shown⟩ := ih arg member written part inside
    refine ⟨kept, fun deeper listed => List.mem_cons_of_mem _ ?_, shown⟩
    exact (mem_allParts_iff _ _).mpr ⟨arg, member, subset listed⟩
  | fixedArray element size regular fits ih =>
    rw [parts, List.forall_mem_cons]
    refine ⟨⟨.fixedArray element size regular fits, List.Subset.refl _, text, rendered⟩, fun part inside => ?_⟩
    rw [render] at rendered
    split at rendered
    · obtain ⟨component, written, _⟩ := (bind_eq_ok_iff _ _ _).mp rendered
      obtain ⟨kept, subset, shown⟩ := ih written part inside
      exact ⟨kept, fun deeper listed => List.mem_cons_of_mem _ (subset listed), shown⟩
    · cases rendered

namespace CSharp

open SemType TypeSyntax

theorem isSpelledOut_of_complete {declared : List String} {type : SemType} (regular : type.Regular) {text : String}
    (rendered : type.render types declared = .ok text) (filled : ¬slot 0 <:+: text.toList)
    (shows : ∀ part ∈ type.parts, part.ShowsComponents types declared) (part : SemType) (within : part ∈ type.parts) :
    part.IsSpelledOut := by
  have kept := (forall_parts regular rendered part within).1
  cases kept with
  | named name => exact fun slotted => filled (slot_infix_render regular shows slotted within rendered)
  | container name args _ fits _ =>
    refine ⟨mem_containers_of_showsComponents ?_ (shows _ within), ?_⟩
    · rintro rfl
      exact not_countFits_zero name fits
    · rintro ⟨rfl, ends⟩
      exact getLast?_ne_of_showsComponents (shows _ within) ends
  | fixedArray element size _ _ => trivial

/-- The text of a type has all slots filled and all components in their places, exactly if no scalar in it has the name
of a container with slots, no container has the name of a scalar, and no function returns a class called `void`. A
`Void` that a function returns makes it an `Action`. -/
theorem accepted_types_are_complete_iff {settings : LanguageSettings} {built : Profile}
    (builds : profile settings = .ok built) {type : SemType} (obtained : type.Obtained) {declared : List String}
    (names : ∀ name ∈ declared, IsIdentifier name.toList) {size : Nat} {text : String}
    (rendered : (built.renderer declared size).renderType type = .ok text) :
    (((∀ position, ¬slot position <:+: text.toList) ∧
          ∀ part ∈ type.parts, part.ShowsComponents built.types declared) ↔
        ∀ part ∈ type.parts, part.IsSpelledOut) ∧
      ∀ params, function params void ∈ type.parts → ∃ component,
        (function params void).render built.types declared = .ok component ∧ "Action".toList <+: component.toList := by
  obtain ⟨_, same, basics, _⟩ := exists_profile settings
  obtain rfl := Except.ok.inj (builds.symm.trans same)
  have regular := obtained.regular
  rw [Renderer.renderType] at rendered
  change type.render built.types declared = .ok text at rendered
  rw [basics.types] at rendered ⊢
  refine ⟨⟨?_, fun out => ?_⟩, fun params within => ?_⟩
  · rintro ⟨filled, shows⟩
    exact isSpelledOut_of_complete regular rendered (filled 0) shows
  · refine ⟨fun position inside => ?_, fun part within => ?_⟩
    · refine (clean_render names regular out rendered).1.slotless (inside.subset ?_)
      rw [slot_eq]
      exact List.mem_cons_self
    · obtain ⟨kept, subset, component, written⟩ := forall_parts regular rendered part within
      exact (clean_render names kept (fun deeper inside => out deeper (subset inside)) written).2
  · obtain ⟨_, _, component, written⟩ := forall_parts regular rendered _ within
    exact ⟨component, written, action_prefix_render written⟩

/-- A procedure that takes a dictionary of lists of a class that the module declares. -/
def visitor : SemType := function [dictionary (named "String") (list (named "Shape"))] void

theorem visitor_is_complete : ∃ built, profile {} = .ok built ∧ visitor.Obtained ∧
    (∀ name ∈ ["Shape"], IsIdentifier name.toList) ∧
    (built.renderer ["Shape"] 0).renderType visitor = .ok "Action<Dictionary<string, List<Shape>>>" ∧
    (∀ position, ¬slot position <:+: "Action<Dictionary<string, List<Shape>>>".toList) ∧
    ∀ part ∈ visitor.parts, part.ShowsComponents built.types ["Shape"] := by
  obtain ⟨built, builds, basics, _⟩ := exists_profile {}
  have obtained : visitor.Obtained := .read visitor.toData visitor rfl
  have rendered : (built.renderer ["Shape"] 0).renderType visitor = .ok "Action<Dictionary<string, List<Shape>>>" := by
    change visitor.render built.types ["Shape"] = _
    rw [basics.types]
    rfl
  have names : ∀ name ∈ ["Shape"], IsIdentifier name.toList := by decide
  exact ⟨built, builds, obtained, names, rendered,
    (accepted_types_are_complete_iff builds obtained names rendered).1.mpr (by decide)⟩

/-- A scalar that is called `List` is accepted and leaves its slot, and a container that is called `Int` drops what it
contains. -/
theorem misnamed_types_are_incomplete : ∃ built, profile {} = .ok built ∧
    (SemType.ofData (.text "List") = .ok (named "List") ∧
      (built.renderer [] 0).renderType (named "List") = .ok "List<\x7b0\x7d>" ∧
      slot 0 <:+: "List<\x7b0\x7d>".toList) ∧
    SemType.ofData (.list [.text "Int", .text "String"]) = .ok (container "Int" [named "String"]) ∧
      (built.renderer [] 0).renderType (container "Int" [named "String"]) = .ok "int" ∧
      ¬(container "Int" [named "String"]).ShowsComponents built.types [] := by
  obtain ⟨built, builds, basics, _⟩ := exists_profile {}
  have written (type : SemType) : (built.renderer [] 0).renderType type = type.render types [] := by
    rw [← basics.types]
    rfl
  refine ⟨built, builds, ⟨rfl, (written _).trans rfl, by decide⟩, rfl, (written _).trans rfl, fun shows => ?_⟩
  rw [basics.types] at shows
  exact absurd (mem_containers_of_showsComponents (List.cons_ne_nil _ _) shows) (by decide)

end CSharp
end Retarget
