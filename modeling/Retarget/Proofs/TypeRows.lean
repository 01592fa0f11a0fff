import Retarget.Proofs.FilledSlots
import Retarget.Proofs.PrimaryRows
import Retarget.Proofs.Totality

/-! Types of C# as rows. A type whose containers all have the components that they ask for is spelled as a type of the
grammar: a name, a name with arguments, or an array. -/
namespace Retarget

/-- The names of types with components. -/
def SemType.containers : List String := ["List", "Dictionary", "Set", "Array", "Tuple", "Function"]

mutual
/-- No container name stands alone, and each container has as many components as its name admits. -/
def SemType.isComplete : SemType → Bool
  | .named name => !containers.contains name
  | .container name args => (Arity.ofContainer name).admits args.length && allComplete args
  | .fixedArray element _ => element.isComplete
def SemType.allComplete : List SemType → Bool
  | [] => true
  | type :: rest => type.isComplete && allComplete rest
end

namespace CSharp

/-- A text that is a type of C#. None has braces, so that no slot is found in it. -/
structure SpellsType (text : String) : Prop where
  slotless : '\x7b' ∉ text.toList
  exists_row : ∃ row, Shows text.toList row ∧ IsType row

theorem notMem_of_isWord {word : List Char} (isWord : IsWord word) : '\x7b' ∉ word := by
  intro member
  exact absurd (List.all_eq_true.mp isWord.rest _ member) (by decide)

theorem shows_of_isWord {word : List Char} (isWord : IsWord word) : Shows word (word.map .char) :=
  .plain fun c member => isPlain_of_continuesName c (List.all_eq_true.mp isWord.rest c member)

theorem spellsType_of_isIdentifier {text : String} (isIdentifier : IsIdentifier text.toList) : SpellsType text :=
  ⟨notMem_of_isWord isIdentifier.toIsWord, _, shows_of_isWord isIdentifier.toIsWord, .name isIdentifier⟩

/-- Types in a row, a comma between them. -/
theorem exists_rows {components : List String} (spelled : ∀ component ∈ components, SpellsType component) :
    '\x7b' ∉ (", ".intercalate components).toList ∧ ∃ rows, rows.length = components.length ∧
      Shows (", ".intercalate components).toList ([.char ',', .char ' '].intercalate rows) ∧
      ∀ row ∈ rows, IsType row := by
  induction components with
  | nil => exact ⟨nofun, [], rfl, rfl, List.forall_mem_nil _⟩
  | cons component components ih =>
    rw [List.forall_mem_cons] at spelled
    obtain ⟨slotless, row, shows, isType⟩ := spelled.1
    obtain ⟨slotlessRest, rows, same, showsRest, areTypes⟩ := ih spelled.2
    cases components with
    | nil =>
      exact ⟨by simpa using slotless, [row], rfl, by simpa using shows, List.forall_mem_singleton.mpr isType⟩
    | cons second components =>
      cases rows with
      | nil => cases same
      | cons next rows =>
        have comma : Shows ", ".toList [.char ',', .char ' '] := rfl
        have whole := (shows.append comma).append showsRest
        rw [String.intercalate_cons_cons, String.toList_append, String.toList_append]
        refine ⟨by simp [slotless, slotlessRest, -String.toList_intercalate], row :: next :: rows, by simpa using same,
          ?_, List.forall_mem_cons.mpr ⟨isType, areTypes⟩⟩
        simpa [List.intercalate] using whole

/-- A name with components as arguments. -/
def generic (word : String) (components : List String) : String :=
  String.ofList (word.toList ++ '<' :: (", ".intercalate components).toList ++ ['>'])

/-- A name with types as arguments. -/
theorem spellsType_generic (word : String) (isIdentifier : IsIdentifier word.toList) {components : List String}
    (some : components ≠ []) (spelled : ∀ component ∈ components, SpellsType component) :
    SpellsType (generic word components) := by
  obtain ⟨slotless, rows, same, shows, areTypes⟩ := exists_rows spelled
  have isWord := isIdentifier.toIsWord
  have opening : Shows ['<'] [.char '<'] := rfl
  have closing : Shows ['>'] [.char '>'] := rfl
  have filled : rows ≠ [] := by
    rintro rfl
    exact some (List.length_eq_zero_iff.mp same.symm)
  constructor
  · simp [generic, notMem_of_isWord isWord, slotless, -String.toList_intercalate]
  · refine ⟨_, ?_, .generic isIdentifier filled areTypes⟩
    rw [generic, String.toList_ofList]
    exact ((shows_of_isWord isWord).append (opening.append shows)).append closing

theorem spellsType_array {text : String} (spelled : SpellsType text) : SpellsType (text ++ "[]") := by
  obtain ⟨slotless, row, shows, isType⟩ := spelled
  refine ⟨by simp [slotless], _, ?_, .array isType⟩
  rw [String.toList_append]
  exact shows.append (Shows.group .square .nil)

section Spellings

open TypeSyntax

theorem fill_append {front : List Char} (slotless : '\x7b' ∉ front) (position : Nat) (back value : List Char) :
    Text.replace (slot position) value (front ++ back) = front ++ Text.replace (slot position) value back :=
  Text.replaceFrom_append _ value slotless back

variable {components : List String}

theorem apply_single (single : components.length = 1) :
    (positional "List<\x7b0\x7d>").apply components = generic "List" components ∧
      (positional "HashSet<\x7b0\x7d>").apply components = generic "HashSet" components := by
  obtain ⟨element, rfl⟩ := List.length_eq_one_iff.mp single
  rw [generic, generic, String.intercalate_singleton]
  exact ⟨rfl, rfl⟩

theorem apply_pair (pair : components.length = 2) (slotless : ∀ component ∈ components, '\x7b' ∉ component.toList) :
    (positional "Dictionary<\x7b0\x7d, \x7b1\x7d>").apply components = generic "Dictionary" components := by
  obtain ⟨key, value, rfl⟩ := List.length_eq_two.mp pair
  have front : '\x7b' ∉ "Dictionary<".toList ++ key.toList := by
    rw [List.mem_append, not_or]
    exact ⟨by decide, slotless key List.mem_cons_self⟩
  have first : fill "Dictionary<\x7b0\x7d, \x7b1\x7d>" 0 key =
      String.ofList ("Dictionary<".toList ++ key.toList ++ ", \x7b1\x7d>".toList) := rfl
  have second : (positional "Dictionary<\x7b0\x7d, \x7b1\x7d>").apply [key, value] =
      String.ofList ("Dictionary<".toList ++ key.toList ++ (", ".toList ++ value.toList ++ ['>'])) := by
    rw [apply, fillFrom, fillFrom, fillFrom, first, fill, String.toList_ofList, fill_append front]
    rfl
  rw [second, generic, String.intercalate_cons_cons, String.intercalate_singleton]
  simp

theorem apply_function (last : components.getLast? ≠ some "void") :
    (callable "Func<\x7b0\x7d>" "Action<\x7b0\x7d>" "Action" "void" ", ").apply components =
      generic "Func" components := by
  rw [apply, if_neg last]
  rfl

theorem apply_procedure (some : components ≠ []) :
    (callable "Func<\x7b0\x7d>" "Action<\x7b0\x7d>" "Action" "void" ", ").apply (components ++ ["void"]) =
      generic "Action" components := by
  rw [apply, if_pos List.getLast?_concat, List.dropLast_concat]
  cases components with
  | nil => exact absurd rfl some
  | cons => rfl

/-- The size of an array is not part of its spelling. -/
theorem apply_fixedArray {element : String} (slotless : '\x7b' ∉ element.toList) (size : String) :
    (positional "\x7b0\x7d[]").apply [element, size] = element ++ "[]" := by
  have first : fill "\x7b0\x7d[]" 0 element = element ++ "[]" := by
    rw [← String.toList_inj, fill, String.toList_ofList, String.toList_append]
    rfl
  have array : '\x7b' ∉ (element ++ "[]").toList := by
    rw [String.toList_append, List.mem_append, not_or]
    exact ⟨slotless, by decide⟩
  have kept := fill_append array 1 [] size.toList
  rw [List.append_nil] at kept
  rw [apply, fillFrom, fillFrom, fillFrom, first, fill, kept, ← String.toList_inj, String.toList_ofList]
  exact List.append_nil _

theorem spellsType_fixedArray {element : String} (spelled : SpellsType element) (size : String) :
    SpellsType ((positional "\x7b0\x7d[]").apply [element, size]) := by
  rw [apply_fixedArray spelled.slotless]
  exact spellsType_array spelled

variable (spelled : ∀ component ∈ components, SpellsType component)
include spelled

theorem spellsType_function (some : components ≠ []) :
    SpellsType ((callable "Func<\x7b0\x7d>" "Action<\x7b0\x7d>" "Action" "void" ", ").apply components) := by
  by_cases last : components.getLast? = .some "void"
  · obtain ⟨params, rfl⟩ := List.getLast?_eq_some_iff.mp last
    rw [List.forall_mem_append] at spelled
    cases params with
    | nil =>
      have action : SpellsType "Action" := spellsType_of_isIdentifier (by decide)
      exact action
    | cons param params =>
      rw [apply_procedure (List.cons_ne_nil _ _)]
      exact spellsType_generic "Action" (by decide) (List.cons_ne_nil _ _) spelled.1
  · rw [apply_function last]
    exact spellsType_generic "Func" (by decide) some spelled

/-- A container with components is spelled as a type, if they are and if it takes as many. -/
theorem spellsType_container (name : String) (listed : name ∈ SemType.containers)
    (admitted : (Arity.ofContainer name).admits components.length = true) (spelling : TypeSyntax)
    (found : types.get? name = some spelling) : SpellsType (spelling.apply components) := by
  simp only [SemType.containers, List.mem_cons, List.not_mem_nil, or_false] at listed
  rcases listed with rfl | rfl | rfl | rfl | rfl | rfl <;> cases found
  · have single := beq_iff_eq.mp admitted
    rw [(apply_single single).1]
    exact spellsType_generic "List" (by decide) (List.ne_nil_of_length_eq_add_one single) spelled
  · have pair := beq_iff_eq.mp admitted
    rw [apply_pair pair fun component listed => (spelled component listed).slotless]
    exact spellsType_generic "Dictionary" (by decide) (List.ne_nil_of_length_eq_add_one pair) spelled
  · have single := beq_iff_eq.mp admitted
    rw [(apply_single single).2]
    exact spellsType_generic "HashSet" (by decide) (List.ne_nil_of_length_eq_add_one single) spelled
  · cases admitted
  · exact spellsType_generic "Tuple" (by decide) (by rintro rfl; cases admitted) spelled
  · exact spellsType_function spelled (by rintro rfl; cases admitted)

end Spellings

/-- All other types are spelled as names. -/
theorem spellsType_scalar (name : String) (other : SemType.containers.contains name = false) (spelling : TypeSyntax)
    (found : types.get? name = some spelling) (components : List String) : SpellsType (spelling.apply components) := by
  have listed : ∀ entry ∈ types.entries, SemType.containers.contains entry.1 = false →
      ∃ text ∈ entry.2.texts, entry.2 = .plain text ∧ IsIdentifier text.toList := by decide
  obtain ⟨text, _, rfl, isIdentifier⟩ := listed _ (types.mem_entries_of_get? name spelling found) other
  exact spellsType_of_isIdentifier isIdentifier

section Rendered

variable {declared : List String}

mutual
/-- A complete type is spelled as a type, if declared names are names. -/
theorem spellsType_render (names : ∀ name ∈ declared, IsIdentifier name.toList) (type : SemType)
    (complete : type.isComplete = true) (text : String) (rendered : type.render types declared = .ok text) :
    SpellsType text := by
  match type with
  | .named name =>
    rw [SemType.isComplete, Bool.not_eq_true'] at complete
    rw [SemType.render] at rendered
    split at rendered
    · rename_i spelling found
      cases rendered
      exact spellsType_scalar name complete spelling found []
    · split at rendered
      · rename_i known
        cases rendered
        exact spellsType_of_isIdentifier (names _ (List.contains_iff_mem.mp known))
      · cases rendered
  | .container name args =>
    rw [SemType.isComplete, Bool.and_eq_true] at complete
    rw [SemType.render] at rendered
    split at rendered
    · rename_i spelling found
      obtain ⟨components, inner, same⟩ := (bind_eq_ok_iff _ _ _).mp rendered
      cases same
      obtain ⟨count, spelled⟩ := spellsType_renderAll names args complete.2 components inner
      cases listed : SemType.containers.contains name with
      | false => exact spellsType_scalar name listed spelling found components
      | true =>
        rw [← count] at complete
        exact spellsType_container spelled name (List.contains_iff_mem.mp listed) complete.1 spelling found
    · cases rendered
  | .fixedArray element size =>
    rw [SemType.render] at rendered
    split at rendered
    · rename_i spelling found
      obtain ⟨component, inner, same⟩ := (bind_eq_ok_iff _ _ _).mp rendered
      cases same
      cases found
      exact spellsType_fixedArray (spellsType_render names element complete component inner) (toString size)
    · cases rendered
theorem spellsType_renderAll (names : ∀ name ∈ declared, IsIdentifier name.toList) (args : List SemType)
    (complete : SemType.allComplete args = true) (components : List String)
    (rendered : SemType.renderAll types declared args = .ok components) :
    components.length = args.length ∧ ∀ component ∈ components, SpellsType component := by
  match args with
  | [] =>
    cases rendered
    exact ⟨rfl, List.forall_mem_nil _⟩
  | type :: rest =>
    rw [SemType.allComplete, Bool.and_eq_true] at complete
    rw [SemType.renderAll] at rendered
    obtain ⟨first, inner, continued⟩ := (bind_eq_ok_iff _ _ _).mp rendered
    obtain ⟨others, following, same⟩ := (bind_eq_ok_iff _ _ _).mp continued
    cases same
    obtain ⟨count, spelled⟩ := spellsType_renderAll names rest complete.2 others following
    rw [List.forall_mem_cons]
    exact ⟨congrArg (· + 1) count, spellsType_render names type complete.1 first inner, spelled⟩
end

end Rendered

end CSharp
end Retarget
