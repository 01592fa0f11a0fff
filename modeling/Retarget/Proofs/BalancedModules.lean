import Mathlib.Data.List.DropRight
import Retarget.Proofs.BalancedOverrides
import Retarget.Proofs.BlanklessTrees
import Retarget.Proofs.VisibleLineEnds

/-! Brackets in generated C#. If the names in a tree have no brackets, and nothing that starts a literal, all brackets
and literals of the text that is generated are complete, whatever its literals contain. -/
namespace Retarget

/-- The dependencies that a registration names. -/
def Registration.dependencies : Registration → List String
  | function _ _ _ dependency => dependency.toList
  | method _ _ _ dependency => dependency.toList
  | typeDependency _ dependency => [dependency]
  | _ => []

def Parsed.dependencies : Parsed → List String
  | function _ _ added => added.dependency.toList
  | method _ _ added => added.dependency.toList
  | typeDependency _ dependency => [dependency]
  | _ => []

theorem Registration.dependencies_of_parsed (registration : Registration) (found : Parsed)
    (parses : registration.parsed = .ok found) : found.dependencies = registration.dependencies := by
  cases registration.parsesTo_of_parsed found parses <;> rfl

/-- The library of a profile has the dependencies that were registered. -/
theorem Profile.supplies_of_build {P : String → Prop} {name extension : String} {registrations : List Registration}
    {built : Profile} (builds : build name extension registrations = .ok built)
    (all : ∀ registration ∈ registrations, ∀ dependency ∈ registration.dependencies, P dependency) :
    built.library.Supplies P := by
  have holds := Profile.holds_of_build (P := fun found => ∀ dependency ∈ found.dependencies, P dependency) builds
    fun registration among found parses => by
      rw [registration.dependencies_of_parsed found parses]
      exact all registration among
  constructor
  · intro space name entry stored dependency depends
    exact holds.functions space name entry stored dependency (Option.mem_toList.mpr depends)
  · intro receiver name entry stored dependency depends
    exact holds.methods receiver name entry stored dependency (Option.mem_toList.mpr depends)
  · intro type dependency stored
    exact holds.typeDependencies type dependency stored dependency List.mem_cons_self

namespace CSharp

section Trimmed

/-- All brackets are closed and all literals complete. A verbatim literal may be what a text ends with. -/
def Complete (chars : List Char) : Prop :=
  ∃ context pieces, scan .outermost chars = some (⟨[], context⟩, pieces) ∧ (context = .code ∨ context = .closed)

theorem exists_split_of_scan {first last : Position} {chars others : List Char} {pieces : List Piece}
    (scanned : scan first (chars ++ others) = some (last, pieces)) :
    ∃ middle front back, scan first chars = some (middle, front) ∧ scan middle others = some (last, back) := by
  induction chars generalizing first pieces with
  | nil => exact ⟨first, [], pieces, rfl, scanned⟩
  | cons c chars ih =>
    obtain ⟨after, inner, steps, later, rfl⟩ := exists_of_scan_cons scanned
    obtain ⟨middle, front, back, before, behind⟩ := ih later
    exact ⟨middle, _, back, scan_cons c steps before, behind⟩

/-- Blanks complete nothing. -/
theorem complete_before_blanks {position : Position} {blanks : List Char} {pieces : List Piece}
    (blank : ∀ c ∈ blanks, Text.isBlank c = true) (scanned : scan position blanks = some (.outermost, pieces)) :
    position.brackets = [] ∧ (position.context = .code ∨ position.context = .closed) := by
  induction blanks generalizing position pieces with
  | nil =>
    cases scanned
    exact ⟨rfl, .inl rfl⟩
  | cons c blanks ih =>
    rw [List.forall_mem_cons] at blank
    obtain ⟨after, inner, steps, later, rfl⟩ := exists_of_scan_cons scanned
    obtain ⟨closed, complete⟩ := ih blank.2 later
    have noQuote : c ≠ '"' := by
      rintro rfl
      exact absurd blank.1 (by decide)
    have noMark : c ≠ '\\' := by
      rintro rfl
      exact absurd blank.1 (by decide)
    obtain ⟨brackets, context⟩ := position
    cases context with
    | code =>
      cases steps.symm.trans (next_plain brackets c (isPlain_of_isBlank c blank.1))
      exact ⟨closed, .inl rfl⟩
    | closed =>
      have inCode := next_plain brackets c (isPlain_of_isBlank c blank.1)
      simp only [Position.next, if_neg noQuote] at steps inCode
      cases steps.symm.trans inCode
      exact ⟨closed, .inr rfl⟩
    | marked => simp [Position.next, noQuote] at steps
    | quoted =>
      simp only [Position.next, if_neg noQuote, if_neg noMark, Option.some.injEq] at steps
      simp [← steps] at complete
    | escaped =>
      simp only [Position.next, Option.some.injEq] at steps
      simp [← steps] at complete
    | verbatim =>
      simp only [Position.next, if_neg noQuote, Option.some.injEq] at steps
      simp [← steps] at complete

theorem Balanced.complete_trimEnd {chars : List Char} (balanced : Balanced chars) : Complete (Text.trimEnd chars) := by
  obtain ⟨pieces, shows⟩ := balanced
  have split : chars = Text.trimEnd chars ++ chars.rtakeWhile Text.isBlank :=
    (List.rdropWhile_append_rtakeWhile ..).symm
  rw [Shows, split] at shows
  obtain ⟨middle, front, back, before, behind⟩ := exists_split_of_scan shows
  have blank : ∀ c ∈ chars.rtakeWhile Text.isBlank, Text.isBlank c = true := fun c => List.mem_rtakeWhile_imp
  obtain ⟨closed, complete⟩ := complete_before_blanks blank behind
  obtain ⟨brackets, context⟩ := middle
  cases closed
  exact ⟨context, front, before, complete⟩

end Trimmed

section Names

/-- A name without brackets, and without what literals start with. -/
def PlainName (name : String) : Prop := ∀ c ∈ name.toList, isPlain c = true

-- Given by name, since there may also be an instance that goes through all characters.
instance (name : String) : Decidable (PlainName name) :=
  List.decidableBAll (fun c => isPlain c = true) name.toList

theorem isPlain_iff (c : Char) : isPlain c = true ↔ c.toNat ∉ marks.map Char.toNat := by
  rw [isPlain, Bool.not_eq_true', ← Bool.not_eq_true, List.contains_iff_mem, List.mem_map]
  apply not_congr
  constructor
  · intro mark
    exact ⟨c, mark, rfl⟩
  · rintro ⟨mark, listed, same⟩
    rwa [← Char.toNat_inj.mp same]

theorem uncased_marks : Text.Uncased (marks.map Char.toNat) := by constructor <;> decide

theorem plainName_apply (convention : NameCase) (name : String) (plain : PlainName name) :
    PlainName (convention.apply name) := by
  simp only [PlainName, isPlain_iff] at plain ⊢
  exact convention.apply_notMem uncased_marks (by decide) name plain

theorem registered_dependencies_plain (settings : LanguageSettings) :
    ∀ registration ∈ registrations settings, ∀ dependency ∈ registration.dependencies, PlainName dependency := by
  have tables : ∀ registration ∈ typeDependencies ++ libraryFunctions ++ libraryMethods ++ templates ++ overrides,
      ∀ dependency ∈ registration.dependencies, PlainName dependency := by decide +kernel
  intro registration among
  rw [registrations, List.append_assoc, List.append_assoc, List.append_assoc, List.append_assoc] at among
  rcases List.mem_append.mp among with general | tabled
  · simp only [List.mem_cons, List.not_mem_nil, or_false] at general
    rcases general with rfl | rfl | rfl | rfl | rfl | rfl <;> exact List.forall_mem_nil _
  · apply tables registration
    simpa using tabled

end Names

section Built

variable {settings : LanguageSettings} {built : Profile} (builds : profile settings = .ok built)
  (basics : Basics settings built) {tree : Node} (plain : tree.NamesHold PlainName)
include basics plain

/-- Passes leave names plain. -/
theorem namesHold_runPasses (builds : profile settings = .ok built) : (built.runPasses tree).NamesHold PlainName := by
  rw [runPasses_eq basics]
  have marked := Declaration.namesHold_run plain
  have renamed := Naming.namesHold_run marked (naming settings) plainName_apply
  exact Imports.namesHold_run renamed (Profile.supplies_of_build builds (registered_dependencies_plain settings))

theorem plainName_of_declared : ∀ name ∈ Profile.declaredTypes (built.runPasses tree), PlainName name := by
  intro name listed
  rw [declaredTypes_runPasses basics] at listed
  obtain ⟨node, below, own⟩ := Profile.exists_of_mem_declaredTypes tree name listed
  exact plain node below name own

end Built

/-- In what is generated for a tree with plain names, all brackets and literals are complete. -/
theorem generated_brackets_close (settings : LanguageSettings) (built : Profile) (builds : profile settings = .ok built)
    (tree : Node) (plain : tree.NamesHold PlainName) (text : String) (generated : built.renderModule tree = .ok text) :
    Complete text.toList := by
  obtain ⟨other, same, basics, _⟩ := exists_profile settings
  cases builds.symm.trans same
  have names := namesHold_runPasses basics plain builds
  have declared := plainName_of_declared basics plain
  obtain ⟨whole, rendered, same⟩ := (bind_eq_ok_iff ..).mp generated
  cases same
  have balanced : BalancedText whole := by
    have balances (fuel : Nat) := profile_balances builds basics (fun name listed => .plain (declared name listed)) fuel
    refine (balances _).render ?_ 0 whole rendered
    exact fun node below name listed => .plain (names node below name listed)
  rw [String.toList_ofList]
  exact balanced.complete_trimEnd

/-- Literals that contain brackets, quotes and backslashes. -/
def bracketsInLiterals : Node :=
  (ModuleDraft.statements {} [.string ")\x7d]\"\\", .ofKind (.regex "([\x7b\"@")]).build

theorem brackets_in_literals_do_not_count :
    bracketsInLiterals.NamesHold PlainName ∧ ∃ built text, profile {} = .ok built ∧
      built.renderModule bracketsInLiterals = .ok text ∧ Complete text.toList := by
  have plain : bracketsInLiterals.NamesHold PlainName := by decide +kernel
  obtain ⟨built, same, basics, fits⟩ := exists_profile {}
  obtain ⟨text, generated⟩ := exists_text basics fits bracketsInLiterals ⟨rfl, by decide +kernel⟩ (by decide +kernel)
    (by decide +kernel)
  exact ⟨plain, built, text, same, generated,
    generated_brackets_close {} built same bracketsInLiterals plain text generated⟩

end CSharp
end Retarget
