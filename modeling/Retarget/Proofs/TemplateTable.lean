import Retarget.Proofs.Building
import Retarget.Proofs.OverrideRules

/-! The templates of the C# target fit. Each is parsed and checked by evaluation, so that a directive
without a meaning in some template shows here. -/
namespace Retarget

/-- A template read from characters. -/
def Template.ofChars (owner : String) (chars : List Char) : Except TemplateError Template :=
  let lines := sourceLines chars
  Template.mk <$> lines.mapM (Line.parse owner (margin lines))

theorem Template.parse_ofList (owner : String) (chars : List Char) :
    Template.parse owner (String.ofList chars) = ofChars owner chars := by
  rw [Template.parse, String.toList_ofList]
  rfl

/- Sources are lists of characters here, because texts are slow to take apart by evaluation. -/
namespace Registration

/-- A registration whose templates parse, to something that a check lets pass. -/
structure Passes (check : Parsed → Bool) (registration : Registration) : Prop where
  exists_parsed : ∃ parsed, registration.parsed = .ok parsed ∧ check parsed = true

theorem Passes.check_eq {check : Parsed → Bool} {registration : Registration} (passes : registration.Passes check)
    (found : Parsed) (parses : registration.parsed = .ok found) : check found = true := by
  obtain ⟨other, same, checked⟩ := passes.exists_parsed
  cases parses.symm.trans same
  exact checked

def sourcePasses (check : Template → Bool) (owner : String) (chars : List Char) : Bool :=
  match Template.ofChars owner chars with
  | .ok body => check body
  | .error _ => false

def switchPasses (check : Switch → Bool) (owner : String) (on : List Char) (cases : List (String × List Char))
    (default : List Char) : Bool :=
  match Path.parse? on, cases.mapM (fun entry => (entry.1, ·) <$> Template.ofChars owner entry.2),
    Template.ofChars owner default with
  | some path, .ok cases, .ok default => check ⟨path, cases, some default⟩
  | _, _, _ => false

variable {check : Parsed → Bool}

theorem exists_template (check : Template → Bool) (owner : String) (chars : List Char)
    (checked : sourcePasses check owner chars = true) :
    ∃ template, Template.parse owner (String.ofList chars) = .ok template ∧ check template = true := by
  rw [Template.parse_ofList]
  rw [sourcePasses] at checked
  split at checked
  · exact ⟨_, ‹_›, checked⟩
  · cases checked

theorem passes_template (tag : Tag) (chars : List Char)
    (checked : sourcePasses (fun template => check (.entry tag (.template template))) tag.name chars = true) :
    (template tag (String.ofList chars)).Passes check := by
  obtain ⟨template, parses, passes⟩ := exists_template _ _ _ checked
  refine ⟨⟨.entry tag (.template template), ?_, passes⟩⟩
  rw [parsed, parses]
  rfl

theorem passes_switch (tag : Tag) (on : List Char) (cases : List (String × List Char)) (default : List Char)
    (checked : switchPasses (fun switch => check (.entry tag (.switch switch))) tag.name on cases default = true) :
    (switch tag (String.ofList on) (cases.map fun entry => (entry.1, String.ofList entry.2))
      (some (String.ofList default))).Passes check := by
  rw [switchPasses] at checked
  split at checked
  · rename_i path cases' default' onPath casesParse defaultParses
    refine ⟨⟨.entry tag (.switch ⟨path, cases', some default'⟩), ?_, checked⟩⟩
    have parse (entry : String × List Char) : parseCase tag.name (entry.1, String.ofList entry.2) =
        (entry.1, ·) <$> Template.ofChars tag.name entry.2 := by
      rw [parseCase, Template.parse_ofList]
      cases Template.ofChars tag.name entry.2 <;> rfl
    simp only [parsed, parseSwitch, String.toList_ofList, onPath, List.mapM_map, Function.comp_def, parse,
      casesParse, Option.mapM_some, Template.parse_ofList, defaultParses]
    rfl
  · cases checked

theorem passes_optional (tag : Tag) (name : String) (present fallback : List Char)
    (checked : sourcePasses (fun present =>
      sourcePasses (fun fallback => check (.optional tag name ⟨present, fallback⟩)) (tag.name ++ "." ++ name) fallback)
      (tag.name ++ "." ++ name) present = true) :
    (optional tag name (String.ofList present) (String.ofList fallback)).Passes check := by
  obtain ⟨present, parsesPresent, checked⟩ := exists_template _ _ _ checked
  obtain ⟨fallback, parsesFallback, passes⟩ := exists_template _ _ _ checked
  refine ⟨⟨.optional tag name ⟨present, fallback⟩, ?_, passes⟩⟩
  simp only [parsed, parsesPresent, parsesFallback]
  rfl

theorem passes_function (space name : String) (chars : List Char) (dependency : Option String)
    (checked : sourcePasses (fun template => check (.function space name ⟨template, dependency⟩)) (space ++ "." ++ name)
      chars = true) :
    (function space name (String.ofList chars) dependency).Passes check := by
  obtain ⟨template, parses, passes⟩ := exists_template _ _ _ checked
  refine ⟨⟨.function space name ⟨template, dependency⟩, ?_, passes⟩⟩
  rw [parsed, parses]
  rfl

theorem passes_method (receiver name : String) (chars : List Char) (dependency : Option String)
    (checked : sourcePasses (fun template => check (.method receiver name ⟨template, dependency⟩))
      (receiver ++ "." ++ name) chars = true) :
    (method receiver name (String.ofList chars) dependency).Passes check := by
  obtain ⟨template, parses, passes⟩ := exists_template _ _ _ checked
  refine ⟨⟨.method receiver name ⟨template, dependency⟩, ?_, passes⟩⟩
  rw [parsed, parses]
  rfl

end Registration

/-- Whether there are neither templates nor dependencies in what was registered. -/
def Parsed.isGeneral : Parsed → Bool
  | .indent _ | .terminator _ | .pass _ | .types _ | .override _ _ => true
  | _ => false

def Rules.parsedFits (rules : Rules) : Parsed → Bool
  | .entry tag entry => rules.entryFits tag entry
  | .optional tag name pair => rules.pairFits tag name pair
  | .function _ _ entry => rules.templateFits (.ofTag .standardCall) true entry.template
  | .method _ _ entry => rules.templateFits (.ofTag .standardMethodCall) true entry.template
  | _ => true

namespace CSharp

section Registrations

variable {check : Parsed → Bool}

/-- A check that only concerns templates and dependencies is one of the tables that have them. -/
theorem registrations_pass (settings : LanguageSettings)
    (general : ∀ found : Parsed, found.isGeneral = true → check found = true)
    (dependencies : ∀ registration ∈ typeDependencies, registration.Passes check)
    (functions : ∀ registration ∈ libraryFunctions, registration.Passes check)
    (methods : ∀ registration ∈ libraryMethods, registration.Passes check)
    (templated : ∀ registration ∈ templates, registration.Passes check) :
    ∀ registration ∈ registrations settings, registration.Passes check := by
  have passes (registration : Registration) (found : Parsed) (parses : registration.parsed = .ok found)
      (isGeneral : found.isGeneral = true) : registration.Passes check :=
    ⟨⟨found, parses, general found isGeneral⟩⟩
  simp only [registrations, List.mem_append]
  rintro registration (((((first | member) | member) | member) | member) | member)
  · revert registration
    repeat refine List.forall_mem_cons.mpr ⟨passes _ _ rfl rfl, ?_⟩
    exact List.forall_mem_nil _
  · exact dependencies registration member
  · exact functions registration member
  · exact methods registration member
  · exact templated registration member
  · revert registration
    repeat refine List.forall_mem_cons.mpr ⟨passes _ _ rfl rfl, ?_⟩
    exact List.forall_mem_nil _

end Registrations

set_option maxRecDepth 8000 in
theorem templates_fit : ∀ registration ∈ templates, registration.Passes rules.parsedFits := by
  repeat
    refine List.forall_mem_cons.mpr ⟨?_, ?_⟩
    · first
      | exact Registration.passes_template _ _ (by decide)
      | exact Registration.passes_optional _ _ _ _ (by decide)
      | exact Registration.passes_switch _ _ [(_, _)] _ (by decide)
      | exact Registration.passes_switch _ _ [(_, _), (_, _), (_, _)] _ (by decide)
  exact List.forall_mem_nil _

theorem libraryFunctions_fit : ∀ registration ∈ libraryFunctions, registration.Passes rules.parsedFits := by
  repeat
    refine List.forall_mem_cons.mpr ⟨?_, ?_⟩
    · exact Registration.passes_function _ _ _ _ (by decide)
  exact List.forall_mem_nil _

theorem libraryMethods_fit : ∀ registration ∈ libraryMethods, registration.Passes rules.parsedFits := by
  repeat
    refine List.forall_mem_cons.mpr ⟨?_, ?_⟩
    · exact Registration.passes_method _ _ _ _ (by decide)
  exact List.forall_mem_nil _

theorem typeDependencies_fit : ∀ registration ∈ typeDependencies, registration.Passes rules.parsedFits := by
  repeat refine List.forall_mem_cons.mpr ⟨⟨⟨_, rfl, rfl⟩⟩, ?_⟩
  exact List.forall_mem_nil _

theorem registrations_fit (settings : LanguageSettings) :
    ∀ registration ∈ registrations settings, registration.Passes rules.parsedFits :=
  registrations_pass settings (fun found general => by cases found <;> first | rfl | cases general)
    typeDependencies_fit libraryFunctions_fit libraryMethods_fit templates_fit

end CSharp
end Retarget
