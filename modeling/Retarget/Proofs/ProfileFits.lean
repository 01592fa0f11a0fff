import Mathlib.Data.List.Nodup
import Retarget.Proofs.TemplateTable

/-! The C# profile is always built, and has what its templates ask for. -/
namespace Retarget
theorem Table.get?_ofList_of_nodup [DecidableEq κ] (entries : List (κ × β)) (nodup : (entries.map Prod.fst).Nodup)
    (key : κ) (value : β) (member : (key, value) ∈ entries) : (ofList entries).get? key = some value := by
  refine get?_ofList_of_unique entries key value member fun other among => ?_
  exact congrArg Prod.snd (List.inj_on_of_nodup_map nodup among member rfl)

section Tables

variable {registrations : List Registration} {parsed : List Parsed}
  (parses : registrations.mapM Registration.parsed = .ok parsed)
include parses

/-- A key that something is registered for is in the table. -/
theorem exists_get?_of_registered [DecidableEq κ] (after : Parsed → Option (κ × β)) (before : Registration → Option κ)
    (same : ∀ registration found, registration.parsed = .ok found → (after found).map Prod.fst = before registration)
    (key : κ) (registered : key ∈ registrations.filterMap before) :
    ∃ value found, (Table.ofList (parsed.filterMap after)).get? key = some value ∧ found ∈ parsed ∧
      after found = some (key, value) := by
  have keys : (parsed.filterMap after).map Prod.fst = registrations.filterMap before := by
    rw [List.map_filterMap]
    exact filterMap_parsed parses _ before same
  rw [← keys] at registered
  obtain ⟨⟨_, first⟩, member, rfl⟩ := List.mem_map.mp registered
  obtain ⟨last, found⟩ := Table.exists_get?_ofList _ _ first member
  obtain ⟨source, among, entry⟩ := List.mem_filterMap.mp (Table.mem_of_get?_ofList _ _ last found)
  exact ⟨last, source, found, among, entry⟩

end Tables

namespace CSharp

/-- What the C# profile has, as it is registered. -/
structure Basics (settings : LanguageSettings) (profile : Profile) : Prop where
  indent : profile.indent = indent settings
  passes : profile.passes = [.declaration, .naming (naming settings), .imports]
  types : profile.types = types
  terminator : profile.terminator = ";"
  overrides : ∀ rule ∈ rules.overrides, profile.overrides.get? rule.name = some rule.function
  noOthers : ∀ name override, profile.overrides.get? name = some override →
    ∃ rule ∈ rules.overrides, rule.name = name ∧ rule.function = override
  typeDependencies :
    profile.library.typeDependencies = .ofList (typeDependencies.filterMap Registration.typeDependency?)
  /-- A template that is the only one for its tag. -/
  templates : ∀ tag source template, (registrations settings).filter (·.tag? == some tag) = [.template tag source] →
    Template.parse tag.name source = .ok template → profile.entries.get? tag = some (.template template)

theorem Basics.override {settings : LanguageSettings} {profile : Profile} (basics : Basics settings profile)
    (name : String) (rule : OverrideRule) (listed : rules.overrides.find? (·.name == name) = some rule) :
    profile.overrides.get? name = some rule.function := by
  have same : rule.name = name := by simpa using List.find?_some listed
  rw [← same]
  exact basics.overrides rule (List.mem_of_find?_eq_some listed)

section Built

variable {settings : LanguageSettings} {parsed : List Parsed}
  (parses : (registrations settings).mapM Registration.parsed = .ok parsed)
include parses

theorem overrides_of_parsed :
    parsed.filterMap Parsed.override? = rules.overrides.map fun rule => (rule.name, rule.function) :=
  filterMap_parsed parses Parsed.override? Registration.override? fun _ _ found =>
    (Registration.agrees_of_parsed _ _ found).override

theorem basics_of_parsed : Basics settings (.ofParsed "csharp" "cs" parsed) where
  indent := by
    have same := filterMap_parsed parses Parsed.indent? Registration.indent? fun _ _ found =>
      (Registration.agrees_of_parsed _ _ found).indent
    have listed : (registrations settings).filterMap Registration.indent? = [indent settings] := rfl
    rw [Profile.ofParsed, same, listed]
    rfl
  passes := by
    have same := filterMap_parsed parses Parsed.pass? Registration.pass? fun _ _ found =>
      (Registration.agrees_of_parsed _ _ found).pass
    exact same
  types := by
    have same := filterMap_parsed parses Parsed.types? Registration.types? fun _ _ found =>
      (Registration.agrees_of_parsed _ _ found).types
    have listed : (registrations settings).filterMap Registration.types? = [types] := rfl
    rw [Profile.ofParsed, same, listed]
    rfl
  terminator := by
    have same := filterMap_parsed parses Parsed.terminator? Registration.terminator? fun _ _ found =>
      (Registration.agrees_of_parsed _ _ found).terminator
    have listed : (registrations settings).filterMap Registration.terminator? = [";"] := rfl
    rw [Profile.ofParsed, same, listed]
    rfl
  overrides := by
    intro rule member
    rw [Profile.ofParsed, overrides_of_parsed parses]
    refine Table.get?_ofList_of_nodup _ ?_ _ _ (List.mem_map.mpr ⟨rule, member, rfl⟩)
    rw [List.map_map]
    decide
  noOthers := by
    intro name override found
    rw [Profile.ofParsed, overrides_of_parsed parses] at found
    obtain ⟨rule, listed, same⟩ := List.mem_map.mp (Table.mem_of_get?_ofList _ _ override found)
    exact ⟨rule, listed, congrArg Prod.fst same, congrArg Prod.snd same⟩
  typeDependencies := by
    have same := filterMap_parsed parses Parsed.typeDependency? Registration.typeDependency? fun _ _ found =>
      (Registration.agrees_of_parsed _ _ found).typeDependency
    rw [Profile.ofParsed, same]
    rfl
  templates := by
    intro tag source template only parsesSource
    have registered : Registration.template tag source ∈ (registrations settings).filter (·.tag? == some tag) := by
      rw [only]
      exact List.mem_singleton_self _
    obtain ⟨entry, found, stored, member, same⟩ := exists_get?_of_registered parses Parsed.entry? _
      (fun _ _ found => (Registration.agrees_of_parsed _ _ found).tag) tag
      (List.mem_filterMap.mpr ⟨_, (List.mem_filter.mp registered).1, rfl⟩)
    obtain ⟨registration, among, parsesFound⟩ := exists_registration parses found member
    have tagged : registration.tag? = some tag := by
      rw [← (Registration.agrees_of_parsed _ _ parsesFound).tag, same]
      rfl
    have isOnly : registration ∈ (registrations settings).filter (·.tag? == some tag) :=
      List.mem_filter.mpr ⟨among, by rw [tagged]; exact beq_self_eq_true _⟩
    rw [only, List.mem_singleton] at isOnly
    rw [isOnly, Registration.parsed, parsesSource] at parsesFound
    cases parsesFound
    cases same
    exact stored

theorem parsed_fits (found : Parsed) (member : found ∈ parsed) : rules.parsedFits found = true := by
  obtain ⟨registration, among, same⟩ := exists_registration parses found member
  exact (registrations_fit settings registration among).check_eq found same

theorem fitsProfile_of_parsed : rules.FitsProfile (.ofParsed "csharp" "cs" parsed) where
  entries := by
    intro tag plain
    have listed : ∀ tag ∈ Tag.all, tag.isPart = false → tag ∈ templates.filterMap Registration.tag? := by decide
    have registered : tag ∈ (registrations settings).filterMap Registration.tag? := listed tag tag.mem_all plain
    obtain ⟨entry, found, stored, member, same⟩ := exists_get?_of_registered parses Parsed.entry? _
      (fun _ _ found => (Registration.agrees_of_parsed _ _ found).tag) tag registered
    refine ⟨entry, stored, ?_⟩
    have fits := parsed_fits parses found member
    cases found <;> cases same
    exact fits
  optionals := by
    intro tag name among
    have listed : ∀ key ∈ rules.optionals, key ∈ templates.filterMap Registration.optional? := by decide
    have registered : (tag, name) ∈ (registrations settings).filterMap Registration.optional? := listed _ among
    obtain ⟨pair, found, stored, member, same⟩ := exists_get?_of_registered parses Parsed.optional? _
      (fun _ _ found => (Registration.agrees_of_parsed _ _ found).optional) (tag, name) registered
    refine ⟨pair, stored, ?_⟩
    have fits := parsed_fits parses found member
    cases found <;> cases same
    exact fits
  overrides := (basics_of_parsed parses).overrides
  functions := (Profile.holds_ofParsed (parsed_fits parses) "csharp" "cs").functions
  methods := (Profile.holds_ofParsed (parsed_fits parses) "csharp" "cs").methods

end Built

theorem exists_profile (settings : LanguageSettings) :
    ∃ built, profile settings = .ok built ∧ Basics settings built ∧ rules.FitsProfile built := by
  have fitting := registrations_fit settings
  obtain ⟨parsed, parses⟩ :=
      exists_mapM_eq_ok Registration.parsed (registrations settings) fun registration member => by
    obtain ⟨found, same, _⟩ := (fitting registration member).exists_parsed
    exact ⟨found, same⟩
  refine ⟨.ofParsed "csharp" "cs" parsed, ?_, basics_of_parsed parses, fitsProfile_of_parsed parses⟩
  rw [profile, Profile.build_eq, parses]
  rfl

end CSharp
end Retarget
