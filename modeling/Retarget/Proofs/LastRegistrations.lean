import Retarget.Proofs.Building

/-! What building reports and what it keeps. The first source that does not parse is the one reported, in the
order in which registrations give their sources. If all parse, the profile holds under every key what was
registered for it last. -/
namespace Retarget

/-- A text that a registration parses, with the owner that its error names. -/
inductive Source where
  | path (owner text : String)
  | template (owner text : String)

def Source.error? : Source → Option TemplateError
  | path owner text => if (Path.parse? text.toList).isSome then none else some (.invalidDirective owner text)
  | template owner text =>
    match Template.parse owner text with
    | .ok _ => none
    | .error cause => some cause

/-- What of a profile a registration sets. -/
inductive Key where
  | indent
  | terminator
  | types
  | entry (tag : Tag)
  | optional (tag : Tag) (name : String)
  | override (name : String)
  | function (space name : String)
  | method (receiver name : String)
  | typeDependency (type : String)
  deriving DecidableEq

namespace Registration

/-- The sources of a registration, in the order in which they are parsed. -/
def sources : Registration → List Source
  | template tag source => [.template tag.name source]
  | switch tag on cases default =>
    .path tag.name on :: (cases.map fun entry => .template tag.name entry.2) ++
      default.toList.map (.template tag.name)
  | optional tag name present fallback =>
    [.template (tag.name ++ "." ++ name) present, .template (tag.name ++ "." ++ name) fallback]
  | function space name source _ => [.template (space ++ "." ++ name) source]
  | method receiver name source _ => [.template (receiver ++ "." ++ name) source]
  | indent _ | terminator _ | pass _ | types _ | override _ _ | typeDependency _ _ => []

/-- A template and a switch for one tag share their key; passes have none, since all of them count. -/
def key? : Registration → Option Key
  | indent _ => some .indent
  | terminator _ => some .terminator
  | pass _ => none
  | types _ => some .types
  | template tag _ => some (.entry tag)
  | switch tag _ _ _ => some (.entry tag)
  | optional tag name _ _ => some (.optional tag name)
  | override name _ => some (.override name)
  | function space name _ _ => some (.function space name)
  | method receiver name _ _ => some (.method receiver name)
  | typeDependency type _ => some (.typeDependency type)

end Registration

section Errors

/-- A result that is an error exactly if some source has one, and then the first such. -/
def Reports (sources : List Source) (result : Except TemplateError α) : Prop :=
  ∀ cause, result = .error cause ↔ sources.findSome? Source.error? = some cause

namespace Reports

theorem ok (value : α) : Reports [] (.ok value : Except TemplateError α) := by
  intro cause
  simp

theorem template (owner text : String) : Reports [.template owner text] (Template.parse owner text) := by
  intro cause
  cases parses : Template.parse owner text <;> simp [Source.error?, parses]

theorem bind {first rest : List Source} {result : Except TemplateError α} {next : α → Except TemplateError β}
    (before : Reports first result) (after : ∀ value, Reports rest (next value)) :
    Reports (first ++ rest) (result >>= next) := by
  intro cause
  rw [List.findSome?_append]
  cases result with
  | error found =>
    have reported := (before found).mp rfl
    simp [reported, Bind.bind, Except.bind]
  | ok value =>
    have silent : first.findSome? Source.error? = none := by
      rw [Option.eq_none_iff_forall_ne_some]
      intro found reported
      cases (before found).mpr reported
    rw [silent, Option.none_or]
    exact after value cause

theorem map {sources : List Source} {result : Except TemplateError α} (f : α → β)
    (reports : Reports sources result) : Reports sources (f <$> result) := by
  intro cause
  rw [← reports cause]
  cases result <;> simp [Functor.map, Except.map]

theorem mapM {sources : α → List Source} {f : α → Except TemplateError β} (xs : List α)
    (each : ∀ x, Reports (sources x) (f x)) : Reports (xs.flatMap sources) (xs.mapM f) := by
  induction xs with
  | nil => exact ok []
  | cons x xs ih =>
    rw [List.mapM_cons, List.flatMap_cons]
    apply bind (each x)
    intro y
    simpa using ih.map (y :: ·)

end Reports

namespace Registration

/-- A switch parses its path, then its cases in order, then its default. -/
theorem reports_parseSwitch (owner on : String) (cases : List (String × String)) (default : Option String) :
    Reports (.path owner on :: (cases.map fun entry => .template owner entry.2) ++
      default.toList.map (.template owner)) (parseSwitch owner on cases default) := by
  rw [parseSwitch]
  cases path : Path.parse? on.toList with
  | none =>
    intro cause
    simp [Source.error?, path]
  | some parsed =>
    have quiet : (Source.path owner on).error? = none := by simp [Source.error?, path]
    have parsesCases : Reports (cases.map fun entry => .template owner entry.2) (cases.mapM (parseCase owner)) := by
      rw [← List.flatMap_pure_eq_map]
      apply Reports.mapM
      intro entry
      simpa [parseCase] using (Reports.template owner entry.2).map fun template => (entry.1, template)
    have parsesDefault : Reports (default.toList.map (.template owner)) (default.mapM (Template.parse owner)) := by
      cases default with
      | none => exact .ok none
      | some source => exact (Reports.template owner source).map some
    have after := parsesCases.bind fun found => parsesDefault.map fun last => (⟨parsed, found, last⟩ : Switch)
    intro cause
    rw [List.cons_append, List.findSome?_cons_of_isNone (by simp [quiet])]
    simpa using after cause

theorem reports_parsed (registration : Registration) : Reports registration.sources registration.parsed := by
  cases registration with
  | template tag source => simpa [parsed, sources] using (Reports.template tag.name source).map _
  | switch tag on cases default => simpa [parsed, sources] using (reports_parseSwitch tag.name on cases default).map _
  | optional tag name present fallback =>
    have second (first : Template) := (Reports.template (tag.name ++ "." ++ name) fallback).map fun last =>
      Parsed.optional tag name ⟨first, last⟩
    simpa [parsed, sources] using (Reports.template (tag.name ++ "." ++ name) present).bind second
  | function space name source dependency =>
    simpa [parsed, sources] using (Reports.template (space ++ "." ++ name) source).map _
  | method receiver name source dependency =>
    simpa [parsed, sources] using (Reports.template (receiver ++ "." ++ name) source).map _
  | _ => exact .ok _

end Registration

theorem Profile.reports_build (name extension : String) (registrations : List Registration) :
    Reports (registrations.flatMap Registration.sources) (build name extension registrations) := by
  rw [build_eq]
  exact (Reports.mapM registrations Registration.reports_parsed).map _

end Errors

namespace Parsed

def key? : Parsed → Option Key
  | indent _ => some .indent
  | terminator _ => some .terminator
  | pass _ => none
  | types _ => some .types
  | entry tag _ => some (.entry tag)
  | optional tag name _ => some (.optional tag name)
  | override name _ => some (.override name)
  | function space name _ => some (.function space name)
  | method receiver name _ => some (.method receiver name)
  | typeDependency type _ => some (.typeDependency type)

end Parsed

theorem Registration.key?_of_parsed (registration : Registration) (found : Parsed)
    (parses : registration.parsed = .ok found) : found.key? = registration.key? := by
  cases registration.parsesTo_of_parsed found parses <;> rfl

namespace Profile

/-- What a profile holds under a key. -/
def item? (profile : Profile) : Key → Option Parsed
  | .indent => some (.indent profile.indent)
  | .terminator => some (.terminator profile.terminator)
  | .types => some (.types profile.types)
  | .entry tag => (profile.entry? tag).map (.entry tag)
  | .optional tag name => (profile.optional? tag name).map (.optional tag name)
  | .override name => (profile.overrides.get? name).map (.override name)
  | .function space name => (profile.library.function? space name).map (.function space name)
  | .method receiver name => (profile.library.method? receiver name).map (.method receiver name)
  | .typeDependency type => (profile.library.typeDependency? type).map (.typeDependency type)

theorem item?_record_self (profile : Profile) (found : Parsed) (key : Key) (own : found.key? = some key) :
    (profile.record found).item? key = some found := by
  cases found <;> cases own <;>
    simp [record, item?, Registration.addEntry, Registration.addOptional, Registration.addLibrary, Target.entry?,
      Target.optional?, Library.function?, Library.method?, Library.typeDependency?, Table.get?_insert]

theorem item?_record_other (profile : Profile) (found : Parsed) (key : Key) (other : found.key? ≠ some key) :
    (profile.record found).item? key = profile.item? key := by
  cases found <;> cases key <;>
    simp_all [record, item?, Parsed.key?, Registration.addEntry, Registration.addOptional, Registration.addLibrary,
      Target.entry?, Target.optional?, Library.function?, Library.method?, Library.typeDependency?,
      Table.get?_insert, eq_comm, -not_and]

/-- The last recorded for a key counts, and what nothing was recorded for is as in an empty profile. -/
theorem item?_ofParsed (name extension : String) (parsed : List Parsed) (key : Key) :
    (ofParsed name extension parsed).item? key =
      ((parsed.filter fun found => found.key? = some key).getLast?).or ((empty name extension).item? key) := by
  induction parsed using List.reverseRecOn with
  | nil => rfl
  | append_singleton before found ih =>
    rw [ofParsed_concat, List.filter_append]
    by_cases own : found.key? = some key
    · simp [item?_record_self _ found key own, own]
    · simp [item?_record_other _ found key own, own, ih]

theorem rel_getLast? {R : α → β → Prop} {xs : List α} {ys : List β} (related : List.Forall₂ R xs ys) :
    Option.Rel R xs.getLast? ys.getLast? := by
  have turned := List.rel_reverse related
  rw [List.getLast?_eq_head?_reverse, List.getLast?_eq_head?_reverse]
  generalize xs.reverse = front at turned
  generalize ys.reverse = back at turned
  cases turned with
  | nil => exact .none
  | cons first _ => exact .some first

/-- A profile that holds what was registered last for each key, and all passes in order. -/
structure Keeps (name extension : String) (registrations : List Registration) (built : Profile) : Prop where
  ownName : built.name = name
  ownExtension : built.extension = extension
  passes : built.passes = registrations.filterMap Registration.pass?
  items : ∀ key, built.item? key =
    match (registrations.filter fun registration => registration.key? = some key).getLast? with
    | some last => last.parsed.toOption
    | none => (Profile.empty name extension).item? key

theorem keeps_of_parses (name extension : String) (registrations : List Registration) (parsed : List Parsed)
    (parses : registrations.mapM Registration.parsed = .ok parsed) :
    Keeps name extension registrations (ofParsed name extension parsed) where
  ownName := rfl
  ownExtension := rfl
  passes := filterMap_parsed parses Parsed.pass? Registration.pass? fun registration found same =>
    (registration.agrees_of_parsed found same).pass
  items key := by
    have same (registration : Registration) (found : Parsed) (parses : registration.parsed = .ok found) :
        decide (registration.key? = some key) ↔ decide (found.key? = some key) := by
      rw [registration.key?_of_parsed found parses]
    have kept := List.rel_filter same ((mapM_eq_ok_iff ..).mp parses)
    have last := rel_getLast? kept
    rw [item?_ofParsed]
    generalize (registrations.filter fun registration => registration.key? = some key).getLast? = given at last ⊢
    generalize (parsed.filter fun found => found.key? = some key).getLast? = stored at last ⊢
    cases last with
    | none => rfl
    | some parses => simp [parses, Except.toOption]

theorem keeps_of_build {name extension : String} {registrations : List Registration} {built : Profile}
    (builds : build name extension registrations = .ok built) : built.Keeps name extension registrations := by
  rw [build_eq, map_eq_ok_iff] at builds
  obtain ⟨parsed, parses, rfl⟩ := builds
  exact keeps_of_parses name extension registrations parsed parses

/-- Building comes to a profile exactly if every source parses; else it reports the first that does not. The profile
keeps what was registered last for each key. -/
theorem first_faults_and_last_registrations (name extension : String) (registrations : List Registration) :
    ((∃ built, build name extension registrations = .ok built) ↔
      ∀ source ∈ registrations.flatMap Registration.sources, source.error? = none) ∧
    (∀ cause, build name extension registrations = .error cause ↔
      (registrations.flatMap Registration.sources).findSome? Source.error? = some cause) ∧
    ∀ built, build name extension registrations = .ok built → built.Keeps name extension registrations := by
  have reports := reports_build name extension registrations
  refine ⟨?_, reports, ?_⟩
  · rw [← List.findSome?_eq_none_iff]
    cases result : build name extension registrations with
    | ok built =>
      have silent : (registrations.flatMap Registration.sources).findSome? Source.error? = none := by
        rw [Option.eq_none_iff_forall_ne_some]
        intro cause reported
        rw [(reports cause).mpr reported] at result
        cases result
      simp [silent]
    | error cause => simp [(reports cause).mp result]
  · intro built builds
    exact keeps_of_build builds

/-- Three sources of these do not parse: both of the pair, and the path of the switch. -/
def faultyRegistrations : List Registration :=
  [.template .int "%<value>", .optional .localVar "name" "%<name" "%<Bad>", .terminator ";", .switch .int "a b" [] none]

/-- Integers are registered twice, by a switch and then by a template. -/
def repeatedRegistrations : List Registration :=
  [.switch .int "value" [] (some "one"), .terminator ";", .template .int "other", .terminator "."]

theorem first_fault_and_last_entry :
    build "x" "x" faultyRegistrations = .error (.unterminated "local.name" "%<name") ∧
      ∃ built, build "x" "x" repeatedRegistrations = .ok built ∧
        built.item? (.entry .int) = some (.entry .int (.template ⟨[⟨0, [.text "other"]⟩]⟩)) ∧
        built.item? .terminator = some (.terminator ".") := by
  have faulty := first_faults_and_last_registrations "x" "x" faultyRegistrations
  have repeated := first_faults_and_last_registrations "x" "x" repeatedRegistrations
  refine ⟨(faulty.2.1 _).mpr rfl, ?_⟩
  obtain ⟨built, builds⟩ := repeated.1.mpr (by decide)
  have keeps := repeated.2.2 built builds
  exact ⟨built, builds, (keeps.items _).trans rfl, (keeps.items _).trans rfl⟩

end Profile
end Retarget
