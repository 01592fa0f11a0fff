import Mathlib.Data.List.Forall2
import Mathlib.Data.List.Induction
import Retarget.Profile.Registration

/-! What building makes of registrations. Their templates are parsed in order; if all of them parse,
every table of the profile lists what was registered for it, the last registration for a key counting. -/
namespace Retarget

theorem bind_eq_ok_iff (first : Except ε α) (next : α → Except ε β) (result : β) :
    first >>= next = .ok result ↔ ∃ value, first = .ok value ∧ next value = .ok result := by
  cases first <;> simp [bind, Except.bind]

theorem map_eq_ok_iff (f : α → β) (result : Except ε α) (value : β) :
    f <$> result = .ok value ↔ ∃ inner, result = .ok inner ∧ f inner = value := by
  cases result <;> simp [Functor.map, Except.map]

theorem mapM_eq_ok_iff (f : α → Except ε β) (xs : List α) (ys : List β) :
    xs.mapM f = .ok ys ↔ List.Forall₂ (fun x y => f x = .ok y) xs ys := by
  induction xs generalizing ys with
  | nil =>
    rw [List.forall₂_nil_left_iff, List.mapM_nil]
    constructor
    · intro same
      cases same
      rfl
    · rintro rfl
      rfl
  | cons x xs ih =>
    rw [List.forall₂_cons_left_iff, List.mapM_cons, bind_eq_ok_iff]
    constructor
    · rintro ⟨y, first, continued⟩
      obtain ⟨zs, rest, same⟩ := (bind_eq_ok_iff _ _ _).mp continued
      cases same
      exact ⟨y, zs, first, (ih zs).mp rest, rfl⟩
    · rintro ⟨y, zs, first, rest, rfl⟩
      exact ⟨y, first, (bind_eq_ok_iff _ _ _).mpr ⟨zs, (ih zs).mpr rest, rfl⟩⟩

theorem exists_of_forall₂ {R : α → β → Prop} {xs : List α} {ys : List β} (related : List.Forall₂ R xs ys) (x : α)
    (listed : x ∈ xs) : ∃ y ∈ ys, R x y := by
  induction related with
  | nil => cases listed
  | cons first rest ih =>
    rcases List.mem_cons.mp listed with rfl | later
    · exact ⟨_, List.mem_cons_self, first⟩
    · obtain ⟨y, among, related⟩ := ih later
      exact ⟨y, List.mem_cons_of_mem _ among, related⟩

theorem exists_mapM_eq_ok (f : α → Except ε β) (xs : List α) (succeeds : ∀ x ∈ xs, ∃ y, f x = .ok y) :
    ∃ ys, xs.mapM f = .ok ys := by
  induction xs with
  | nil => exact ⟨[], rfl⟩
  | cons x xs ih =>
    rw [List.forall_mem_cons] at succeeds
    obtain ⟨y, first⟩ := succeeds.1
    obtain ⟨ys, rest⟩ := ih succeeds.2
    exact ⟨y :: ys, by rw [List.mapM_cons, first, rest]; rfl⟩

/-- A registration with its templates parsed. -/
inductive Parsed where
  | indent (indent : Indent)
  | terminator (text : String)
  | pass (pass : Pass)
  | types (types : TypeTable)
  | entry (tag : Tag) (entry : Entry)
  | optional (tag : Tag) (name : String) (pair : OptionalPair)
  | override (name : String) (function : Override)
  | function (space name : String) (entry : LibraryEntry)
  | method (receiver name : String) (entry : LibraryEntry)
  | typeDependency (type dependency : String)

namespace Registration

def parsed : Registration → Except TemplateError Parsed
  | indent step => .ok (.indent step)
  | terminator text => .ok (.terminator text)
  | pass added => .ok (.pass added)
  | types table => .ok (.types table)
  | template tag source => do return .entry tag (.template (← Template.parse tag.name source))
  | switch tag on cases default => do return .entry tag (.switch (← parseSwitch tag.name on cases default))
  | optional tag name present fallback => do
    let owner := tag.name ++ "." ++ name
    let present ← Template.parse owner present
    let fallback ← Template.parse owner fallback
    return .optional tag name ⟨present, fallback⟩
  | override name body => .ok (.override name body)
  | function space name source dependency => do
    return .function space name ⟨← Template.parse (space ++ "." ++ name) source, dependency⟩
  | method receiver name source dependency => do
    return .method receiver name ⟨← Template.parse (receiver ++ "." ++ name) source, dependency⟩
  | typeDependency type dependency => .ok (.typeDependency type dependency)

/-- What registrations are parsed to: only sources change. -/
inductive ParsesTo : Registration → Parsed → Prop
  | indent (step : Indent) : ParsesTo (.indent step) (.indent step)
  | terminator (text : String) : ParsesTo (.terminator text) (.terminator text)
  | pass (added : Pass) : ParsesTo (.pass added) (.pass added)
  | types (table : TypeTable) : ParsesTo (.types table) (.types table)
  | template {tag : Tag} {source : String} {template : Template} : Template.parse tag.name source = .ok template →
      ParsesTo (.template tag source) (.entry tag (.template template))
  | switch {tag : Tag} {on : String} {cases : List (String × String)} {default : Option String} {switch : Switch} :
      parseSwitch tag.name on cases default = .ok switch →
      ParsesTo (.switch tag on cases default) (.entry tag (.switch switch))
  | optional {tag : Tag} {name first second : String} {present fallback : Template} :
      Template.parse (tag.name ++ "." ++ name) first = .ok present →
      Template.parse (tag.name ++ "." ++ name) second = .ok fallback →
      ParsesTo (.optional tag name first second) (.optional tag name ⟨present, fallback⟩)
  | override (name : String) (body : Override) : ParsesTo (.override name body) (.override name body)
  | function {space name source : String} (dependency : Option String) {template : Template} :
      Template.parse (space ++ "." ++ name) source = .ok template →
      ParsesTo (.function space name source dependency) (.function space name ⟨template, dependency⟩)
  | method {receiver name source : String} (dependency : Option String) {template : Template} :
      Template.parse (receiver ++ "." ++ name) source = .ok template →
      ParsesTo (.method receiver name source dependency) (.method receiver name ⟨template, dependency⟩)
  | typeDependency (type dependency : String) :
      ParsesTo (.typeDependency type dependency) (.typeDependency type dependency)

theorem parsesTo_of_parsed (registration : Registration) (found : Parsed) (parses : registration.parsed = .ok found) :
    registration.ParsesTo found := by
  cases registration with
  | template tag source =>
    obtain ⟨template, read, same⟩ := (bind_eq_ok_iff ..).mp parses
    cases same
    exact .template read
  | switch tag on cases default =>
    obtain ⟨switch, read, same⟩ := (bind_eq_ok_iff ..).mp parses
    cases same
    exact .switch read
  | optional tag name present fallback =>
    obtain ⟨present, first, rest⟩ := (bind_eq_ok_iff ..).mp parses
    obtain ⟨fallback, second, same⟩ := (bind_eq_ok_iff ..).mp rest
    cases same
    exact .optional first second
  | function space name source dependency =>
    obtain ⟨template, read, same⟩ := (bind_eq_ok_iff ..).mp parses
    cases same
    exact .function dependency read
  | method receiver name source dependency =>
    obtain ⟨template, read, same⟩ := (bind_eq_ok_iff ..).mp parses
    cases same
    exact .method dependency read
  | _ =>
    cases parses
    constructor

end Registration

namespace Parsed

def indent? : Parsed → Option Indent
  | indent step => some step
  | _ => none

def terminator? : Parsed → Option String
  | terminator text => some text
  | _ => none

def pass? : Parsed → Option Pass
  | pass added => some added
  | _ => none

def types? : Parsed → Option TypeTable
  | types table => some table
  | _ => none

def entry? : Parsed → Option (Tag × Entry)
  | entry tag added => some (tag, added)
  | _ => none

def optional? : Parsed → Option ((Tag × String) × OptionalPair)
  | optional tag name pair => some ((tag, name), pair)
  | _ => none

def override? : Parsed → Option (String × Override)
  | override name body => some (name, body)
  | _ => none

def function? : Parsed → Option ((String × String) × LibraryEntry)
  | function space name added => some ((space, name), added)
  | _ => none

def method? : Parsed → Option ((String × String) × LibraryEntry)
  | method receiver name added => some ((receiver, name), added)
  | _ => none

def typeDependency? : Parsed → Option (String × String)
  | typeDependency type dependency => some (type, dependency)
  | _ => none

end Parsed

namespace Registration

def indent? : Registration → Option Indent
  | indent step => some step
  | _ => none

def pass? : Registration → Option Pass
  | pass added => some added
  | _ => none

def types? : Registration → Option TypeTable
  | types table => some table
  | _ => none

def terminator? : Registration → Option String
  | terminator text => some text
  | _ => none

def override? : Registration → Option (String × Override)
  | override name body => some (name, body)
  | _ => none

def typeDependency? : Registration → Option (String × String)
  | typeDependency type dependency => some (type, dependency)
  | _ => none

/-- The tag that a template or a switch is registered for. -/
def tag? : Registration → Option Tag
  | template tag _ => some tag
  | switch tag _ _ _ => some tag
  | _ => none

/-- The tag and the attribute that a pair is registered for. -/
def optional? : Registration → Option (Tag × String)
  | optional tag name _ _ => some (tag, name)
  | _ => none

/-- What a parsed registration says of the registration. -/
structure Agrees (registration : Registration) (parsed : Parsed) : Prop where
  indent : parsed.indent? = registration.indent?
  pass : parsed.pass? = registration.pass?
  types : parsed.types? = registration.types?
  terminator : parsed.terminator? = registration.terminator?
  override : parsed.override? = registration.override?
  typeDependency : parsed.typeDependency? = registration.typeDependency?
  tag : parsed.entry?.map Prod.fst = registration.tag?
  optional : parsed.optional?.map Prod.fst = registration.optional?

theorem agrees_of_parsed (registration : Registration) (found : Parsed) (parses : registration.parsed = .ok found) :
    registration.Agrees found := by
  cases registration.parsesTo_of_parsed found parses <;> exact ⟨rfl, rfl, rfl, rfl, rfl, rfl, rfl, rfl⟩

end Registration

/-- The profile that parsed registrations describe. -/
def Profile.ofParsed (name extension : String) (parsed : List Parsed) : Profile where
  name := name
  extension := extension
  indent := (parsed.filterMap Parsed.indent?).getLast?.getD (.spaces 4)
  terminator := (parsed.filterMap Parsed.terminator?).getLast?.getD ""
  types := (parsed.filterMap Parsed.types?).getLast?.getD .empty
  entries := .ofList (parsed.filterMap Parsed.entry?)
  optionals := .ofList (parsed.filterMap Parsed.optional?)
  library := ⟨.ofList (parsed.filterMap Parsed.function?), .ofList (parsed.filterMap Parsed.method?),
    .ofList (parsed.filterMap Parsed.typeDependency?)⟩
  passes := parsed.filterMap Parsed.pass?
  overrides := .ofList (parsed.filterMap Parsed.override?)

namespace Table

variable {κ β : Type} [DecidableEq κ]

theorem ofList_concat (entries : List (κ × β)) (key : κ) (value : β) :
    ofList (entries ++ [(key, value)]) = (ofList entries).insert key value := by
  rw [ofList, List.foldl_append]
  rfl

theorem mem_of_get?_ofList (entries : List (κ × β)) (key : κ) (value : β)
    (found : (ofList entries).get? key = some value) : (key, value) ∈ entries := by
  induction entries using List.reverseRecOn with
  | nil => cases found
  | append_singleton rest entry ih =>
    obtain ⟨other, stored⟩ := entry
    rw [ofList_concat, get?_insert] at found
    split at found
    · rename_i same
      cases found
      rw [same]
      exact List.mem_append_right _ List.mem_cons_self
    · exact List.mem_append_left _ (ih found)

theorem exists_get?_ofList (entries : List (κ × β)) (key : κ) (value : β) (member : (key, value) ∈ entries) :
    ∃ last, (ofList entries).get? key = some last := by
  induction entries using List.reverseRecOn with
  | nil => cases member
  | append_singleton rest entry ih =>
    obtain ⟨other, stored⟩ := entry
    rw [ofList_concat, get?_insert]
    split
    · exact ⟨stored, rfl⟩
    · rename_i different
      rcases List.mem_append.mp member with earlier | last
      · exact ih earlier
      · cases List.mem_singleton.mp last
        exact absurd rfl different

/-- Without a second entry for its key, an entry is what the table holds. -/
theorem get?_ofList_of_unique (entries : List (κ × β)) (key : κ) (value : β) (member : (key, value) ∈ entries)
    (unique : ∀ other, (key, other) ∈ entries → other = value) : (ofList entries).get? key = some value := by
  obtain ⟨last, found⟩ := exists_get?_ofList entries key value member
  rw [found, unique last (mem_of_get?_ofList entries key last found)]

end Table

namespace Profile

def record (profile : Profile) : Parsed → Profile
  | .indent step => { profile with indent := step }
  | .terminator text => { profile with terminator := text }
  | .pass added => { profile with passes := profile.passes ++ [added] }
  | .types table => { profile with types := table }
  | .entry tag added => Registration.addEntry profile tag added
  | .optional tag name pair => Registration.addOptional profile tag name pair
  | .override name body => { profile with overrides := profile.overrides.insert name body }
  | .function space name added => Registration.addLibrary profile fun library =>
      { library with functions := library.functions.insert (space, name) added }
  | .method receiver name added => Registration.addLibrary profile fun library =>
      { library with methods := library.methods.insert (receiver, name) added }
  | .typeDependency type dependency => Registration.addLibrary profile fun library =>
      { library with typeDependencies := library.typeDependencies.insert type dependency }

theorem apply_eq (profile : Profile) (registration : Registration) :
    registration.apply profile = profile.record <$> registration.parsed := by
  cases registration with
  | template tag source =>
    rw [Registration.apply, Registration.parsed]
    cases Template.parse tag.name source <;> rfl
  | switch tag on cases default =>
    rw [Registration.apply, Registration.parsed]
    cases Registration.parseSwitch tag.name on cases default <;> rfl
  | optional tag name present fallback =>
    simp only [Registration.apply, Registration.parsed]
    cases Template.parse (tag.name ++ "." ++ name) present with
    | error cause => rfl
    | ok present => cases Template.parse (tag.name ++ "." ++ name) fallback <;> rfl
  | function space name source dependency =>
    rw [Registration.apply, Registration.parsed]
    cases Template.parse (space ++ "." ++ name) source <;> rfl
  | method receiver name source dependency =>
    rw [Registration.apply, Registration.parsed]
    cases Template.parse (receiver ++ "." ++ name) source <;> rfl
  | _ => rfl

theorem ofParsed_concat (name extension : String) (before : List Parsed) (parsed : Parsed) :
    ofParsed name extension (before ++ [parsed]) = (ofParsed name extension before).record parsed := by
  cases parsed <;>
    simp [ofParsed, record, Registration.addEntry, Registration.addOptional, Registration.addLibrary,
      Parsed.indent?, Parsed.terminator?, Parsed.types?, Parsed.pass?, Parsed.entry?, Parsed.optional?,
      Parsed.override?, Parsed.function?, Parsed.method?, Parsed.typeDependency?, Table.ofList_concat,
      List.filterMap_cons]

/-- After a failure nothing that follows matters. -/
theorem finish_of_failed (registrations : List Registration) (cause : TemplateError) (profile : Profile) :
    (registrations.foldl Builder.register ⟨profile, some cause⟩).finish = .error cause := by
  induction registrations generalizing profile with
  | nil => rfl
  | cons registration rest ih =>
    rw [List.foldl_cons, Builder.register]
    cases registration.apply profile with
    | ok next => exact ih next
    | error later => exact ih profile

/-- Building could as well stop at the first registration that fails. -/
theorem finish_eq_foldlM (registrations : List Registration) (profile : Profile) :
    (registrations.foldl Builder.register ⟨profile, none⟩).finish =
      registrations.foldlM Registration.apply profile := by
  induction registrations generalizing profile with
  | nil => rfl
  | cons registration rest ih =>
    rw [List.foldl_cons, List.foldlM_cons, Builder.register]
    cases registration.apply profile with
    | ok next => exact ih next
    | error cause => exact finish_of_failed rest cause profile

/-- Building fails with the first template that does not parse, and else describes the profile. -/
theorem build_eq (name extension : String) (registrations : List Registration) :
    build name extension registrations =
      ofParsed name extension <$> registrations.mapM Registration.parsed := by
  have continued (before : List Parsed) : registrations.foldlM Registration.apply (ofParsed name extension before) =
      (fun parsed => ofParsed name extension (before ++ parsed)) <$> registrations.mapM Registration.parsed := by
    induction registrations generalizing before with
    | nil => simp
    | cons registration rest ih =>
      rw [List.foldlM_cons, apply_eq, List.mapM_cons]
      simp only [bind_map_left, ← ofParsed_concat, ih, map_bind, List.append_assoc, List.cons_append,
        List.nil_append, bind_pure_comp, Functor.map_map]
  exact (finish_eq_foldlM ..).trans (continued [])

end Profile

section Parses

variable {registrations : List Registration} {parsed : List Parsed}
  (parses : registrations.mapM Registration.parsed = .ok parsed)
include parses

theorem exists_registration (found : Parsed) (member : found ∈ parsed) :
    ∃ registration ∈ registrations, registration.parsed = .ok found :=
  exists_of_forall₂ ((mapM_eq_ok_iff ..).mp parses).flip found member

/-- What parsing does not touch can be read off the registrations. -/
theorem filterMap_parsed (after : Parsed → Option β) (before : Registration → Option β)
    (same : ∀ registration found, registration.parsed = .ok found → after found = before registration) :
    parsed.filterMap after = registrations.filterMap before := by
  have pairs := (mapM_eq_ok_iff ..).mp parses
  clear parses
  induction pairs with
  | nil => rfl
  | cons first _ ih => rw [List.filterMap_cons, List.filterMap_cons, same _ _ first, ih]

end Parses

/-- Everything in the tables of a target has a property of what is parsed. -/
structure Target.Holds (P : Parsed → Prop) (target : Target) : Prop where
  entries : ∀ tag entry, target.entry? tag = some entry → P (.entry tag entry)
  optionals : ∀ tag name pair, target.optional? tag name = some pair → P (.optional tag name pair)
  functions : ∀ space name entry, target.library.function? space name = some entry → P (.function space name entry)
  methods : ∀ receiver name entry, target.library.method? receiver name = some entry → P (.method receiver name entry)
  typeDependencies : ∀ type dependency, target.library.typeDependencies.get? type = some dependency →
    P (.typeDependency type dependency)

namespace Profile

theorem holds_ofParsed {P : Parsed → Prop} {parsed : List Parsed} (all : ∀ found ∈ parsed, P found)
    (name extension : String) : (ofParsed name extension parsed).toTarget.Holds P := by
  have stored {κ β : Type} [DecidableEq κ] (select : Parsed → Option (κ × β)) (key : κ) (value : β)
      (found : (Table.ofList (parsed.filterMap select)).get? key = some value) :
      ∃ source, select source = some (key, value) ∧ P source := by
    obtain ⟨source, member, same⟩ := List.mem_filterMap.mp (Table.mem_of_get?_ofList _ key value found)
    exact ⟨source, same, all source member⟩
  constructor
  · intro tag entry found
    obtain ⟨source, same, holds⟩ := stored Parsed.entry? _ _ found
    cases source <;> cases same
    exact holds
  · intro tag name pair found
    obtain ⟨source, same, holds⟩ := stored Parsed.optional? _ _ found
    cases source <;> cases same
    exact holds
  · intro space name entry found
    obtain ⟨source, same, holds⟩ := stored Parsed.function? _ _ found
    cases source <;> cases same
    exact holds
  · intro receiver name entry found
    obtain ⟨source, same, holds⟩ := stored Parsed.method? _ _ found
    cases source <;> cases same
    exact holds
  · intro type dependency found
    obtain ⟨source, same, holds⟩ := stored Parsed.typeDependency? _ _ found
    cases source <;> cases same
    exact holds

/-- What holds of everything that registrations are parsed to holds of the profile that they make. -/
theorem holds_of_build {P : Parsed → Prop} {name extension : String} {registrations : List Registration}
    {built : Profile} (builds : build name extension registrations = .ok built)
    (all : ∀ registration ∈ registrations, ∀ found, registration.parsed = .ok found → P found) :
    built.toTarget.Holds P := by
  rw [build_eq, map_eq_ok_iff] at builds
  obtain ⟨parsed, parses, rfl⟩ := builds
  refine holds_ofParsed (fun found member => ?_) name extension
  obtain ⟨registration, among, same⟩ := exists_registration parses found member
  exact all registration among found same

end Profile
end Retarget
