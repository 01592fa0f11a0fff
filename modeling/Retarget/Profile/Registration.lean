import Retarget.Profile
import Retarget.Template.Parse

/-! Registrations: the steps by which a profile is put together. Of several for one key the last
counts. The first template that does not parse makes the whole profile fail. -/
namespace Retarget

inductive Registration where
  | indent (indent : Indent)
  | terminator (text : String)
  | pass (pass : Pass)
  | types (types : TypeTable)
  | template (tag : Tag) (source : String)
  | switch (tag : Tag) (on : String) (cases : List (String × String)) (default : Option String)
  | optional (tag : Tag) (name present fallback : String)
  | override (name : String) (function : Override)
  | function (space name source : String) (dependency : Option String)
  | method (receiver name source : String) (dependency : Option String)
  | typeDependency (type dependency : String)

namespace Registration

def parseCase (owner : String) (entry : String × String) :
    Except TemplateError (String × Template) := do
  return (entry.1, ← Template.parse owner entry.2)

/-- A switch from its sources: the path it looks at, then its cases, then its default. -/
def parseSwitch (owner on : String) (cases : List (String × String)) (default : Option String) :
    Except TemplateError Switch :=
  match Path.parse? on.toList with
  | none => .error (.invalidDirective owner on)
  | some path => do
    let cases ← cases.mapM (parseCase owner)
    let default ← default.mapM (Template.parse owner)
    return ⟨path, cases, default⟩

def addOptional (profile : Profile) (tag : Tag) (name : String) (pair : OptionalPair) : Profile :=
  { profile with optionals := profile.optionals.insert (tag, name) pair }

def addEntry (profile : Profile) (tag : Tag) (entry : Entry) : Profile :=
  { profile with entries := profile.entries.insert tag entry }

def addLibrary (profile : Profile) (change : Library → Library) : Profile :=
  { profile with library := change profile.library }

/-- The profile after a registration. -/
def apply (profile : Profile) : Registration → Except TemplateError Profile
  | .indent step => .ok { profile with indent := step }
  | .terminator text => .ok { profile with terminator := text }
  | .pass added => .ok { profile with passes := profile.passes ++ [added] }
  | .types table => .ok { profile with types := table }
  | .template tag source => do
    return addEntry profile tag (.template (← Template.parse tag.name source))
  | .switch tag on cases default => do
    return addEntry profile tag (.switch (← parseSwitch tag.name on cases default))
  | .optional tag name present fallback => do
    let owner := tag.name ++ "." ++ name
    let present ← Template.parse owner present
    let fallback ← Template.parse owner fallback
    return addOptional profile tag name ⟨present, fallback⟩
  | .override name body =>
    .ok { profile with overrides := profile.overrides.insert name body }
  | .function space name source dependency => do
    let template ← Template.parse (space ++ "." ++ name) source
    return addLibrary profile fun library =>
      { library with functions := library.functions.insert (space, name) ⟨template, dependency⟩ }
  | .method receiver name source dependency => do
    let template ← Template.parse (receiver ++ "." ++ name) source
    return addLibrary profile fun library =>
      { library with methods := library.methods.insert (receiver, name) ⟨template, dependency⟩ }
  | .typeDependency type dependency =>
    .ok <| addLibrary profile fun library =>
      { library with typeDependencies := library.typeDependencies.insert type dependency }

end Registration

/-- A profile being built, with the first template error so far. -/
structure Builder where
  profile : Profile
  error : Option TemplateError

namespace Builder

def empty (name extension : String) : Builder := ⟨.empty name extension, none⟩

/-- A registration that fails leaves the profile as it is, and its error counts if it is the first. -/
def register (builder : Builder) (registration : Registration) : Builder :=
  match registration.apply builder.profile with
  | .ok profile => { builder with profile := profile }
  | .error cause => { builder with error := builder.error.or (some cause) }

def finish (builder : Builder) : Except TemplateError Profile :=
  match builder.error with
  | some cause => .error cause
  | none => .ok builder.profile

end Builder

/-- The profile that registrations make, each tried in order. -/
def Profile.build (name extension : String) (registrations : List Registration) :
    Except TemplateError Profile :=
  (registrations.foldl Builder.register (.empty name extension)).finish

end Retarget
