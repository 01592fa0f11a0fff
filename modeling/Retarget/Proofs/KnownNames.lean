import Retarget.Proofs.OverrideRuns
import Retarget.Proofs.Totality

/-! Names in types. A type is written by looking up its names in order, the name of a container before those in its
components. This fails at the first name that is not known, and what is written does not depend on further names that
are declared. -/
namespace Retarget

namespace SemType

/-- A name in a type. -/
inductive Mention where
  | scalar (name : String)
  /-- The name of a container. -/
  | head (name : String)

namespace Mention

def name : Mention → String
  | scalar name => name
  | head name => name

/-- A scalar is known if it is in the table or declared, the name of a container if it is in the table. -/
def IsKnown (types : TypeTable) (declared : List String) : Mention → Prop
  | scalar name => (types.get? name).isSome ∨ name ∈ declared
  | head name => (types.get? name).isSome

instance (types : TypeTable) (declared : List String) : DecidablePred (IsKnown types declared)
  | scalar name => inferInstanceAs (Decidable ((types.get? name).isSome ∨ name ∈ declared))
  | head name => inferInstanceAs (Decidable (types.get? name).isSome)

end Mention

mutual
/-- The names in a type, that of a container before those of its components. -/
def mentions : SemType → List Mention
  | .named name => [.scalar name]
  | .container name args => .head name :: allMentions args
  | .fixedArray element _ => .head "Array" :: element.mentions
def allMentions : List SemType → List Mention
  | [] => []
  | type :: rest => type.mentions ++ allMentions rest
end

section Unknown

variable (types : TypeTable) (declared : List String)

/-- The first name of a row that is not known. -/
def firstUnknown? (row : List Mention) : Option Mention := row.find? fun mention => ¬mention.IsKnown types declared

/-- A value if no name is unknown, and the error for the unknown name otherwise. -/
def FailsAt (unknown : Option Mention) (result : Except GenerateError α) : Prop :=
  match unknown with
  | none => ∃ value, result = .ok value
  | some mention => result = .error (.unknownType mention.name)

theorem FailsAt.bind {first next : Option Mention} {result : Except GenerateError α}
    {following : α → Except GenerateError β} (fails : FailsAt first result)
    (continued : ∀ value, FailsAt next (following value)) : FailsAt (first.or next) (result >>= following) := by
  cases first with
  | some mention =>
    rw [FailsAt] at fails
    subst fails
    rfl
  | none =>
    obtain ⟨value, rfl⟩ := fails
    exact continued value

theorem firstUnknown?_of_isKnown (mention : Mention) (known : mention.IsKnown types declared)
    (row : List Mention) : firstUnknown? types declared (mention :: row) = firstUnknown? types declared row := by
  simp [firstUnknown?, known]

theorem firstUnknown?_of_not_isKnown (mention : Mention) (unknown : ¬mention.IsKnown types declared)
    (row : List Mention) : firstUnknown? types declared (mention :: row) = some mention := by
  simp [firstUnknown?, unknown]

theorem FailsAt.map {unknown : Option Mention} {result : Except GenerateError α} (fails : FailsAt unknown result)
    (f : α → β) : FailsAt unknown (result >>= fun value => .ok (f value)) := by
  have succeeds (value : α) : FailsAt none (.ok (f value) : Except GenerateError β) := ⟨f value, rfl⟩
  have both := fails.bind succeeds
  rwa [Option.or_none] at both

/-- What is looked up for the name of a container, before its components are written. -/
theorem failsAt_head (name : String) (row : List Mention) (inner : TypeSyntax → Except GenerateError String)
    (components : ∀ spelling, FailsAt (firstUnknown? types declared row) (inner spelling)) :
    FailsAt (firstUnknown? types declared (.head name :: row))
      (match types.get? name with
        | some spelling => inner spelling
        | none => .error (.unknownType name)) := by
  cases found : types.get? name with
  | some spelling =>
    have known : (Mention.head name).IsKnown types declared := Option.isSome_iff_exists.mpr ⟨spelling, found⟩
    rw [firstUnknown?_of_isKnown types declared _ known]
    exact components spelling
  | none =>
    have unknown : ¬(Mention.head name).IsKnown types declared := by simp [Mention.IsKnown, found]
    rw [firstUnknown?_of_not_isKnown types declared _ unknown]
    rfl

mutual
/-- A type is written unless a name in it is unknown, and fails at the first such name. -/
theorem render_failsAt (type : SemType) :
    FailsAt (firstUnknown? types declared type.mentions) (type.render types declared) := by
  match type with
  | .named name =>
    rw [mentions, render]
    by_cases known : (Mention.scalar name).IsKnown types declared
    · rw [firstUnknown?_of_isKnown types declared _ known]
      cases found : types.get? name with
      | some spelling => exact ⟨_, rfl⟩
      | none =>
        have declares : name ∈ declared := known.resolve_left (by simp [found])
        exact ⟨name, if_pos (List.contains_iff_mem.mpr declares)⟩
    · rw [firstUnknown?_of_not_isKnown types declared _ known]
      rw [Mention.IsKnown, not_or, Option.not_isSome_iff_eq_none] at known
      rw [known.1]
      exact if_neg (mt List.contains_iff_mem.mp known.2)
  | .container name args =>
    rw [mentions, render]
    exact failsAt_head types declared name _ _ fun spelling => (renderAll_failsAt args).map spelling.apply
  | .fixedArray element size =>
    rw [mentions, render]
    exact failsAt_head types declared "Array" _ _ fun spelling =>
      (render_failsAt element).map fun text => spelling.apply [text, toString size]
theorem renderAll_failsAt (args : List SemType) :
    FailsAt (firstUnknown? types declared (allMentions args)) (renderAll types declared args) := by
  match args with
  | [] => exact ⟨[], rfl⟩
  | type :: rest =>
    rw [allMentions, renderAll, firstUnknown?, List.find?_append]
    exact (render_failsAt type).bind fun text => (renderAll_failsAt rest).map (text :: ·)
end

theorem render_isOk_iff (type : SemType) :
    (∃ text, type.render types declared = .ok text) ↔
      ∀ mention ∈ type.mentions, mention.IsKnown types declared := by
  have fails := render_failsAt types declared type
  cases unknown : firstUnknown? types declared type.mentions with
  | none =>
    rw [unknown] at fails
    have known : ∀ mention ∈ type.mentions, mention.IsKnown types declared := by
      simpa [firstUnknown?, List.find?_eq_none] using unknown
    exact iff_of_true fails known
  | some mention =>
    rw [unknown, FailsAt] at fails
    have isUnknown : ¬mention.IsKnown types declared := by simpa using List.find?_some unknown
    rw [fails]
    exact iff_of_false nofun fun known => isUnknown (known mention (List.mem_of_find?_eq_some unknown))

theorem render_eq_error_iff (type : SemType) (cause : GenerateError) :
    type.render types declared = .error cause ↔ ∃ before mention after,
      type.mentions = before ++ mention :: after ∧ (∀ earlier ∈ before, earlier.IsKnown types declared) ∧
        ¬mention.IsKnown types declared ∧ cause = .unknownType mention.name := by
  have fails := render_failsAt types declared type
  constructor
  · intro failed
    cases unknown : firstUnknown? types declared type.mentions with
    | none =>
      rw [unknown, failed] at fails
      obtain ⟨_, impossible⟩ := fails
      cases impossible
    | some mention =>
      rw [unknown, failed] at fails
      obtain ⟨isUnknown, before, after, split, known⟩ := List.find?_eq_some_iff_append.mp unknown
      exact ⟨before, mention, after, split, by simpa using known, by simpa using isUnknown, Except.error.inj fails⟩
  · rintro ⟨before, mention, after, split, known, isUnknown, rfl⟩
    have first : firstUnknown? types declared type.mentions = some mention :=
      List.find?_eq_some_iff_append.mpr ⟨by simpa using isUnknown, before, after, split, by simpa using known⟩
    rw [first] at fails
    exact fails

end Unknown

section Declared

variable (types : TypeTable) {declared others : List String}

mutual
/-- A type that is written is written alike where more names are declared. -/
theorem render_follows (subset : declared ⊆ others) (type : SemType) :
    Follows (fun _ => True) Eq (type.render types declared) (type.render types others) := by
  match type with
  | .named name =>
    rw [render, render]
    split
    · exact .ok rfl
    · split
      · rename_i declares
        rw [if_pos (List.contains_iff_mem.mpr (subset (List.contains_iff_mem.mp declares)))]
        exact .ok rfl
      · exact .cut trivial _
  | .container name args =>
    rw [render, render]
    split
    · exact (renderAll_follows subset args).bind fun _ _ same => .ok (congrArg _ same)
    · exact .error _
  | .fixedArray element size =>
    rw [render, render]
    split
    · exact (render_follows subset element).bind fun _ _ same => .ok (by rw [same])
    · exact .error _
theorem renderAll_follows (subset : declared ⊆ others) (args : List SemType) :
    Follows (fun _ => True) Eq (renderAll types declared args) (renderAll types others args) := by
  match args with
  | [] => exact .ok rfl
  | type :: rest =>
    rw [renderAll, renderAll]
    exact (render_follows subset type).bind fun _ _ first => (renderAll_follows subset rest).bind fun _ _ following =>
      .ok (by rw [first, following])
end

end Declared

end SemType

namespace Profile

/-- The profile has no overrides, or is that of the C# target under some settings. -/
def IsPlainOrCSharp (profile : Profile) : Prop :=
  (∀ name, profile.overrides.get? name = none) ∨ ∃ settings, CSharp.profile settings = .ok profile

/-- Where more names are declared, a node that was rendered is rendered alike. -/
theorem render_of_subset (profile : Profile) (known : profile.IsPlainOrCSharp) {declared others : List String}
    (subset : declared ⊆ others) (node : Node) (depth : Nat) (text : String)
    (rendered : profile.render declared node depth = .ok text) : profile.render others node depth = .ok text := by
  have types : (Likeness.same profile.indent).Types (fun _ => True) declared others :=
    SemType.render_follows profile.types subset
  have run : RunsMatch (.same profile.indent) (fun _ => True) declared others 0 (profile.nesting node.size) := by
    rcases known with plain | ⟨settings, builds⟩
    · refine runsMatch types (.inl rfl) (fun name override found => ?_) _
      rw [plain] at found
      cases found
    · obtain ⟨built, same, basics, _⟩ := CSharp.exists_profile settings
      cases builds.symm.trans same
      exact CSharp.runs_match basics _ _ _ (.inl rfl) types _
  have near : (Likeness.same profile.indent).depths depth depth := rfl
  have follows : Follows (fun _ => True) Eq (profile.render declared node depth) (profile.render others node depth) :=
    run.render near node
  rw [rendered] at follows
  generalize profile.render others node depth = other at follows ⊢
  cases follows with
  | ok same => exact congrArg Except.ok same.symm

/-- A type is written exactly if every name in it is known, and otherwise fails at the first that is not. So what is
rendered for a node without an error is rendered alike wherever more names are declared. -/
theorem types_fail_at_first_unknown_name :
    (∀ (renderer : Renderer) (type : SemType),
      ((∃ text, renderer.renderType type = .ok text) ↔
        ∀ mention ∈ type.mentions, mention.IsKnown renderer.target.types renderer.declared) ∧
      ∀ cause, renderer.renderType type = .error cause ↔ ∃ before mention after,
        type.mentions = before ++ mention :: after ∧
          (∀ earlier ∈ before, earlier.IsKnown renderer.target.types renderer.declared) ∧
          ¬mention.IsKnown renderer.target.types renderer.declared ∧ cause = .unknownType mention.name) ∧
    ∀ profile : Profile, profile.IsPlainOrCSharp → ∀ declared others, declared ⊆ others →
      ∀ (node : Node) depth text, profile.render declared node depth = .ok text →
        profile.render others node depth = .ok text :=
  ⟨fun _ type => ⟨type.render_isOk_iff _ _, type.render_eq_error_iff _ _⟩,
    fun profile known _ _ subset => profile.render_of_subset known subset⟩

/-- A list literal whose elements have a type that the module has to declare. -/
def shapes : Node := ⟨.list [], .list (.named "Shape")⟩

def listTemplates : List Registration :=
  [.types (.ofList [("List", .positional "list of \x7b0\x7d")]), .template .list "%<@pseudo_type>"]

theorem declared_shapes_are_rendered :
    (∃ built, build "lists" "txt" listTemplates = .ok built ∧ built.IsPlainOrCSharp ∧ ["Shape"] ⊆ ["Scene", "Shape"] ∧
      built.render ["Shape"] shapes 0 = .ok "list of Shape" ∧
      built.render ["Scene", "Shape"] shapes 0 = .ok "list of Shape" ∧
      (built.renderer ["Scene"] 1).renderType shapes.type = .error (.unknownType "Shape")) ∧
    ∃ built text, CSharp.profile {} = .ok built ∧ built.IsPlainOrCSharp ∧
      built.render ["Shape"] shapes 0 = .ok text ∧ built.render ["Scene", "Shape"] shapes 0 = .ok text := by
  obtain ⟨fails, keeps⟩ := types_fail_at_first_unknown_name
  have subset : ["Shape"] ⊆ ["Scene", "Shape"] := by decide
  constructor
  · refine ⟨_, rfl, .inl fun _ => rfl, subset, rfl, ?_, ?_⟩
    · exact keeps _ (.inl fun _ => rfl) _ _ subset shapes 0 _ rfl
    · exact ((fails _ _).2 _).mpr ⟨[.head "List"], .scalar "Shape", [], rfl, by decide, by decide, rfl⟩
  · obtain ⟨built, builds, basics, fits⟩ := CSharp.exists_profile {}
    have calls : ∀ inner ∈ shapes.walk, inner.callsKnown built.library = true :=
      List.forall_mem_singleton.mpr rfl
    obtain ⟨text, rendered⟩ := CSharp.exists_render basics fits ["Shape"] shapes rfl (by decide +kernel) calls
      (by decide +kernel) 0
    exact ⟨built, text, builds, .inr ⟨{}, builds⟩, rendered,
      keeps built (.inr ⟨{}, builds⟩) _ _ subset shapes 0 text rendered⟩

end Profile
end Retarget
