import Retarget.Proofs.Fitting

/-! Templates that fit can be written. For a node whose loops have matching parts, a template that fits
fails in no other way than those that are allowed: where a type is unknown, or a library call is. -/
namespace Retarget

section Outcomes

variable (allowed : GenerateError → Prop)

/-- A result that satisfies a condition, or an error that is allowed. -/
def Yields (holds : α → Prop) : Except GenerateError α → Prop
  | .ok value => holds value
  | .error cause => allowed cause

def Safe (result : Except GenerateError α) : Prop := Yields allowed (fun _ => True) result

/-- What has no error to fail with succeeds. -/
theorem exists_of_safe {result : Except GenerateError α} (safe : Safe (fun _ => False) result) :
    ∃ value, result = .ok value := by
  cases result with
  | ok value => exact ⟨value, rfl⟩
  | error cause => exact safe.elim

variable {allowed}

theorem Yields.bind {first : Except GenerateError α} {next : α → Except GenerateError β} {p : α → Prop} {q : β → Prop}
    (yields : Yields allowed p first) (continued : ∀ value, p value → Yields allowed q (next value)) :
    Yields allowed q (first >>= next) := by
  cases first with
  | error cause => exact yields
  | ok value => exact continued value yields

theorem Safe.bind {first : Except GenerateError α} {next : α → Except GenerateError β} (safe : Safe allowed first)
    (continued : ∀ value, Safe allowed (next value)) : Safe allowed (first >>= next) :=
  Yields.bind safe fun value _ => continued value

theorem safe_ok (value : α) : Safe allowed (.ok value) := trivial

theorem safe_pure (value : α) : Safe allowed (pure value) := trivial

theorem safe_ok_bind (value : α) (next : α → Except GenerateError β) (safe : Safe allowed (next value)) :
    Safe allowed (.ok value >>= next) := safe

theorem safe_mapM (f : α → Except GenerateError β) (xs : List α) (safe : ∀ x ∈ xs, Safe allowed (f x)) :
    Safe allowed (xs.mapM f) := by
  induction xs with
  | nil => exact safe_pure []
  | cons x xs ih =>
    rw [List.forall_mem_cons] at safe
    rw [List.mapM_cons]
    exact safe.1.bind fun y => (ih safe.2).bind fun ys => safe_pure (y :: ys)

end Outcomes

/-- Tags of what a loop goes over. -/
def Tag.isDescriptor (tag : Tag) : Bool := tag == .forIterator || tag == .forSequence || tag.isPart

namespace Node

/-- Iterators and sequences of the same shape; in lock step, as many of each and at least one. -/
def Together (iterators sequences : Node) : Prop :=
  (iterators.tag, sequences.tag) ∈ loopParts ∧
    (iterators.tag = .forIteratorZip →
      iterators.children.length = sequences.children.length ∧ 0 < iterators.children.length)

theorem Together.lookup_tag {iterators sequences : Node} (together : Together iterators sequences) :
    loopParts.lookup iterators.tag = some sequences.tag := by
  have all : ∀ parts ∈ loopParts, loopParts.lookup parts.1 = some parts.2 := by decide
  exact all _ together.1

/-- Descriptors stand only where a loop has them, and there they go together. -/
def PartsMatch (node : Node) : Prop :=
  match node.tag, node.children with
  | .forStatement, iterators :: sequences :: body =>
    Together iterators sequences ∧ ∀ inner ∈ body, inner.tag.isDescriptor = false
  | _, children => ∀ child ∈ children, child.tag.isDescriptor = false

instance (iterators sequences : Node) : Decidable (Together iterators sequences) :=
  inferInstanceAs (Decidable (_ ∧ (_ → _ ∧ _)))

instance (node : Node) : Decidable node.PartsMatch := by
  unfold PartsMatch
  split <;> infer_instance

theorem partsMatch_of_ne_forStatement (node : Node) (other : node.tag ≠ .forStatement) :
    node.PartsMatch ↔ ∀ child ∈ node.children, child.tag.isDescriptor = false := by
  rw [PartsMatch]
  split
  · exact absurd ‹_› other
  · rfl

theorem partsMatch_forStatement (iterators sequences : Node) (body : List Node) (type : SemType) :
    (mk (.forStatement iterators sequences body) type).PartsMatch ↔
      Together iterators sequences ∧ ∀ inner ∈ body, inner.tag.isDescriptor = false := Iff.rfl

/-- A node of which all that can go wrong is allowed. -/
structure Writable (allowed : GenerateError → Prop) (target : Target) (declared : List String) (node : Node) :
    Prop where
  parts : node.PartsMatch
  types : ∀ type ∈ node.types, Safe allowed (type.render target.types declared)
  calls : [Tag.standardCall, .standardMethodCall].contains node.tag = true →
    Imports.operation? target.library node = none → ∀ name, allowed (.unsupportedStandardCall name)

def AllWritable (allowed : GenerateError → Prop) (target : Target) (declared : List String) (node : Node) : Prop :=
  ∀ inner ∈ node.walk, inner.Writable allowed target declared

section AllWritable

variable {allowed : GenerateError → Prop} {target : Target} {declared : List String} {node : Node}

theorem AllWritable.self (all : node.AllWritable allowed target declared) : node.Writable allowed target declared :=
  (node.forall_mem_walk.mp all).1

theorem AllWritable.child (all : node.AllWritable allowed target declared) (child : Node)
    (member : child ∈ node.children) : child.AllWritable allowed target declared :=
  (node.forall_mem_walk.mp all).2 child member

end AllWritable

theorem isPart_of_isDescriptor_eq_false (tag : Tag) (plain : tag.isDescriptor = false) : tag.isPart = false := by
  simp_all [Tag.isDescriptor]

theorem PartsMatch.plainChild {node : Node} (parts : node.PartsMatch) (other : node.tag ≠ .forStatement)
    (child : Node) (member : child ∈ node.children) : child.tag.isDescriptor = false :=
  (node.partsMatch_of_ne_forStatement other).mp parts child member

theorem PartsMatch.child {node : Node} (parts : node.PartsMatch) (other : node.tag ≠ .forStatement) (child : Node)
    (member : child ∈ node.children) : child.tag.isPart = false :=
  isPart_of_isDescriptor_eq_false _ (parts.plainChild other child member)

theorem PartsMatch.member {node : Node} (parts : node.PartsMatch) (name : String) (nodes : List Node)
    (found : node.attr? name = some (.nodes nodes)) (child : Node) (member : child ∈ nodes) :
    child.tag.isPart = false := by
  by_cases loop : node.tag = .forStatement
  · obtain ⟨kind, type⟩ := node
    cases kind with
    | forStatement iterators sequences body =>
      rcases mem_values_of_attr? _ name _ found with same | stored
      · cases same
      · simp only [Kind.values, List.mem_cons, reduceCtorEq, Field.nodes.injEq, List.not_mem_nil, or_false,
          false_or] at stored
        exact isPart_of_isDescriptor_eq_false _ (parts.2 child (stored ▸ member))
    | _ => cases loop
  · exact parts.child loop child (mem_children_of_attr? node name _ found child member)

end Node

namespace Situation

theorem holds_ofTag (node : Node) (tag : Tag) (same : node.tag = tag) : (ofTag tag).Holds node :=
  ⟨same, fun _ member => absurd member List.not_mem_nil, fun _ same => by cases same⟩

/-- A child that is found in its place has a template. -/
theorem isPart_of_writesChild {situation : Situation} {node : Node} (holds : situation.Holds node)
    (parts : node.PartsMatch) (name : String) (child : Node) (found : node.attr? name = some (.node child))
    (writes : situation.writesChild name = true) : child.tag.isPart = false := by
  obtain ⟨tag, _, loop⟩ := holds
  rw [writesChild, Bool.or_eq_true, bne_iff_ne] at writes
  rcases writes with other | known
  · exact parts.child (by rwa [tag]) child (node.mem_children_of_attr? name _ found child (by simp [Field.members]))
  · cases shape : situation.loop with
    | none => simp [childTag?, shape] at known
    | some pair =>
      obtain ⟨iterators, sequences, body, kind, ofIterators, ofSequences⟩ := loop pair shape
      obtain ⟨iteratorsTag, sequencesTag⟩ := pair
      simp only [childTag?, shape] at known
      have fields (name : String) (other : name ≠ "pseudo_type") :
          node.attr? name = [("iterators", Field.node iterators), ("sequences", .node sequences),
            ("block", .nodes body)].lookup name := by
        rw [Node.attr?_eq, if_neg other, kind]
        rfl
      split at known
      · rename_i same
        rw [same, fields _ (by decide)] at found
        cases found
        simpa [ofIterators] using known
      · split at known
        · rename_i same
          rw [same, fields _ (by decide)] at found
          cases found
          simpa [ofSequences] using known
        · cases known

/-- A path leads to the attribute that its situation says. -/
theorem resolve_of_owner? {situation owner : Situation} {node : Node} (holds : situation.Holds node) (path : Path)
    (name : String) (found : situation.owner? path = some (owner, name)) :
    ∃ inner : Node, owner.Holds inner ∧ (inner = node ∨ inner ∈ node.children) ∧
      ∀ field, inner.attr? name = some field → node.resolve path = .ok ⟨inner.tag, name, field⟩ := by
  obtain ⟨first, rest⟩ := path
  match rest, found with
  | [], found =>
    cases found
    refine ⟨node, holds, .inl rfl, fun field stored => ?_⟩
    simp only [Node.resolve, Node.resolveFrom, stored]
  | [next], found =>
    simp only [owner?, Option.map_eq_some_iff] at found
    obtain ⟨tag, known, same⟩ := found
    cases same
    cases shape : situation.loop with
    | none => simp [childTag?, shape] at known
    | some pair =>
      obtain ⟨iterators, sequences, body, kind, ofIterators, ofSequences⟩ := holds.2.2 pair shape
      obtain ⟨iteratorsTag, sequencesTag⟩ := pair
      simp only [childTag?, shape] at known
      have reached (child : Node) (stored : node.attr? first = some (.node child)) (field : Field Node)
          (inChild : child.attr? name = some field) : node.resolve ⟨first, [name]⟩ = .ok ⟨child.tag, name, field⟩ := by
        simp only [Node.resolve, Node.resolveFrom, stored, inChild]
      split at known
      · rename_i same
        cases known
        have stored : node.attr? first = some (.node iterators) := by
          rw [same, Node.attr?, if_neg (by decide), kind]
          rfl
        exact ⟨iterators, holds_ofTag iterators _ ofIterators, .inr (by simp [Node.children, kind, Kind.children]),
          reached iterators stored⟩
      · split at known
        · rename_i same
          cases known
          have stored : node.attr? first = some (.node sequences) := by
            rw [same, Node.attr?, if_neg (by decide), kind]
            rfl
          exact ⟨sequences, holds_ofTag sequences _ ofSequences, .inr (by simp [Node.children, kind, Kind.children]),
            reached sequences stored⟩
        · cases known

end Situation

namespace Renderer

variable {allowed : GenerateError → Prop} {renderer : Renderer} {node : Node} {nested : Bool}

/-- Smaller trees can be written. -/
def WritesBelow (allowed : GenerateError → Prop) (renderer : Renderer) (bound : Nat) : Prop :=
  ∀ inner : Node, inner.size < bound → inner.AllWritable allowed renderer.target renderer.declared →
    inner.tag.isPart = false → ∀ depth, Safe allowed (renderer.render inner depth)

/-- All that a template for a node may ask for can be written. -/
structure Ready (allowed : GenerateError → Prop) (renderer : Renderer) (node : Node) (nested : Bool) : Prop where
  writable : node.AllWritable allowed renderer.target renderer.declared
  below : renderer.WritesBelow allowed node.size
  calls : nested = false → ∀ entry, Imports.operation? renderer.target.library node = some entry →
    ∀ depth, Safe allowed (renderer.expand entry.template node depth)

theorem Ready.child (ready : renderer.Ready allowed node nested) (child : Node) (member : child ∈ node.children)
    (plain : child.tag.isPart = false) (depth : Nat) : Safe allowed (renderer.render child depth) :=
  ready.below child (node.size_lt_of_mem_children child member) (ready.writable.child child member) plain depth

theorem Ready.inner (ready : renderer.Ready allowed node nested) (inner : Node)
    (near : inner = node ∨ inner ∈ node.children) : renderer.Ready allowed inner true := by
  rcases near with rfl | member
  · exact ⟨ready.writable, ready.below, nofun⟩
  · refine ⟨ready.writable.child inner member, ?_, nofun⟩
    intro other smaller
    exact ready.below other (Nat.lt_trans smaller (node.size_lt_of_mem_children inner member))

theorem Ready.type (ready : renderer.Ready allowed node nested) (type : SemType) (member : type ∈ node.types) :
    Safe allowed (renderer.renderType type) :=
  ready.writable.self.types type member

theorem Ready.childType (ready : renderer.Ready allowed node nested) (child : Node) (member : child ∈ node.children) :
    Safe allowed (renderer.renderType child.type) :=
  (ready.writable.child child member).self.types child.type List.mem_cons_self

section Attributes

variable {situation : Situation} (ready : renderer.Ready allowed node nested) (holds : situation.Holds node)
include ready holds

theorem Ready.place (name : String) (places : situation.places name = true) (depth : Nat) :
    ∃ field, node.attr? name = some field ∧ Safe allowed (renderer.place ⟨node.tag, name, field⟩ depth) := by
  have child (inner : Node) (found : node.attr? name = some (.node inner))
      (writes : situation.writesChild name = true) :
      Safe allowed (renderer.render inner depth) :=
    ready.child inner (node.mem_children_of_attr? name _ found inner (by simp [Field.members]))
      (Situation.isPart_of_writesChild holds ready.writable.self.parts name inner found writes) depth
  rw [Situation.places] at places
  cases known : situation.tag.shapeOf? name with
  | none => simp [known] at places
  | some shape =>
    rw [known] at places
    obtain ⟨field, found, fits⟩ := node.attr?_of_shapeOf? name shape (by rw [holds.1, known])
    refine ⟨field, found, ?_⟩
    have isSet (given : situation.given.contains name = true) : field ≠ .absent := by
      rintro rfl
      have filled := holds.2.1 name (by simpa using given) _ found
      cases filled
    cases shape with
    | node => cases field <;> first | exact child _ found places | cases fits
    | optionalNode =>
      simp only [Bool.and_eq_true] at places
      cases field <;> first | exact child _ found places.2 | exact absurd rfl (isSet places.1) | cases fits
    | optionalText => cases field <;> first | exact safe_ok _ | exact absurd rfl (isSet places) | cases fits
    | nodes => cases places
    | defaultedNodes => cases places
    | type =>
      cases field <;> first | exact ready.type _ (node.mem_types_of_attr? name _ found) | cases fits
    | _ => cases field <;> first | exact safe_ok _ | cases fits

theorem Ready.nodes (name : String) (holdsNodes : situation.holdsNodes name = true) :
    ∃ nodes, node.attr? name = some (.nodes nodes) ∧
      ∀ inner ∈ nodes, inner ∈ node.children ∧ ∀ depth, Safe allowed (renderer.render inner depth) := by
  have found : ∃ nodes, node.attr? name = some (.nodes nodes) := by
    simp only [Situation.holdsNodes, List.contains_iff_mem, List.mem_cons, List.not_mem_nil, or_false] at holdsNodes
    rcases holdsNodes with known | known
    all_goals
      obtain ⟨field, found, fits⟩ := node.attr?_of_shapeOf? name _ (by rw [holds.1, known])
      cases field <;> first | exact ⟨_, found⟩ | cases fits
  obtain ⟨nodes, found⟩ := found
  refine ⟨nodes, found, fun inner member => ?_⟩
  have child := node.mem_children_of_attr? name _ found inner member
  exact ⟨child, ready.child inner child (ready.writable.self.parts.member name nodes found inner member)⟩

theorem Ready.typed (name : String) (holdsType : situation.holdsType name = true) :
    ∃ field, node.attr? name = some field ∧ Safe allowed (renderer.typeOf ⟨node.tag, name, field⟩) := by
  simp only [Situation.holdsType, List.contains_iff_mem, List.mem_cons, List.not_mem_nil, or_false] at holdsType
  rcases holdsType with known | known
  all_goals obtain ⟨field, found, fits⟩ := node.attr?_of_shapeOf? name _ (by rw [holds.1, known])
  · refine ⟨field, found, ?_⟩
    cases field <;> first | exact ready.type _ (node.mem_types_of_attr? name _ found) | cases fits
  · refine ⟨field, found, ?_⟩
    cases field <;> first
      | exact ready.childType _ (node.mem_children_of_attr? name _ found _ (by simp [Field.members]))
      | cases fits

theorem Ready.childAt (name : String) (holdsChild : situation.holdsChild name = true) :
    ∃ child, node.childAt name = .ok child ∧ child ∈ node.children ∧
      ∀ depth, Safe allowed (renderer.render child depth) := by
  simp only [Situation.holdsChild, Bool.and_eq_true, beq_iff_eq] at holdsChild
  obtain ⟨field, found, fits⟩ := node.attr?_of_shapeOf? name _ (by rw [holds.1, holdsChild.1])
  cases field with
  | node child =>
    have member := node.mem_children_of_attr? name _ found child (by simp [Field.members])
    have plain := Situation.isPart_of_writesChild holds ready.writable.self.parts name child found holdsChild.2
    exact ⟨child, by rw [Node.childAt, found], member, ready.child child member plain⟩
  | _ => cases fits

theorem Ready.sequenceAt (name : String) (holdsNodes : situation.holdsNodes name = true) :
    ∃ nodes, node.sequenceAt name = .ok nodes ∧
      ∀ inner ∈ nodes, inner ∈ node.children ∧ ∀ depth, Safe allowed (renderer.render inner depth) := by
  obtain ⟨nodes, found, safe⟩ := ready.nodes holds name holdsNodes
  exact ⟨nodes, by rw [Node.sequenceAt, found], safe⟩

end Attributes

theorem renderBlock_safe (nodes : List Node) (depth : Nat) (mode : JoinMode)
    (safe : ∀ inner ∈ nodes, Safe allowed (renderer.render inner depth)) :
    Safe allowed (renderer.renderBlock nodes depth mode) := by
  refine Safe.bind (safe_mapM _ nodes fun inner member => ?_) fun members => safe_pure _
  exact (safe inner member).bind fun text => safe_pure _

end Renderer

/-- For a target, an override writes every node that its rule lets it be called for. -/
def OverrideRule.Sound (target : Target) (rule : OverrideRule) : Prop :=
  ∀ allowed renderer node situation nested depth, renderer.target = target →
    Renderer.Ready allowed renderer node nested → situation.Holds node → rule.fits situation nested = true →
    Safe allowed (rule.function renderer node depth)

namespace Rules

variable {allowed : GenerateError → Prop} {rules : Rules} {profile : Profile} {renderer : Renderer} {node : Node}
  {nested : Bool} {situation : Situation}

section Templates

variable (fits : rules.FitsProfile profile) (sound : ∀ rule ∈ rules.overrides, rule.Sound profile.toTarget)
  (target : renderer.target = profile.toTarget) (ready : renderer.Ready allowed node nested)
  (holds : situation.Holds node)
  (expands : nested = false → ∀ situation template depth, situation.Holds node →
    rules.templateFits situation true template = true → Safe allowed (renderer.expand template node depth))
include fits sound target ready holds expands

theorem directive_safe (directive : Directive) (checked : rules.directiveFits situation nested directive = true)
    (depth : Nat) : Safe allowed (renderer.directive profile.overrides node depth directive) := by
  cases directive with
  | placeholder path =>
    simp only [directiveFits, Option.any_eq_true] at checked
    obtain ⟨⟨owner, name⟩, found, places⟩ := checked
    obtain ⟨inner, innerHolds, near, resolved⟩ := Situation.resolve_of_owner? holds path name found
    obtain ⟨field, stored, safe⟩ := (ready.inner inner near).place innerHolds name places depth
    rw [Renderer.directive, resolved field stored]
    exact safe
  | join path mode =>
    simp only [directiveFits, Option.any_eq_true] at checked
    obtain ⟨⟨owner, name⟩, found, holdsNodes⟩ := checked
    obtain ⟨inner, innerHolds, near, resolved⟩ := Situation.resolve_of_owner? holds path name found
    obtain ⟨nodes, stored, safe⟩ := (ready.inner inner near).nodes innerHolds name holdsNodes
    rw [Renderer.directive, resolved _ stored]
    exact Renderer.renderBlock_safe nodes depth mode fun member among => (safe member among).2 depth
  | type path =>
    simp only [directiveFits, Option.any_eq_true] at checked
    obtain ⟨⟨owner, name⟩, found, holdsType⟩ := checked
    obtain ⟨inner, innerHolds, near, resolved⟩ := Situation.resolve_of_owner? holds path name found
    obtain ⟨field, stored, safe⟩ := (ready.inner inner near).typed innerHolds name holdsType
    rw [Renderer.directive, resolved field stored]
    exact safe
  | optional name =>
    simp only [directiveFits, Bool.and_eq_true, Bool.not_eq_true', List.contains_iff_mem,
      Option.isSome_iff_exists] at checked
    obtain ⟨⟨outer, shape, declared⟩, listed⟩ := checked
    rw [← holds.1] at declared listed
    obtain ⟨field, stored, _⟩ := node.attr?_of_shapeOf? name shape declared
    obtain ⟨pair, registered, pairFits⟩ := fits.optionals node.tag name listed
    simp only [Rules.pairFits, Bool.and_eq_true] at pairFits
    rw [Renderer.directive, stored, target, registered]
    dsimp only
    cases empty : field.isEmpty with
    | true => exact expands outer _ _ depth (Situation.holds_ofTag node _ rfl) pairFits.2
    | false =>
      refine expands outer ⟨node.tag, [name], none⟩ _ depth ⟨rfl, ?_, fun _ same => by cases same⟩ pairFits.1
      intro other isName otherField otherStored
      cases List.mem_singleton.mp isName
      cases stored.symm.trans otherStored
      exact empty
  | override name =>
    simp only [directiveFits, Option.any_eq_true] at checked
    obtain ⟨rule, found, ruleFits⟩ := checked
    have listed := List.mem_of_find?_eq_some found
    have named : rule.name = name := by simpa using List.find?_some found
    rw [Renderer.directive, ← named, fits.overrides rule listed]
    exact sound rule listed allowed renderer node situation nested depth target ready holds ruleFits

theorem step_safe (template : Template) (checked : rules.templateFits situation nested template = true) (depth : Nat) :
    Safe allowed (renderer.step profile.overrides template node depth) := by
  simp only [templateFits, List.all_eq_true] at checked
  refine Safe.bind (safe_mapM _ _ fun line listed => ?_) fun lines => safe_pure _
  rw [Renderer.line]
  split
  · exact safe_ok _
  · refine Safe.bind (safe_mapM _ _ fun segment member => ?_) fun parts => safe_pure _
    have segmentFits := checked line listed segment member
    cases segment with
    | text value => exact safe_ok value
    | directive directive =>
      exact directive_safe fits sound target ready holds expands directive segmentFits _

end Templates
end Rules
end Retarget
