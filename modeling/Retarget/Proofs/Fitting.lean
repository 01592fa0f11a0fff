import Retarget.Profile
import Retarget.Proofs.Attributes

/-! Templates that fit. Whether the directives of a template can be followed is decided from what is
known of a node when it gets there: its tag, the optional attributes that are set, and, for a loop, the
tags of its iterators and sequences. A template that is expanded by another for the same node is nested
in it, and may not lead to a third one. -/
namespace Retarget

/-- Tags that stand in a loop for its template to take apart, and have no template of their own. -/
def Tag.isPart (tag : Tag) : Bool :=
  [Tag.forIteratorWithIndex, .forIteratorWithItems, .forIteratorZip, .forSequenceWithIndex, .forSequenceWithItems,
    .forSequenceZip].contains tag

/-- The tags of the iterators and sequences that go together. -/
def loopParts : List (Tag × Tag) :=
  [(.forIterator, .forSequence), (.forIteratorWithIndex, .forSequenceWithIndex),
    (.forIteratorWithItems, .forSequenceWithItems), (.forIteratorZip, .forSequenceZip)]

/-- What is known of a node that a template is expanded for. -/
structure Situation where
  tag : Tag
  /-- Optional attributes that are set. -/
  given : List String
  /-- The tags of the iterators and sequences of a loop. -/
  loop : Option (Tag × Tag)

namespace Situation

def ofTag (tag : Tag) : Situation := ⟨tag, [], none⟩

def Holds (situation : Situation) (node : Node) : Prop :=
  node.tag = situation.tag ∧
    (∀ name ∈ situation.given, ∀ field, node.attr? name = some field → field.isEmpty = false) ∧
    ∀ parts, situation.loop = some parts →
      ∃ iterators sequences body, node.kind = .forStatement iterators sequences body ∧
        iterators.tag = parts.1 ∧ sequences.tag = parts.2

/-- The tag of a child, where it is known. -/
def childTag? (situation : Situation) (name : String) : Option Tag :=
  match situation.loop with
  | some (iterators, sequences) =>
    if name = "iterators" then some iterators else if name = "sequences" then some sequences else none
  | none => none

/-- The owner of the attribute that a path leads to, and the name it has there. -/
def owner? (situation : Situation) (path : Path) : Option (Situation × String) :=
  match path.rest with
  | [] => some (situation, path.first)
  | [name] => (situation.childTag? path.first).map fun tag => (ofTag tag, name)
  | _ => none

/-- Whether the child of a name has a template. Only loops have children that may have none. -/
def writesChild (situation : Situation) (name : String) : Bool :=
  situation.tag != .forStatement || (situation.childTag? name).any (!·.isPart)

/-- Whether the attribute of a name can be written on its own. -/
def places (situation : Situation) (name : String) : Bool :=
  match situation.tag.shapeOf? name with
  | some .node => situation.writesChild name
  | some .optionalNode => situation.given.contains name && situation.writesChild name
  | some .optionalText => situation.given.contains name
  | some .text | some .int | some .float | some .flag | some .defaultedFlag | some .type => true
  | some .nodes | some .defaultedNodes | none => false

def holdsNodes (situation : Situation) (name : String) : Bool :=
  [some Shape.nodes, some .defaultedNodes].contains (situation.tag.shapeOf? name)

def holdsType (situation : Situation) (name : String) : Bool :=
  [some Shape.type, some .node].contains (situation.tag.shapeOf? name)

/-- Whether the attribute of a name is a text. -/
def holdsText (situation : Situation) (name : String) : Bool :=
  situation.tag.shapeOf? name == some .text ||
    situation.tag.shapeOf? name == some .optionalText && situation.given.contains name

/-- Whether the attribute of a name is a child that can be written. -/
def holdsChild (situation : Situation) (name : String) : Bool :=
  situation.tag.shapeOf? name == some .node && situation.writesChild name

end Situation

/-- An override, and when a template may call it; the second condition is whether it is nested. -/
structure OverrideRule where
  name : String
  function : Override
  fits : Situation → Bool → Bool

/-- What the templates of a profile may use. -/
structure Rules where
  optionals : List (Tag × String)
  overrides : List OverrideRule

namespace Rules

def directiveFits (rules : Rules) (situation : Situation) (nested : Bool) : Directive → Bool
  | .placeholder path => (situation.owner? path).any fun (owner, name) => owner.places name
  | .join path _ => (situation.owner? path).any fun (owner, name) => owner.holdsNodes name
  | .type path => (situation.owner? path).any fun (owner, name) => owner.holdsType name
  | .optional name =>
    !nested && (situation.tag.shapeOf? name).isSome && rules.optionals.contains (situation.tag, name)
  | .override name =>
    (rules.overrides.find? (·.name == name)).any fun rule => rule.fits situation nested

def segmentFits (rules : Rules) (situation : Situation) (nested : Bool) : Segment → Bool
  | .text _ => true
  | .directive directive => rules.directiveFits situation nested directive

def templateFits (rules : Rules) (situation : Situation) (nested : Bool) (template : Template) : Bool :=
  template.lines.all fun line => line.segments.all (rules.segmentFits situation nested)

/-- The cases of a switch on a truth value, or on the iterators of a loop. -/
def switchFits (rules : Rules) (tag : Tag) (switch : Switch) : Bool :=
  switch.on.rest.isEmpty &&
    match tag.shapeOf? switch.on.first with
    | some .defaultedFlag =>
      ["true", "false"].all fun key => (switch.select? key).any (rules.templateFits (.ofTag tag) false)
    | some .node =>
      tag == .forStatement && switch.on.first == "iterators" &&
        loopParts.all fun parts =>
          (switch.select? parts.1.name).any (rules.templateFits ⟨tag, [], some parts⟩ false)
    | _ => false

def entryFits (rules : Rules) (tag : Tag) : Entry → Bool
  | .template template => rules.templateFits (.ofTag tag) false template
  | .switch switch => rules.switchFits tag switch

def pairFits (rules : Rules) (tag : Tag) (name : String) (pair : OptionalPair) : Bool :=
  rules.templateFits ⟨tag, [name], none⟩ true pair.present &&
    rules.templateFits (.ofTag tag) true pair.fallback

end Rules

/-- A profile whose tables hold templates that fit, one for every tag that is not part of a loop. -/
structure Rules.FitsProfile (rules : Rules) (profile : Profile) : Prop where
  entries : ∀ tag : Tag, tag.isPart = false →
    ∃ entry, profile.entry? tag = some entry ∧ rules.entryFits tag entry = true
  optionals : ∀ tag name, (tag, name) ∈ rules.optionals →
    ∃ pair, profile.optional? tag name = some pair ∧ rules.pairFits tag name pair = true
  overrides : ∀ rule ∈ rules.overrides, profile.overrides.get? rule.name = some rule.function
  functions : ∀ space name entry, profile.library.function? space name = some entry →
    rules.templateFits (.ofTag .standardCall) true entry.template = true
  methods : ∀ receiver name entry, profile.library.method? receiver name = some entry →
    rules.templateFits (.ofTag .standardMethodCall) true entry.template = true

end Retarget
