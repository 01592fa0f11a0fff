import Retarget.Proofs.Occurrences
import Retarget.Proofs.TemplateTable

/-! What the templates of the C# target insert. A template inserts attributes, and overrides insert some more; each
of them counts the children in it. That the template of a node inserts its children as often as their weights say is
checked for the templates as they are registered. -/
namespace Retarget

def Shape.holdsNodes : Shape → Bool
  | .node | .optionalNode | .nodes | .defaultedNodes => true
  | _ => false

namespace Node

/-- The children that a path leads to. -/
def membersAt (node : Node) (path : Path) : List Node :=
  match node.resolve path with
  | .ok resolved => resolved.field.members
  | .error _ => []

theorem membersAt_single (node : Node) (name : String) :
    node.membersAt ⟨name, []⟩ = ((node.attr? name).map Field.members).getD [] := by
  simp only [membersAt, resolve, resolveFrom]
  cases node.attr? name <;> rfl

theorem attr?_eq_none_of_shapeOf? (node : Node) (name : String) (unknown : node.tag.shapeOf? name = none) :
    node.attr? name = none := by
  rw [Tag.shapeOf?] at unknown
  rw [attr?_eq]
  split at unknown
  · cases unknown
  · rename_i other
    rw [if_neg other, List.lookup_eq_none_iff]
    rw [List.lookup_eq_none_iff] at unknown
    intro field member
    obtain ⟨slot, listed, same⟩ := List.mem_map.mp (List.of_mem_zip member).1
    rw [← same]
    exact unknown _ (List.mem_map_of_mem listed)

/-- Only attributes of some shapes have children in them. -/
theorem membersAt_eq_nil (node : Node) (name : String)
    (plain : (node.tag.shapeOf? name).all (!·.holdsNodes) = true) : node.membersAt ⟨name, []⟩ = [] := by
  rw [membersAt_single]
  cases known : node.tag.shapeOf? name with
  | none => rw [attr?_eq_none_of_shapeOf? node name known]; rfl
  | some shape =>
    obtain ⟨field, stored, fits⟩ := node.attr?_of_shapeOf? name shape known
    rw [known, Option.all_some] at plain
    rw [stored]
    cases shape <;> cases field <;> first | rfl | exact absurd plain (by decide) | cases fits

end Node

namespace CSharp

/-- What a directive puts into a text. -/
inductive Insertion where
  | attribute (path : Path)
  /-- The definitions of a tag. -/
  | definitions (tag : Tag)
  /-- The first iterator and the first sequence of a lock-step loop. -/
  | firstIterator
  | firstSequence
  /-- The declarations of the iterators of a lock-step loop, each with the counter in it. -/
  | declarations
  /-- A library call. -/
  | operation
  deriving DecidableEq

/-- What the overrides insert; those that are missing here insert no children. -/
def overrideInsertions : List (String × Insertion) :=
  [("params", .attribute ⟨"params", []⟩), ("anon_block", .attribute ⟨"block", []⟩),
    ("class_definitions", .definitions .classDefinition), ("function_definitions", .definitions .functionDefinition),
    ("item_variable", .attribute ⟨"iterators", ["key"]⟩), ("zip_index", .firstIterator),
    ("first_sequence", .firstSequence), ("zip_iterators", .declarations), ("standard_call", .operation),
    ("standard_method_call", .operation), ("left_operand", .attribute ⟨"left", []⟩),
    ("right_operand", .attribute ⟨"right", []⟩), ("unary_operand", .attribute ⟨"value", []⟩)]

def insertion? : Segment → Option Insertion
  | .directive (.placeholder path) => some (.attribute path)
  | .directive (.join path _) => some (.attribute path)
  | .directive (.optional name) => some (.attribute ⟨name, []⟩)
  | .directive (.override name) => overrideInsertions.lookup name
  | .text _ | .directive (.type _) => none

def insertions (template : Template) : List Insertion :=
  (template.lines.flatMap Line.segments).filterMap insertion?

section Counts

variable (library : Library) (f : Node → Nat) (node : Node)

/-- What an attribute counts. -/
def countAt (path : Path) : Nat := ((node.membersAt path).map f).sum

/-- What an insertion counts. -/
def Insertion.count : Insertion → Nat
  | .attribute path => countAt f node path
  | .definitions tag => (((node.membersAt ⟨"definitions", []⟩).filter (·.tag == tag)).map f).sum
  | .firstIterator =>
    match zipParts node with
    | .ok parts => f parts.iterator
    | .error _ => 0
  | .firstSequence =>
    match zipParts node with
    | .ok parts => f parts.sequence
    | .error _ => 0
  | .declarations =>
    match zipParts node with
    | .ok parts =>
      (parts.iterators.length + 1) * f parts.iterator + ((parts.iterator :: parts.iterators).map f).sum +
        ((parts.sequence :: parts.sequences).map f).sum
    | .error _ => 0
  | .operation =>
    callWrites library node "receiver" * countAt f node ⟨"receiver", []⟩ +
      callWrites library node "args" * countAt f node ⟨"args", []⟩

/-- What a template counts. -/
def countIn (template : Template) : Nat := ((insertions template).map (Insertion.count library f node)).sum

end Counts

section Checks

/-- Whether the nodes on a path before the last are the iterators or the sequences of a loop, if there are any. -/
def isReadable (tag : Tag) (path : Path) : Bool :=
  path.rest.isEmpty || tag == .forStatement && path.rest.length == 1 && ["iterators", "sequences"].contains path.first

/-- Whether paths are such, and library calls are written for calls only. -/
def readsSegment (tag : Tag) : Segment → Bool
  | .directive (.placeholder path) => isReadable tag path
  | .directive (.join path _) => isReadable tag path
  | .directive (.type path) => isReadable tag path
  | .directive (.override name) =>
    (name != "standard_call" || tag == .standardCall) && (name != "standard_method_call" || tag == .standardMethodCall)
  | _ => true

def readsOnly (tag : Tag) (template : Template) : Bool :=
  (template.lines.flatMap Line.segments).all (readsSegment tag)

/-- How often the template of a tag inserts an attribute. -/
def repeats : Tag → String → Nat
  | .methodDefinition, "this" => 0
  | .constructor, "this" => 0
  | .forRangeStatement, "index" => 3
  | _, _ => 1

/-- The attributes of a tag that have children in them. -/
def childNames (tag : Tag) : List String := (tag.layout.filter (·.shape.holdsNodes)).map (·.name)

def isAttribute : Insertion → Bool
  | .attribute path => path.rest.isEmpty
  | _ => false

/-- Tags whose templates insert all children attribute by attribute. Loops are written by several templates, and their
parts by none of their own. -/
def insertsAttributes (tag : Tag) : Bool :=
  !tag.isPart && !([Tag.module, .forStatement, .standardCall, .standardMethodCall].contains tag)

/-- Whether what is inserted counts the children of a node of a tag by their weights. -/
def insertsChildren (tag : Tag) (inserted : List Insertion) : Bool :=
  match tag with
  | .module =>
    inserted == [.attribute ⟨"dependencies", []⟩, .attribute ⟨"custom_exceptions", []⟩,
      .definitions .classDefinition, .attribute ⟨"constants", []⟩, .definitions .functionDefinition,
      .attribute ⟨"main", []⟩]
  | .standardCall | .standardMethodCall => inserted == [.operation]
  | _ =>
    insertsAttributes tag && inserted.all isAttribute &&
      (childNames tag).all fun name => inserted.count (.attribute ⟨name, []⟩) == repeats tag name

/-- What a loop inserts, by the tag of its iterators. -/
def loopInsertions : Tag → List Insertion
  | .forIteratorWithIndex =>
    [.attribute ⟨"iterators", ["index"]⟩, .attribute ⟨"iterators", ["index"]⟩, .attribute ⟨"sequences", ["sequence"]⟩,
      .attribute ⟨"iterators", ["index"]⟩, .attribute ⟨"iterators", ["iterator"]⟩,
      .attribute ⟨"sequences", ["sequence"]⟩, .attribute ⟨"iterators", ["index"]⟩, .attribute ⟨"block", []⟩]
  | .forIteratorWithItems =>
    [.attribute ⟨"iterators", ["key"]⟩, .attribute ⟨"sequences", ["sequence"]⟩, .attribute ⟨"iterators", ["key"]⟩,
      .attribute ⟨"iterators", ["key"]⟩, .attribute ⟨"iterators", ["value"]⟩, .attribute ⟨"iterators", ["key"]⟩,
      .attribute ⟨"block", []⟩]
  | .forIteratorZip =>
    [.firstIterator, .firstIterator, .firstSequence, .firstIterator, .declarations, .attribute ⟨"block", []⟩]
  | _ => [.attribute ⟨"iterators", []⟩, .attribute ⟨"sequences", []⟩, .attribute ⟨"block", []⟩]

/-- Whether a template of a library call inserts its arguments and its receiver only. -/
def insertsOperands (template : Template) : Bool :=
  (template.lines.flatMap Line.segments).all fun segment =>
    segment.writes "receiver" || segment.writes "args" || !segment.isDirective

/-- Whether the templates of an optional attribute insert the children in it. -/
def pairInserts (tag : Tag) (name : String) (pair : OptionalPair) : Bool :=
  readsOnly tag pair.present && readsOnly tag pair.fallback && (insertions pair.fallback).isEmpty &&
    (insertions pair.present == [.attribute ⟨name, []⟩] ||
      (insertions pair.present).isEmpty && (tag.shapeOf? name).all (!·.holdsNodes))

def templateInserts (tag : Tag) (template : Template) : Bool :=
  readsOnly tag template && insertsChildren tag (insertions template)

def insertsAsWeighed : Parsed → Bool
  | .entry tag (.template template) => templateInserts tag template
  | .entry .forStatement (.switch switch) =>
    switch.on == ⟨"iterators", []⟩ && loopParts.all fun parts => (switch.select? parts.1.name).any fun template =>
      readsOnly .forStatement template && insertions template == loopInsertions parts.1
  | .entry tag (.switch switch) =>
    switch.on.rest.isEmpty && switch.cases.all (fun entry => templateInserts tag entry.2) &&
      switch.default.all (templateInserts tag)
  | .optional tag name pair => pairInserts tag name pair
  | .function _ _ entry => insertsOperands entry.template
  | .method _ _ entry => insertsOperands entry.template
  | _ => true

set_option maxRecDepth 8000 in
theorem templates_insert : ∀ registration ∈ templates, registration.Passes insertsAsWeighed := by
  repeat
    refine List.forall_mem_cons.mpr ⟨?_, ?_⟩
    · first
      | exact Registration.passes_template _ _ (by decide)
      | exact Registration.passes_optional _ _ _ _ (by decide)
      | exact Registration.passes_switch _ _ [(_, _)] _ (by decide)
      | exact Registration.passes_switch _ _ [(_, _), (_, _), (_, _)] _ (by decide)
  exact List.forall_mem_nil _

theorem libraryFunctions_insert : ∀ registration ∈ libraryFunctions, registration.Passes insertsAsWeighed := by
  repeat
    refine List.forall_mem_cons.mpr ⟨?_, ?_⟩
    · exact Registration.passes_function _ _ _ _ (by decide)
  exact List.forall_mem_nil _

theorem libraryMethods_insert : ∀ registration ∈ libraryMethods, registration.Passes insertsAsWeighed := by
  repeat
    refine List.forall_mem_cons.mpr ⟨?_, ?_⟩
    · exact Registration.passes_method _ _ _ _ (by decide)
  exact List.forall_mem_nil _

theorem typeDependencies_insert : ∀ registration ∈ typeDependencies, registration.Passes insertsAsWeighed := by
  repeat refine List.forall_mem_cons.mpr ⟨⟨⟨_, rfl, rfl⟩⟩, ?_⟩
  exact List.forall_mem_nil _

theorem registrations_insert (settings : LanguageSettings) :
    ∀ registration ∈ registrations settings, registration.Passes insertsAsWeighed :=
  registrations_pass settings (fun found general => by cases found <;> first | rfl | cases general)
    typeDependencies_insert libraryFunctions_insert libraryMethods_insert templates_insert

theorem tables_insert {settings : LanguageSettings} {built : Profile} (builds : profile settings = .ok built) :
    built.toTarget.Holds fun found => insertsAsWeighed found = true :=
  Profile.holds_of_build builds fun registration among => (registrations_insert settings registration among).check_eq

end Checks

end CSharp
end Retarget
