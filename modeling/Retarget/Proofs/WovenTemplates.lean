import Retarget.Proofs.InsertedChildren
import Retarget.Proofs.KeptPrograms
import Retarget.Proofs.WovenTexts

/-! Templates for a tree in which a leaf is exchanged. The trees that one gets by putting other texts in the place of
a leaf's come to woven texts: what a template counts is the number of gaps, and the leaf's texts are the words. -/
namespace Retarget

section Resolving

def Resolved.map (f : Node → Node) (resolved : Resolved) : Resolved := ⟨resolved.owner, resolved.name, resolved.field.map f⟩

theorem Field.isEmpty_map (f : α → β) (field : Field α) : (field.map f).isEmpty = field.isEmpty := by
  cases field with
  | nodes children => exact List.isEmpty_map
  | _ => rfl

theorem Field.members_of_isEmpty (field : Field α) (empty : field.isEmpty = true) : field.members = [] := by
  cases field with
  | nodes children => exact List.isEmpty_iff.mp empty
  | node child => cases empty
  | _ => rfl

theorem Node.Everywhere.resolved {P : Node → Prop} {node : Node} (all : node.Everywhere P) (path : Path)
    (resolved : Resolved) (found : node.resolve path = .ok resolved) :
    ∀ member ∈ resolved.field.members, member.Everywhere P := by
  obtain ⟨owner, below, stored⟩ := node.exists_owner_of_resolve path resolved found
  exact (all.below owner below).member resolved.name resolved.field stored

end Resolving

namespace CSharp

/-- The text that a leaf is written as. -/
def written : Leaf → String → String
  | .localVar, name => name
  | .string, value => String.ofList (quote value.toList)
  | .regex, value => "new Regex(" ++ String.ofList (quoteVerbatim value.toList) ++ ")"

/-- Texts for a leaf in the place of an old one. What is written of them can be seen. -/
structure Exchange (ι : Type) where
  leaf : Leaf
  old : String
  new : ι → String
  visible : ∀ i, Text.isAllBlank (written leaf (new i)).toList = false

namespace Exchange

variable {ι : Type} (exchange : Exchange ι)

/-- The tree with a new text in all leaves that have the old one. -/
def tree (i : ι) (node : Node) : Node := node.relabel (exchange.leaf.put exchange.old (exchange.new i))

def IsSlot (node : Node) : Prop := exchange.leaf.text? node.kind = some exchange.old

def word (i : ι) (_ : Unit) : List Char := (written exchange.leaf (exchange.new i)).toList

/-- How often slots are written in a tree. -/
def count (library : Library) : Node → Nat := copies library exchange.leaf exchange.old

/-- Texts that have so many gaps for the words. -/
abbrev Weaves (gaps : Nat) (result : ι → Except GenerateError String) : Prop :=
  Alike (WovenString exchange.word (List.replicate gaps ())) result

theorem flatMap_replicate {α : Type} (gaps : α → Nat) (xs : List α) :
    (xs.flatMap fun x => List.replicate (gaps x) ()) = List.replicate (xs.map gaps).sum () := by
  induction xs with
  | nil => rfl
  | cons x xs ih => rw [List.flatMap_cons, ih, List.map_cons, List.sum_cons, List.replicate_add]

variable {exchange}

theorem weaves_const (result : Except GenerateError String) : exchange.Weaves 0 fun _ => result :=
  .const result fun value _ => wovenString_const _ value

theorem Weaves.congr {gaps others : Nat} {result : ι → Except GenerateError String} (weaves : exchange.Weaves gaps result)
    (same : gaps = others) : exchange.Weaves others result := same ▸ weaves

variable (exchange) (i : ι) (node : Node)

theorem tag_tree : (exchange.tree i node).tag = node.tag := Node.tag_relabel _ node

theorem type_tree : (exchange.tree i node).type = node.type := Node.type_relabel _ node

variable {node}

theorem kind_tree (inner : ¬exchange.IsSlot node) : (exchange.tree i node).kind = node.kind.map (exchange.tree i) := by
  rw [tree, Node.kind_relabel, exchange.leaf.apply_put_of_ne node.kind inner]
  rfl

theorem attr?_tree (inner : ¬exchange.IsSlot node) (name : String) :
    (exchange.tree i node).attr? name = (node.attr? name).map (Field.map (exchange.tree i)) := by
  rw [Node.attr?_eq, Node.attr?_eq, exchange.kind_tree i inner, exchange.type_tree i node, Kind.lookup_fields_map]
  split <;> rfl

theorem not_isSlot_of_tag (other : [Tag.localVar, .string, .regex].contains node.tag = false) :
    ¬exchange.IsSlot node := by
  intro same
  rw [Node.tag, exchange.leaf.kind_of_text? node.kind _ same] at other
  cases leaf : exchange.leaf <;> rw [leaf] at other <;> cases other

theorem resolve_single (inner : ¬exchange.IsSlot node) (name : String) :
    (exchange.tree i node).resolveFrom name [] = Resolved.map (exchange.tree i) <$> node.resolveFrom name [] := by
  simp only [Node.resolveFrom, exchange.attr?_tree i inner]
  cases node.attr? name with
  | none =>
    rw [Node.missing, exchange.tag_tree i node]
    rfl
  | some field =>
    simp only [Option.map_some, exchange.tag_tree i node]
    rfl

theorem not_isSlot_of_together {iterators sequences : Node} (together : Node.Together iterators sequences) :
    ¬exchange.IsSlot iterators ∧ ¬exchange.IsSlot sequences := by
  have others : ∀ parts ∈ loopParts, [Tag.localVar, .string, .regex].contains parts.1 = false ∧
      [Tag.localVar, .string, .regex].contains parts.2 = false := by decide
  have apart := others _ together.1
  exact ⟨exchange.not_isSlot_of_tag apart.1, exchange.not_isSlot_of_tag apart.2⟩

/-- What a path leads to in the changed tree. The parts of a loop are no leaves, so that paths through them stay. -/
theorem resolve_tree (inner : ¬exchange.IsSlot node) (parts : node.PartsMatch) (path : Path)
    (readable : isReadable node.tag path = true) :
    (exchange.tree i node).resolve path = Resolved.map (exchange.tree i) <$> node.resolve path := by
  obtain ⟨first, rest⟩ := path
  rw [isReadable, Bool.or_eq_true, Bool.and_eq_true, Bool.and_eq_true] at readable
  rcases readable with short | ⟨⟨loop, long⟩, through⟩
  · obtain rfl : rest = [] := List.isEmpty_iff.mp short
    exact exchange.resolve_single i inner first
  · obtain ⟨name, rfl⟩ := List.length_eq_one_iff.mp (beq_iff_eq.mp long)
    have through : first = "iterators" ∨ first = "sequences" := by simpa using through
    have attributes := exchange.attr?_tree i inner first
    obtain ⟨kind, type⟩ := node
    cases kind with
    | forStatement iterators sequences body =>
      have apart := exchange.not_isSlot_of_together parts.1
      rw [Node.resolve, Node.resolve, Node.resolveFrom, Node.resolveFrom, attributes]
      rcases through with rfl | rfl
      · exact exchange.resolve_single i apart.1 name
      · exact exchange.resolve_single i apart.2 name
    | _ => cases loop

theorem sequenceAt_tree (inner : ¬exchange.IsSlot node) (name : String) :
    (exchange.tree i node).sequenceAt name = List.map (exchange.tree i) <$> node.sequenceAt name := by
  rw [Node.sequenceAt, Node.sequenceAt, exchange.attr?_tree i inner, Node.misshapen, Node.missing,
    exchange.tag_tree i node]
  cases node.attr? name with
  | none => rfl
  | some field => cases field <;> rfl

theorem childAt_tree (inner : ¬exchange.IsSlot node) (name : String) :
    (exchange.tree i node).childAt name = exchange.tree i <$> node.childAt name := by
  rw [Node.childAt, Node.childAt, exchange.attr?_tree i inner, Node.misshapen, Node.missing, exchange.tag_tree i node]
  cases node.attr? name with
  | none => rfl
  | some field => cases field <;> rfl

theorem textAt_tree (inner : ¬exchange.IsSlot node) (name : String) :
    (exchange.tree i node).textAt name = node.textAt name := by
  rw [Node.textAt, Node.textAt, exchange.attr?_tree i inner, Node.misshapen, Node.missing, exchange.tag_tree i node]
  cases node.attr? name with
  | none => rfl
  | some field => cases field <;> rfl

variable (node) in
theorem isCompound_tree : (exchange.tree i node).kind.isCompound = node.kind.isCompound := by
  have tags : (exchange.tree i node).kind.tag = node.kind.tag := exchange.tag_tree i node
  rw [Kind.isCompound, Kind.isCompound, tags]

end Exchange

section Families

open Exchange

variable {ι : Type} {exchange : Exchange ι} {library : Library} {renderer : Renderer}

/-- The renderer writes all trees with as many gaps as there are slots. -/
def Exchange.WrittenBy (exchange : Exchange ι) (library : Library) (renderer : Renderer) : Prop :=
  ∀ node depth, node.Everywhere Node.PartsMatch →
    exchange.Weaves (exchange.count library node) fun i => renderer.render (exchange.tree i node) depth

section Written

variable (written : exchange.WrittenBy library renderer)
include written

theorem Exchange.WrittenBy.renderBlock (nodes : List Node) (all : ∀ node ∈ nodes, node.Everywhere Node.PartsMatch)
    (depth : Nat) (mode : JoinMode) :
    exchange.Weaves (nodes.map (exchange.count library)).sum fun i =>
      renderer.renderBlock (nodes.map (exchange.tree i)) depth mode := by
  simp only [Renderer.renderBlock, List.mapM_map]
  have members := Alike.mapM (WovenString exchange.word) (fun i node => do
    return (← renderer.render (exchange.tree i node) depth) ++ renderer.terminator mode (exchange.tree i node))
    (fun node => List.replicate (exchange.count library node) ()) nodes fun node member =>
      (written node depth (all node member)).bind fun text woven => .ok (by
        simp only [Renderer.terminator, exchange.isCompound_tree]
        simpa using woven.between "" _)
  rw [flatMap_replicate] at members
  exact members.bind fun texts rows => .ok (rows.intercalate _)

section Resolved

variable (resolved : Resolved) (all : ∀ member ∈ resolved.field.members, member.Everywhere Node.PartsMatch)
  (depth : Nat)
include all

theorem Exchange.WrittenBy.place :
    exchange.Weaves (resolved.field.members.map (exchange.count library)).sum fun i =>
      renderer.place (resolved.map (exchange.tree i)) depth := by
  obtain ⟨owner, name, field⟩ := resolved
  cases field with
  | node child => exact (written child depth (all child List.mem_cons_self)).congr (Nat.add_zero _).symm
  | nodes children => exact .error _
  | absent => exact .error _
  | _ => exact weaves_const _

theorem Exchange.WrittenBy.join (mode : JoinMode) :
    exchange.Weaves (resolved.field.members.map (exchange.count library)).sum fun i =>
      renderer.join (resolved.map (exchange.tree i)) mode depth := by
  obtain ⟨owner, name, field⟩ := resolved
  cases field with
  | nodes children => exact written.renderBlock children all depth mode
  | absent => exact weaves_const _
  | _ => exact .error _

end Resolved

section Segments

variable {node : Node} (inner : ¬exchange.IsSlot node) (all : node.Everywhere Node.PartsMatch)
include inner all

theorem Exchange.WrittenBy.placeholder (path : Path) (readable : isReadable node.tag path = true) (depth : Nat) :
    exchange.Weaves (countAt (exchange.count library) node path) fun i =>
      (exchange.tree i node).resolve path >>= fun resolved => renderer.place resolved depth := by
  simp only [exchange.resolve_tree _ inner all.self path readable, bind_map_left]
  refine .bind_left fun resolved found => ?_
  have members := written.place resolved (all.resolved path resolved found) depth
  rwa [countAt, Node.membersAt, found]

theorem Exchange.WrittenBy.joined (path : Path) (readable : isReadable node.tag path = true) (mode : JoinMode)
    (depth : Nat) :
    exchange.Weaves (countAt (exchange.count library) node path) fun i =>
      (exchange.tree i node).resolve path >>= fun resolved => renderer.join resolved mode depth := by
  simp only [exchange.resolve_tree _ inner all.self path readable, bind_map_left]
  refine .bind_left fun resolved found => ?_
  have members := written.join resolved (all.resolved path resolved found) depth mode
  rwa [countAt, Node.membersAt, found]

omit written in
theorem typeOf_weaves (path : Path) (readable : isReadable node.tag path = true) :
    exchange.Weaves 0 fun i => (exchange.tree i node).resolve path >>= renderer.typeOf := by
  simp only [exchange.resolve_tree _ inner all.self path readable, bind_map_left]
  refine .bind_left fun resolved found => ?_
  obtain ⟨owner, name, field⟩ := resolved
  cases field with
  | node child =>
    simp only [Resolved.map, Field.map, Renderer.typeOf, exchange.type_tree]
    exact weaves_const _
  | type type => exact weaves_const _
  | _ => exact .error _

end Segments

end Written

section Segments

variable {node : Node} (inner : ¬exchange.IsSlot node)
include inner

/-- What an optional attribute inserts is what is in it. -/
theorem optional_weaves (name : String)
    (pairs : ∀ pair, renderer.target.optional? node.tag name = some pair → pairInserts node.tag name pair = true)
    (expands : ∀ template depth, readsOnly node.tag template = true →
      exchange.Weaves (countIn library (exchange.count library) node template) fun i =>
        renderer.expand template (exchange.tree i node) depth) (overrides : OverrideTable) (depth : Nat) :
    exchange.Weaves (countAt (exchange.count library) node ⟨name, []⟩) fun i =>
      renderer.directive overrides (exchange.tree i node) depth (.optional name) := by
  simp only [Renderer.directive, exchange.attr?_tree _ inner, exchange.tag_tree]
  rw [countAt, Node.membersAt_single]
  cases stored : node.attr? name with
  | none => exact .error _
  | some field =>
    cases registered : renderer.target.optional? node.tag name with
    | none => exact .error _
    | some pair =>
      have inserts := pairs pair registered
      simp only [pairInserts, Bool.and_eq_true, Bool.or_eq_true, beq_iff_eq, List.isEmpty_iff] at inserts
      obtain ⟨⟨⟨readsPresent, readsFallback⟩, nothing⟩, present⟩ := inserts
      simp only [Option.map_some, Option.getD_some, Field.isEmpty_map]
      cases empty : field.isEmpty with
      | true =>
        rw [field.members_of_isEmpty empty]
        refine (expands pair.fallback depth readsFallback).congr ?_
        rw [countIn, nothing]
        rfl
      | false =>
        refine (expands pair.present depth readsPresent).congr ?_
        rcases present with whole | ⟨none, plain⟩
        · rw [countIn, whole, List.map_singleton, List.sum_singleton, Insertion.count, countAt, Node.membersAt_single, stored]
          rfl
        · have members := node.membersAt_eq_nil name plain
          rw [Node.membersAt_single, stored] at members
          rw [countIn, none, List.map_nil]
          exact (congrArg (fun members => (members.map (exchange.count library)).sum) members).symm

end Segments

/-- What is inserted by a segment. -/
def countOf (library : Library) (f : Node → Nat) (node : Node) (segment : Segment) : Nat :=
  ((insertion? segment).map (Insertion.count library f node)).getD 0

theorem countIn_eq_sum (library : Library) (f : Node → Nat) (node : Node) (template : Template) :
    countIn library f node template =
      ((template.lines.flatMap Line.segments).map (countOf library f node)).sum := by
  rw [countIn, insertions]
  induction template.lines.flatMap Line.segments with
  | nil => rfl
  | cons segment rest ih =>
    rw [List.map_cons, List.sum_cons, ← ih, countOf]
    cases inserted : insertion? segment with
    | none => simp [inserted]
    | some insertion => simp [inserted]

/-- What is known of the templates and overrides that a template for a node may ask for. -/
structure Supported (exchange : Exchange ι) (library : Library) (renderer : Renderer) (overrides : OverrideTable)
    (node : Node) : Prop where
  written : exchange.WrittenBy library renderer
  pairs : ∀ name pair, renderer.target.optional? node.tag name = some pair → pairInserts node.tag name pair = true
  expands : ∀ template depth, readsOnly node.tag template = true →
    exchange.Weaves (countIn library (exchange.count library) node template) fun i =>
      renderer.expand template (exchange.tree i node) depth
  overridden : ∀ name override depth, overrides.get? name = some override →
    readsSegment node.tag (.directive (.override name)) = true →
    exchange.Weaves (countOf library (exchange.count library) node (.directive (.override name))) fun i =>
      override renderer (exchange.tree i node) depth

section Steps

variable {overrides : OverrideTable} {node : Node} (supported : Supported exchange library renderer overrides node)
  (inner : ¬exchange.IsSlot node) (all : node.Everywhere Node.PartsMatch)
include supported inner all

theorem segment_weaves (segment : Segment) (reads : readsSegment node.tag segment = true) (depth : Nat) :
    exchange.Weaves (countOf library (exchange.count library) node segment) fun i =>
      renderer.segment overrides (exchange.tree i node) depth segment := by
  cases segment with
  | text value => exact weaves_const _
  | directive directive =>
    cases directive with
    | placeholder path => exact supported.written.placeholder inner all path reads depth
    | join path mode => exact supported.written.joined inner all path reads mode depth
    | type path => exact typeOf_weaves inner all path reads
    | optional name => exact optional_weaves inner name (supported.pairs name) supported.expands overrides depth
    | override name =>
      simp only [Renderer.segment, Renderer.directive]
      cases registered : overrides.get? name with
      | none => exact .error _
      | some override => exact supported.overridden name override depth registered reads

/-- A template comes to a text with as many gaps as it counts slots. -/
theorem step_weaves (template : Template) (reads : readsOnly node.tag template = true) (depth : Nat) :
    exchange.Weaves (countIn library (exchange.count library) node template) fun i =>
      renderer.step overrides template (exchange.tree i node) depth := by
  have whole := Renderer.step_alike exchange.word (fun i _ => exchange.visible i) overrides (fun _ => renderer) _ (fun _ => rfl)
    (fun i => exchange.tree i node) template
    (fun segment => List.replicate (countOf library (exchange.count library) node segment) ()) depth
    fun line listed segment member => by
      have known := List.all_eq_true.mp reads segment (List.mem_flatMap.mpr ⟨line, listed, member⟩)
      exact segment_weaves supported inner all segment known _
  rw [flatMap_replicate] at whole
  rwa [countIn_eq_sum]

end Steps

end Families

end CSharp
end Retarget
