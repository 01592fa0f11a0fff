import Retarget.Proofs.OverrideRuns
import Retarget.Proofs.Recurrence
import Retarget.Proofs.VisibleLineEnds
import Retarget.Proofs.WovenTexts

/-! Places of definitions. A module writes its classes in front of its program and its functions inside it. What it
comes to is the same pieces for all definitions with as many classes and functions, the texts of these between them, so
that each has one place. Other definitions have none. -/
namespace Retarget

/-- What a module has besides its definitions. -/
structure Surroundings where
  dependencies : List Node
  constants : List Node
  customExceptions : List Node
  main : List Node
  type : SemType

/-- The module with definitions among its surroundings. -/
def Surroundings.module (around : Surroundings) (definitions : List Node) : Node :=
  ⟨.module definitions around.dependencies around.constants around.customExceptions around.main, around.type⟩

section Rendering

/-- A line of text at the end of a template stays. -/
theorem RenderedLine.exists_kept_concat (lines : List RenderedLine) (depth : Nat) (text : String)
    (afterDirective pending dropped : Bool) :
    ∃ front, kept afterDirective pending dropped (lines ++ [.content depth false text]) =
      front ++ [.filled depth text] := by
  induction lines generalizing afterDirective pending dropped with
  | nil =>
    rw [List.nil_append, kept]
    simp only [Bool.false_and, Bool.false_eq_true, if_false, Bool.false_or]
    split
    · exact ⟨[.blank], rfl⟩
    · exact ⟨[], rfl⟩
  | cons line lines ih =>
    cases line with
    | blank => exact ih _ _ _
    | content other hasDirective own =>
      obtain ⟨front, same⟩ := ih hasDirective false false
      rw [List.cons_append, kept, same]
      split
      · exact ih _ _ _
      · split
        · exact ⟨.blank :: .filled other own :: front, rfl⟩
        · exact ⟨.filled other own :: front, rfl⟩

theorem OutputLine.exists_join_concat (indent : Indent) (lines : List OutputLine) (depth : Nat) (text : String) :
    ∃ front, (join indent (lines ++ [.filled depth text])).toList = front ++ text.toList := by
  cases lines with
  | nil => exact ⟨[], rfl⟩
  | cons first rest =>
    rw [List.cons_append, toList_join]
    refine ⟨first.unindented.toList ++ tail indent rest ++ '\n' :: (indent.margin depth).toList, ?_⟩
    simp [tail, indented]

/-- A template whose last line is a text comes to something that ends in it. -/
theorem Renderer.exists_front_of_step (overrides : OverrideTable) (renderer : Renderer) (node : Node) (depth : Nat)
    (lines : List Line) (level : Nat) (last : String) {text : String}
    (rendered : renderer.step overrides ⟨lines ++ [⟨level, [.text last]⟩]⟩ node depth = .ok text) :
    ∃ front, text.toList = front ++ last.toList := by
  obtain ⟨outputs, eachLine, laid⟩ := (bind_eq_ok_iff _ _ _).mp rendered
  cases laid
  rw [List.mapM_append] at eachLine
  obtain ⟨before, -, eachLine⟩ := (bind_eq_ok_iff _ _ _).mp eachLine
  have ended : [Line.mk level [.text last]].mapM (renderer.line overrides node depth) =
      .ok [.content (depth + level) false (String.join [last])] := rfl
  rw [ended] at eachLine
  cases eachLine
  obtain ⟨kept, stays⟩ := RenderedLine.exists_kept_concat before (depth + level) (String.join [last]) false false false
  obtain ⟨front, joined⟩ := OutputLine.exists_join_concat renderer.target.indent kept (depth + level) (String.join [last])
  refine ⟨front, ?_⟩
  rw [layOut, stays, joined]
  simp

/-- Whether there is something to see in a template besides its directives. -/
def Template.hasVisibleText (template : Template) : Bool :=
  template.lines.any fun line => line.segments.any fun segment =>
    match segment with
    | .text value => !Text.isAllBlank value.toList
    | .directive _ => false

theorem Renderer.visible_of_step (overrides : OverrideTable) (renderer : Renderer) (node : Node) (depth : Nat)
    (template : Template) (visible : template.hasVisibleText = true) {text : String}
    (rendered : renderer.step overrides template node depth = .ok text) : Text.isAllBlank text.toList = false := by
  obtain ⟨line, listed, some⟩ := List.any_eq_true.mp visible
  obtain ⟨segment, within, seen⟩ := List.any_eq_true.mp some
  cases segment with
  | text value =>
    rw [Bool.not_eq_true'] at seen
    exact isAllBlank_eq_false_of_infix
      (infix_of_step overrides renderer node depth template line listed _ within rendered rfl seen) seen
  | directive directive => cases seen

/-- Texts that stand in gaps one by one. -/
theorem rows_of_names {ι κ : Type} (text : ι → κ → String) (names : List κ) :
    Rows (WovenString fun i name => (text i name).toList) names fun i => names.map (text i) := by
  induction names with
  | nil => exact .nil
  | cons name names ih =>
    have here : WovenString (fun i name => (text i name).toList) [name] fun i => text i name := woven_word _ name
    have rows := Rows.cons here ih
    exact rows

end Rendering

namespace CSharp

/-- The template of modules. -/
def moduleTemplate : Template :=
  ⟨[⟨0, [.directive (.join ⟨"dependencies", []⟩ .lines)]⟩, ⟨0, []⟩,
    ⟨0, [.directive (.join ⟨"custom_exceptions", []⟩ .paragraphs)]⟩, ⟨0, []⟩,
    ⟨0, [.directive (.override "class_definitions")]⟩, ⟨0, []⟩,
    ⟨0, [.text "public class Program"]⟩, ⟨0, [.text "\x7b"]⟩,
    ⟨1, [.directive (.join ⟨"constants", []⟩ .statements)]⟩, ⟨0, []⟩,
    ⟨1, [.directive (.override "function_definitions")]⟩, ⟨0, []⟩,
    ⟨1, [.text "public static void Main()"]⟩, ⟨1, [.text "\x7b"]⟩,
    ⟨2, [.directive (.join ⟨"main", []⟩ .statements)]⟩, ⟨1, [.text "\x7d"]⟩] ++ [⟨0, [.text "\x7d"]⟩]⟩

/-- The definitions that have a place in a module, each with its depth: classes, and behind them functions. -/
def placed (definitions : List Node) : List (Node × Nat) :=
  (definitions.filter (·.tag == .classDefinition)).map (·, 0) ++
    (definitions.filter (·.tag == .functionDefinition)).map (·, 1)

section Built

variable {settings : LanguageSettings} {built : Profile} (basics : Basics settings built) (declared : List String)
include basics

set_option maxRecDepth 8000 in
theorem entry_module : built.entries.get? .module = some (.template moduleTemplate) :=
  basics.templates .module Templates.module _ rfl ((Template.parse_ofList _ _).trans (by decide))

set_option maxRecDepth 8000 in
theorem exists_definitionTemplate (tag : Tag) (isDefinition : tag = .classDefinition ∨ tag = .functionDefinition) :
    ∃ template, built.entries.get? tag = some (.template template) ∧ template.hasVisibleText = true := by
  have fromSource (source : String) (only : (registrations settings).filter (·.tag? == some tag) = [.template tag source])
      (parsed : ∃ template, Template.parse tag.name source = .ok template ∧ template.hasVisibleText = true) :
      ∃ template, built.entries.get? tag = some (.template template) ∧ template.hasVisibleText = true := by
    obtain ⟨template, parses, visible⟩ := parsed
    exact ⟨template, basics.templates tag source template only parses, visible⟩
  rcases isDefinition with rfl | rfl
  · exact fromSource Templates.classDefinition rfl (Registration.exists_template Template.hasVisibleText _ _ (by decide))
  · exact fromSource Templates.functionDefinition rfl
      (Registration.exists_template Template.hasVisibleText _ _ (by decide))

/-- Classes and functions can be seen. -/
theorem definition_visible (fuel : Nat) (node : Node) (depth : Nat)
    (isDefinition : node.tag = .classDefinition ∨ node.tag = .functionDefinition) {text : String}
    (rendered : (Rules.rendererAt built declared fuel).render node depth = .ok text) :
    Text.isAllBlank text.toList = false := by
  obtain ⟨template, entry, visible⟩ := exists_definitionTemplate basics node.tag isDefinition
  have found : (Rules.rendererAt built declared fuel).target.entry? node.tag = some (.template template) := entry
  rw [Renderer.render, found] at rendered
  cases fuel with
  | zero => cases rendered
  | succ fuel => exact Renderer.visible_of_step built.overrides _ node depth template visible rendered

theorem comesTo_of_render {fuel depth : Nat} {node : Node} {text : String}
    (rendered : (Rules.rendererAt built declared fuel).render node depth = .ok text) :
    built.ComesTo declared node depth (.ok text) :=
  ⟨nofun, fuel, fun _ le => render_of_le basics declared le node depth rendered⟩

/-- More steps do not change a block. -/
theorem renderBlock_of_le {fuel more : Nat} (le : fuel ≤ more) (nodes : List Node) (depth : Nat) (mode : JoinMode)
    {text : String} (rendered : (Rules.rendererAt built declared fuel).renderBlock nodes depth mode = .ok text) :
    (Rules.rendererAt built declared more).renderBlock nodes depth mode = .ok text := by
  obtain ⟨members, mapped, same⟩ := (bind_eq_ok_iff _ _ _).mp rendered
  refine (bind_eq_ok_iff _ _ _).mpr ⟨members, (mapM_eq_ok_iff _ _ _).mpr ?_, same⟩
  refine ((mapM_eq_ok_iff _ _ _).mp mapped).imp fun node member written => ?_
  obtain ⟨inner, innerRendered, same⟩ := (bind_eq_ok_iff _ _ _).mp written
  exact (bind_eq_ok_iff _ _ _).mpr ⟨inner, render_of_le basics declared le node depth innerRendered, same⟩

end Built

section Fillings

/-- Definitions for a module, with a text for each of the numbered places that they are to have. -/
structure Filling (built : Profile) (declared : List String) (least classes functions : Nat) where
  definitions : List Node
  fuel : Nat
  enough : least ≤ fuel
  text : Nat → String
  classTexts : (definitions.filter (·.tag == .classDefinition)).mapM
    (fun definition => (Rules.rendererAt built declared fuel).render definition 0) = .ok ((List.range classes).map text)
  functionTexts : (definitions.filter (·.tag == .functionDefinition)).mapM
    (fun definition => (Rules.rendererAt built declared fuel).render definition 1) =
      .ok ((List.range functions).map fun place => text (classes + place))
  visible : ∀ place, Text.isAllBlank (text place).toList = false

/-- The gaps that a segment of a module has. -/
def placesOf (classes functions : Nat) (segment : Segment) : List Nat :=
  if segment = .directive (.override "class_definitions") then List.range classes
  else if segment = .directive (.override "function_definitions") then (List.range functions).map (classes + ·)
  else []

variable {settings : LanguageSettings} {built : Profile} (basics : Basics settings built) {declared : List String}
  {least classes functions : Nat} (around : Surroundings)

def Filling.word (filling : Filling built declared least classes functions) (place : Nat) : List Char :=
  (filling.text place).toList

section Segments

variable (depth : Nat)

variable (classes functions) in
include basics in
/-- What a module has besides its definitions is written without gaps. -/
theorem join_alike (name : String) (mode : JoinMode) (nodes : List Node)
    (stored : ∀ definitions, (around.module definitions).attr? name = some (.nodes nodes)) (definitions : List Node)
    (written : ∃ part, (Rules.rendererAt built declared least).segment built.overrides (around.module definitions) depth
      (.directive (.join ⟨name, []⟩ mode)) = .ok part) :
    Alike (WovenString Filling.word []) fun filling : Filling built declared least classes functions =>
      (Rules.rendererAt built declared filling.fuel).segment built.overrides (around.module filling.definitions) depth
        (.directive (.join ⟨name, []⟩ mode)) := by
  obtain ⟨part, written⟩ := written
  rw [Renderer.segment_join _ _ _ _ name mode nodes (stored definitions)] at written
  refine .inl ⟨fun _ => part, wovenString_const _ part, fun filling => ?_⟩
  exact (Renderer.segment_join _ _ _ _ name mode nodes (stored filling.definitions)).trans
    (renderBlock_of_le basics declared filling.enough nodes depth mode written)

/-- Definitions of a tag are written with blank lines between them. -/
theorem segment_definitions (name : String) (tag : Tag) (registered : built.overrides.get? name = some (definitionsOf tag))
    (renderer : Renderer) (definitions : List Node) (texts : List String)
    (mapped : (definitions.filter (·.tag == tag)).mapM (fun definition => renderer.render definition depth) = .ok texts) :
    renderer.segment built.overrides (around.module definitions) depth (.directive (.override name)) =
      .ok (("\n\n" ++ renderer.indent depth).intercalate texts) := by
  have found : (around.module definitions).sequenceAt "definitions" = .ok definitions := rfl
  rw [Renderer.segment_override _ _ _ _ name _ registered, definitionsOf, found]
  exact congrArg (· >>= fun texts => pure (("\n\n" ++ renderer.indent depth).intercalate texts)) mapped

/-- Definitions of a tag stand in gaps of their own. -/
theorem definitions_alike (name : String) (tag : Tag) (registered : built.overrides.get? name = some (definitionsOf tag))
    (places : List Nat) (written : ∀ filling : Filling built declared least classes functions,
      (filling.definitions.filter (·.tag == tag)).mapM (fun definition =>
        (Rules.rendererAt built declared filling.fuel).render definition depth) = .ok (places.map filling.text)) :
    Alike (WovenString Filling.word places) fun filling : Filling built declared least classes functions =>
      (Rules.rendererAt built declared filling.fuel).segment built.overrides (around.module filling.definitions) depth
        (.directive (.override name)) := by
  simp only [segment_definitions around depth name tag registered _ _ _ (written _)]
  have rows : Rows (WovenString Filling.word) places
      fun filling : Filling built declared least classes functions => places.map filling.text :=
    rows_of_names Filling.text places
  exact .ok (rows.intercalate ("\n\n" ++ built.indent.margin depth))

end Segments

include basics

/-- A module that is written with some definitions is written with others as well, in the same pieces. -/
theorem exists_frame (filling : Filling built declared least classes functions) {text : String}
    (fuel : filling.fuel = least)
    (rendered : (Rules.rendererAt built declared least).step built.overrides moduleTemplate
      (around.module filling.definitions) 0 = .ok text) :
    ∃ frame : Frame Nat, frame.gaps = List.range (classes + functions) ∧
      ∀ filling : Filling built declared least classes functions, ∃ text,
        (Rules.rendererAt built declared filling.fuel).step built.overrides moduleTemplate
          (around.module filling.definitions) 0 = .ok text ∧ text.toList = frame.fill filling.word := by
  have joined (name : String) (mode : JoinMode) (nodes : List Node) (level : Nat)
      (stored : ∀ definitions, (around.module definitions).attr? name = some (.nodes nodes))
      (listed : ⟨level, [.directive (.join ⟨name, []⟩ mode)]⟩ ∈ moduleTemplate.lines) :=
    join_alike basics classes functions around (0 + level) name mode nodes stored filling.definitions
      ((Renderer.exists_part_of_step _ _ _ 0 moduleTemplate _ listed _ List.mem_cons_self rendered).imp fun _ => And.left)
  have constant (value : String) (level : Nat) :
      Alike (WovenString Filling.word []) fun filling : Filling built declared least classes functions =>
        (Rules.rendererAt built declared filling.fuel).segment built.overrides (around.module filling.definitions)
          (0 + level) (.text value) := .ok (wovenString_const _ value)
  have inClasses := definitions_alike around 0 "class_definitions" .classDefinition
    (basics.override "class_definitions" _ rfl) (List.range classes)
    fun filling : Filling built declared least classes functions => filling.classTexts
  have inFunctions := definitions_alike around 1 "function_definitions" .functionDefinition
    (basics.override "function_definitions" _ rfl) ((List.range functions).map (classes + ·))
    fun filling : Filling built declared least classes functions => by
      rw [List.map_map]
      exact filling.functionTexts
  have whole := Renderer.step_alike Filling.word (fun filling => filling.visible) built.overrides
    (fun filling : Filling built declared least classes functions => Rules.rendererAt built declared filling.fuel)
    built.indent (fun _ => rfl) (fun filling => around.module filling.definitions) moduleTemplate
    (placesOf classes functions) 0 (by
      simp only [moduleTemplate, List.cons_append, List.nil_append, List.forall_mem_cons, List.not_mem_nil,
        IsEmpty.forall_iff, implies_true, and_true, true_and]
      exact ⟨joined "dependencies" .lines around.dependencies 0 (fun _ => rfl) (by decide),
        joined "custom_exceptions" .paragraphs around.customExceptions 0 (fun _ => rfl) (by decide),
        inClasses, constant _ 0, constant _ 0,
        joined "constants" .statements around.constants 1 (fun _ => rfl) (by decide),
        inFunctions, constant _ 1, constant _ 1,
        joined "main" .statements around.main 2 (fun _ => rfl) (by decide), constant _ 1, constant _ 0⟩)
  rcases whole with ⟨texts, ⟨frame, gaps, filled⟩, written⟩ | fails
  · refine ⟨frame, gaps.trans ?_, fun filling => ⟨texts filling, written filling, filled filling⟩⟩
    simp [moduleTemplate, placesOf, List.range_add]
  · obtain ⟨cause, failed⟩ := fails filling
    simp only [fuel, rendered] at failed
    cases failed

end Fillings

/-- Texts that the definitions with a place come to, in the order of the places. -/
def PlacedTexts (built : Profile) (declared : List String) (definitions : List Node) (texts : List String) : Prop :=
  List.Forall₂ (fun place text => built.ComesTo declared place.1 place.2 (.ok text)) (placed definitions) texts

section Places

variable {settings : LanguageSettings} {built : Profile} (basics : Basics settings built) {declared : List String}

theorem length_placed (definitions : List Node) : (placed definitions).length =
    definitions.countP (·.tag == .classDefinition) + definitions.countP (·.tag == .functionDefinition) := by
  simp [placed, List.countP_eq_length_filter]

theorem isDefinition_of_mem_placed {definitions : List Node} {place : Node × Nat} (member : place ∈ placed definitions) :
    place.1.tag = .classDefinition ∨ place.1.tag = .functionDefinition := by
  simp only [placed, List.mem_append, List.mem_map, List.mem_filter, beq_iff_eq] at member
  rcases member with ⟨definition, ⟨-, isClass⟩, rfl⟩ | ⟨definition, ⟨-, isFunction⟩, rfl⟩
  · exact .inl isClass
  · exact .inr isFunction

/-- Enough steps write all definitions that come to texts. -/
theorem exists_bound {places : List (Node × Nat)} {texts : List String}
    (come : List.Forall₂ (fun place text => built.ComesTo declared place.1 place.2 (.ok text)) places texts) :
    ∃ bound, ∀ fuel, bound ≤ fuel → List.Forall₂
      (fun place text => (Rules.rendererAt built declared fuel).render place.1 place.2 = .ok text) places texts := by
  induction come with
  | nil => exact ⟨0, fun _ _ => .nil⟩
  | cons first _ ih =>
    obtain ⟨-, least, stays⟩ := first
    obtain ⟨bound, all⟩ := ih
    exact ⟨max least bound, fun fuel le => .cons (stays fuel (le_of_max_le_left le)) (all fuel (le_of_max_le_right le))⟩

theorem map_range_getD_left (front back : List String) (other : String) :
    (List.range front.length).map ((front ++ back).getD · other) = front := by
  refine List.ext_getElem (by simp) fun index _ within => ?_
  simp [List.getD, List.getElem?_append_left within, within]

theorem map_range_getD_right (front back : List String) (other : String) :
    (List.range back.length).map (fun place => (front ++ back).getD (front.length + place) other) = back := by
  refine List.ext_getElem (by simp) fun index _ within => ?_
  simp [List.getD, within]

theorem exists_split {α β : Type} {R : α → β → Prop} (front back : List α) (ys : List β)
    (related : List.Forall₂ R (front ++ back) ys) :
    ∃ first second, ys = first ++ second ∧ List.Forall₂ R front first ∧ List.Forall₂ R back second := by
  induction front generalizing ys with
  | nil => exact ⟨[], ys, rfl, .nil, related⟩
  | cons x front ih =>
    cases related with
    | cons here later =>
      obtain ⟨first, second, rfl, inFront, inBack⟩ := ih _ later
      exact ⟨_ :: first, second, rfl, .cons here inFront, inBack⟩

include basics

/-- Definitions that are written fill a module. -/
theorem exists_filling (definitions : List Node) (texts : List String) (least fuel classes functions : Nat)
    (enough : least ≤ fuel) (asClasses : definitions.countP (·.tag == .classDefinition) = classes)
    (asFunctions : definitions.countP (·.tag == .functionDefinition) = functions)
    (written : List.Forall₂ (fun place text => (Rules.rendererAt built declared fuel).render place.1 place.2 = .ok text)
      (placed definitions) texts) :
    ∃ filling : Filling built declared least classes functions, filling.definitions = definitions ∧
      filling.fuel = fuel ∧ (List.range (classes + functions)).map filling.word = texts.map String.toList := by
  subst asClasses asFunctions
  have visible : ∀ text ∈ texts, Text.isAllBlank text.toList = false := fun text member => by
    obtain ⟨place, listed, rendered⟩ := exists_of_forall₂ written.flip text member
    exact definition_visible basics declared fuel place.1 place.2 (isDefinition_of_mem_placed listed) rendered
  obtain ⟨classTexts, functionTexts, rfl, ofClasses, ofFunctions⟩ := exists_split _ _ texts written
  rw [List.forall₂_map_left_iff] at ofClasses ofFunctions
  have firsts := ofClasses.length_eq
  have seconds := ofFunctions.length_eq
  rw [← List.countP_eq_length_filter] at firsts seconds
  -- Places are numbered in the order of the texts; the numbers behind them have any text that can be seen.
  let text (place : Nat) := (classTexts ++ functionTexts).getD place "\x7d"
  have inClasses : (List.range (definitions.countP (·.tag == .classDefinition))).map text = classTexts := by
    rw [firsts]
    exact map_range_getD_left classTexts functionTexts "\x7d"
  have inFunctions : (List.range (definitions.countP (·.tag == .functionDefinition))).map
      (fun place => text (definitions.countP (·.tag == .classDefinition) + place)) = functionTexts := by
    rw [firsts, seconds]
    exact map_range_getD_right classTexts functionTexts "\x7d"
  have all : (List.range (definitions.countP (·.tag == .classDefinition) +
      definitions.countP (·.tag == .functionDefinition))).map text = classTexts ++ functionTexts := by
    rw [List.range_add, List.map_append, List.map_map, inClasses]
    exact congrArg (classTexts ++ ·) inFunctions
  have seen (place : Nat) : Text.isAllBlank (text place).toList = false := by
    simp only [text, List.getD_eq_getElem?_getD]
    cases found : (classTexts ++ functionTexts)[place]? with
    | none => decide
    | some text => exact visible text (List.mem_of_getElem? found)
  refine ⟨⟨definitions, fuel, enough, text, ?_, ?_, seen⟩, rfl, rfl, ?_⟩
  · rw [inClasses]
    exact (mapM_eq_ok_iff _ _ _).mpr ofClasses
  · rw [inFunctions]
    exact (mapM_eq_ok_iff _ _ _).mpr ofFunctions
  · rw [← all, List.map_map]
    rfl

theorem render_module (around : Surroundings) (definitions : List Node) (fuel : Nat) :
    (Rules.rendererAt built declared (fuel + 1)).render (around.module definitions) 0 =
      (Rules.rendererAt built declared fuel).step built.overrides moduleTemplate (around.module definitions) 0 := by
  have found : (Rules.rendererAt built declared (fuel + 1)).target.entry? (around.module definitions).tag =
      some (.template moduleTemplate) := entry_module basics
  rw [Renderer.render, found]
  rfl

/-- Where a module is written, so are its classes and functions. -/
theorem exists_placed_of_step (around : Surroundings) (definitions : List Node) (fuel : Nat) {text : String}
    (rendered : (Rules.rendererAt built declared fuel).step built.overrides moduleTemplate (around.module definitions) 0 =
      .ok text) :
    ∃ texts, List.Forall₂ (fun place text => (Rules.rendererAt built declared fuel).render place.1 place.2 = .ok text)
      (placed definitions) texts := by
  have ofTag (name : String) (tag : Tag) (depth : Nat) (registered : built.overrides.get? name = some (definitionsOf tag))
      (listed : ⟨depth, [.directive (.override name)]⟩ ∈ moduleTemplate.lines) :
      ∃ texts, List.Forall₂ (fun definition text =>
        (Rules.rendererAt built declared fuel).render definition depth = .ok text)
          (definitions.filter (·.tag == tag)) texts := by
    obtain ⟨part, written, -⟩ :=
      Renderer.exists_part_of_step _ _ _ 0 moduleTemplate _ listed _ List.mem_cons_self rendered
    rw [Renderer.segment_override _ _ _ _ name _ registered] at written
    obtain ⟨found, same, written⟩ := (bind_eq_ok_iff _ _ _).mp written
    cases same
    obtain ⟨texts, mapped, -⟩ := (bind_eq_ok_iff _ _ _).mp written
    rw [Nat.zero_add] at mapped
    exact ⟨texts, (mapM_eq_ok_iff _ _ _).mp mapped⟩
  obtain ⟨classTexts, ofClasses⟩ :=
    ofTag "class_definitions" .classDefinition 0 (basics.override "class_definitions" _ rfl) (by decide)
  obtain ⟨functionTexts, ofFunctions⟩ :=
    ofTag "function_definitions" .functionDefinition 1 (basics.override "function_definitions" _ rfl) (by decide)
  exact ⟨classTexts ++ functionTexts, List.rel_append (List.forall₂_map_left_iff.mpr ofClasses)
    (List.forall₂_map_left_iff.mpr ofFunctions)⟩

/-- What a module comes to is pieces with the texts of its classes and functions between them; with others it comes to
the same pieces. -/
theorem exists_places (around : Surroundings) (definitions : List Node) (least : Nat) {text : String}
    (rendered : (Rules.rendererAt built declared (least + 1)).render (around.module definitions) 0 = .ok text) :
    ∃ texts pieces, PlacedTexts built declared definitions texts ∧ pieces.length = texts.length + 1 ∧
      text.toList = interleave pieces (texts.map String.toList) ∧
      ∀ others otherTexts, others.countP (·.tag == .classDefinition) = definitions.countP (·.tag == .classDefinition) →
        others.countP (·.tag == .functionDefinition) = definitions.countP (·.tag == .functionDefinition) →
        PlacedTexts built declared others otherTexts →
        built.ComesTo declared (around.module others) 0
          (.ok (String.ofList (interleave pieces (otherTexts.map String.toList)))) := by
  rw [render_module basics] at rendered
  obtain ⟨texts, written⟩ := exists_placed_of_step basics around definitions least rendered
  obtain ⟨filling, same, steps, words⟩ := exists_filling basics definitions texts least least _ _ (Nat.le_refl least)
    rfl rfl written
  rw [← same] at rendered
  obtain ⟨frame, gaps, filled⟩ := exists_frame basics around filling steps rendered
  obtain ⟨pieces, length, interleaved⟩ := frame.exists_interleaved
  rw [gaps, List.length_range] at length
  have sized := written.length_eq
  rw [length_placed] at sized
  refine ⟨texts, pieces, ?_, by rw [length, sized], ?_, fun others otherTexts classes functions come => ?_⟩
  · exact written.imp fun place text => comesTo_of_render basics declared
  · obtain ⟨own, again, spelled⟩ := filled filling
    rw [steps, rendered] at again
    cases again
    rw [spelled, interleaved, gaps, words]
  -- The other definitions may need more steps than these, but the rest of the module comes to the same with more.
  · obtain ⟨bound, all⟩ := exists_bound come
    refine ⟨nofun, max least bound + 1, fun fuel le => ?_⟩
    obtain ⟨fuel, rfl⟩ := Nat.exists_eq_add_of_le' (Nat.le_trans (Nat.le_add_left 1 _) le)
    have within : max least bound ≤ fuel := Nat.le_of_succ_le_succ le
    obtain ⟨filling, rfl, rfl, words⟩ := exists_filling basics others otherTexts least fuel _ _
      (le_of_max_le_left within) classes functions (all fuel (le_of_max_le_right within))
    obtain ⟨own, written, spelled⟩ := filled filling
    rw [render_module basics, written, ← words, ← gaps, ← interleaved, ← spelled, String.ofList_toList]

/-- Passes change no definitions of a module but for marks and names that play a role. -/
theorem exists_runPasses_eq (around : Surroundings) (definitions : List Node) :
    ∃ (other : Surroundings) (prepared : List Node), built.runPasses (around.module definitions) = other.module prepared ∧
      prepared.map Node.skeleton = definitions.map Node.skeleton := by
  have skeletons : ((naming settings).run (Declaration.run (around.module definitions))).skeleton =
      (around.module definitions).skeleton := skeleton_prepared _
  have tags := congrArg Node.tag skeletons
  rw [Node.tag_skeleton, Node.tag_skeleton] at tags
  rw [runPasses_eq basics]
  generalize (naming settings).run (Declaration.run (around.module definitions)) = tree at skeletons tags ⊢
  obtain ⟨kind, type⟩ := tree
  cases kind with
  | module prepared dependencies constants customExceptions main =>
    refine ⟨⟨_, constants, customExceptions, main, type⟩, prepared, rfl, ?_⟩
    have kinds := congrArg Node.kind skeletons
    rw [Node.skeleton, Node.skeleton, Node.kind_relabel, Node.kind_relabel] at kinds
    exact (Kind.module.inj kinds).1
  | _ => cases tags

omit basics in
/-- Classes and functions keep their order, and nothing else has a place. -/
theorem filter_placed (definitions : List Node) (tag : Tag) :
    ((placed definitions).map Prod.fst).filter (·.tag == tag) =
      if tag = .classDefinition ∨ tag = .functionDefinition then definitions.filter (·.tag == tag) else [] := by
  have columns : (placed definitions).map Prod.fst =
      definitions.filter (·.tag == .classDefinition) ++ definitions.filter (·.tag == .functionDefinition) := by
    simp [placed, Function.comp_def]
  have own (tag : Tag) : (definitions.filter (·.tag == tag)).filter (·.tag == tag) = definitions.filter (·.tag == tag) := by
    rw [List.filter_filter]
    exact List.filter_congr fun _ _ => Bool.and_self _
  have apart (first second : Tag) (distinct : first ≠ second) :
      (definitions.filter (·.tag == first)).filter (·.tag == second) = [] := by
    refine List.filter_eq_nil_iff.mpr fun definition member => ?_
    rw [beq_iff_eq.mp (List.mem_filter.mp member).2, beq_iff_eq]
    exact distinct
  rw [columns, List.filter_append]
  split
  · rename_i isPlaced
    rcases isPlaced with rfl | rfl
    · rw [own, apart _ _ (by decide), List.append_nil]
    · rw [own, apart _ _ (by decide), List.nil_append]
  · rename_i other
    rw [not_or] at other
    rw [apart _ _ (Ne.symm other.1), apart _ _ (Ne.symm other.2), List.append_nil]

end Places

/-- Under any settings, each class and function of a generated module has one place in the text, where what it comes to
stands between pieces that are the same for all modules with these surroundings and as many classes and functions. The
places are in the order of the definitions, first for classes and then for functions. Other definitions have none. -/
theorem definitions_have_places :
    ∀ settings, ∃ built, profile settings = .ok built ∧
      ∀ (around : Surroundings) (definitions : List Node) text, built.renderModule (around.module definitions) = .ok text →
        ∃ (other : Surroundings) (prepared : List Node) (texts : List String) (pieces : List (List Char)),
          let declared := Profile.declaredTypes (around.module definitions)
          built.runPasses (around.module definitions) = other.module prepared ∧
          prepared.map Node.skeleton = definitions.map Node.skeleton ∧
          (∀ tag, ((placed prepared).map Prod.fst).filter (·.tag == tag) =
            if tag = .classDefinition ∨ tag = .functionDefinition then prepared.filter (·.tag == tag) else []) ∧
          PlacedTexts built declared prepared texts ∧ pieces.length = texts.length + 1 ∧
          text.toList = interleave pieces (texts.map String.toList) ∧
          ∀ others otherTexts,
            others.countP (·.tag == .classDefinition) = prepared.countP (·.tag == .classDefinition) →
            others.countP (·.tag == .functionDefinition) = prepared.countP (·.tag == .functionDefinition) →
            PlacedTexts built declared others otherTexts →
            built.ComesTo declared (other.module others) 0
              (.ok (String.ofList (interleave pieces (otherTexts.map String.toList)))) := by
  intro settings
  obtain ⟨built, builds, basics, _⟩ := exists_profile settings
  refine ⟨built, builds, fun around definitions text generated => ?_⟩
  obtain ⟨other, prepared, run, skeletons⟩ := exists_runPasses_eq basics around definitions
  obtain ⟨whole, rendered, same⟩ := (bind_eq_ok_iff _ _ _).mp generated
  cases same
  rw [declaredTypes_runPasses basics, run] at rendered
  obtain ⟨least, enough⟩ := built.exists_nesting_eq (other.module prepared).size
  rw [Profile.render, Profile.renderer, enough] at rendered
  obtain ⟨texts, pieces, written, length, interleaved, replaced⟩ := exists_places basics other prepared least rendered
  refine ⟨other, prepared, texts, pieces, run, skeletons, filter_placed prepared, written, length, ?_, replaced⟩
  have laid := (render_module basics other prepared least).symm.trans rendered
  obtain ⟨front, ends⟩ := Renderer.exists_front_of_step built.overrides _ _ 0 _ 0 "\x7d" laid
  rw [String.toList_ofList, ← interleaved, Text.trimEnd_eq_self]
  intro last finish
  rw [ends] at finish
  have brace : "\x7d".toList = ['\x7d'] := by decide
  rw [brace, List.getLast?_concat, Option.some.injEq] at finish
  exact finish ▸ rfl

/-- A module with nothing but definitions. -/
def bare : Surroundings := ⟨[], [], [], [], .void⟩

/-- A class between two functions. -/
def mixed : List Node :=
  [.ofKind (.functionDefinition "first" [] .void []), .ofKind (.classDefinition "Only" none [] none []),
    .ofKind (.functionDefinition "second" [] .void [])]

theorem mixed_have_places : ∃ built text, profile {} = .ok built ∧ built.renderModule (bare.module mixed) = .ok text ∧
    ∃ (texts : List String) (pieces : List (List Char)), texts.length = 3 ∧ pieces.length = 4 ∧
      text.toList = interleave pieces (texts.map String.toList) := by
  obtain ⟨built, builds, places⟩ := definitions_have_places {}
  obtain ⟨_, same, basics, fits⟩ := exists_profile {}
  cases builds.symm.trans same
  obtain ⟨text, generated⟩ := exists_text basics fits (bare.module mixed) ⟨rfl, by decide +kernel⟩ (by decide +kernel)
    (by decide +kernel)
  obtain ⟨_, prepared, texts, pieces, -, skeletons, -, written, length, interleaved, -⟩ :=
    places bare mixed text generated
  have counted (tag : Tag) : prepared.countP (·.tag == tag) = mixed.countP (·.tag == tag) := by
    have tags := congrArg (List.countP (·.tag == tag)) skeletons
    simpa only [List.countP_map, Function.comp_def, Node.tag_skeleton] using tags
  have three : texts.length = 3 := by
    rw [← written.length_eq, length_placed, counted, counted]
    rfl
  exact ⟨built, text, builds, generated, texts, pieces, three, by rw [length, three], interleaved⟩

/-- An exception among the definitions of a module. -/
def misplaced : Node := bare.module [.ofKind (.customException "Broken" none)]

section Misplaced

variable {built : Profile} (basics : Basics {} built)
include basics

theorem step_misplaced (declared : List String) (fuel : Nat) :
    (Rules.rendererAt built declared fuel).step built.overrides moduleTemplate misplaced 0 =
      .ok "public class Program\n\x7b\n    public static void Main()\n    \x7b\n    \x7d\n\x7d" := by
  have nothing (name : String) (tag : Tag) (depth : Nat) (registered : built.overrides.get? name = some (definitionsOf tag))
      (none : [Node.ofKind (.customException "Broken" none)].filter (·.tag == tag) = []) :
      (Rules.rendererAt built declared fuel).segment built.overrides misplaced depth (.directive (.override name)) =
        .ok "" := segment_definitions bare depth name tag registered _ _ [] (by rw [none]; rfl)
  have classes := nothing "class_definitions" .classDefinition 0 (basics.override "class_definitions" _ rfl) rfl
  have functions := nothing "function_definitions" .functionDefinition 1 (basics.override "function_definitions" _ rfl) rfl
  have indent : (Rules.rendererAt built declared fuel).target.indent = .spaces 4 := basics.indent
  simp only [Renderer.step, moduleTemplate, List.cons_append, List.nil_append, List.mapM_cons, List.mapM_nil,
    Renderer.line, Nat.zero_add, classes, functions, indent]
  rfl

end Misplaced

/-- An exception among the definitions of a module does not show in its text. -/
theorem misplaced_exception_disappears : ∃ built, profile {} = .ok built ∧ built.renderModule misplaced =
    .ok "public class Program\n\x7b\n    public static void Main()\n    \x7b\n    \x7d\n\x7d" := by
  obtain ⟨built, builds, basics, _⟩ := exists_profile {}
  refine ⟨built, builds, ?_⟩
  obtain ⟨least, enough⟩ := built.exists_nesting_eq misplaced.size
  have rendered := (render_module basics bare _ least).trans
    (step_misplaced basics (Profile.declaredTypes misplaced) least)
  rw [Profile.renderModule, runPasses_of_void basics misplaced rfl (by decide +kernel), Profile.render,
    Profile.renderer, enough]
  exact (bind_eq_ok_iff _ _ _).mpr ⟨_, rendered, rfl⟩

end CSharp
end Retarget
