import Retarget.Proofs.CasedReferences
import Retarget.Proofs.LastRegistrations
import Retarget.Proofs.LeadingUnderscores
import Retarget.Proofs.LiteralTexts
import Retarget.Proofs.PlacedDefinitions

/-! Variables of loops. A loop over a dictionary or in lock step declares a variable that is made of its first iterator,
as this is written. No other name is looked at for that, so that such a variable is another's exactly if their loops are
of one form and their iterators are cased alike, and it is a name of the program exactly if casing makes it one. -/
namespace Retarget

/-- What is left of a name on a line of its own: nothing if it is blank. -/
def shown (name : String) : String := if Text.isAllBlank name.toList then "" else name

/-- A template comes to a text that starts with its first line, if this can be seen. -/
theorem Renderer.exists_opening_of_step (overrides : OverrideTable) (renderer : Renderer) (node : Node)
    (depth level : Nat) (segments : List Segment) (filled : segments ≠ []) (lines : List Line) {text : String}
    (rendered : renderer.step overrides ⟨⟨level, segments⟩ :: lines⟩ node depth = .ok text) :
    ∃ parts, segments.mapM (renderer.segment overrides node (depth + level)) = .ok parts ∧
      (Text.isAllBlank (String.join parts).toList = false → (String.join parts).toList <+: text.toList) := by
  obtain ⟨outputs, eachLine, laid⟩ := (bind_eq_ok_iff _ _ _).mp rendered
  cases laid
  rw [List.mapM_cons] at eachLine
  obtain ⟨first, firstLine, eachLine⟩ := (bind_eq_ok_iff _ _ _).mp eachLine
  obtain ⟨others, -, same⟩ := (bind_eq_ok_iff _ _ _).mp eachLine
  cases same
  have whole : (Line.mk level segments).isBlank = false := List.isEmpty_eq_false_iff.mpr filled
  rw [Renderer.line, whole] at firstLine
  obtain ⟨parts, eachSegment, same⟩ := (bind_eq_ok_iff _ _ _).mp firstLine
  cases same
  refine ⟨parts, eachSegment, fun visible => ?_⟩
  rw [layOut, RenderedLine.kept, visible, Bool.and_false, if_neg Bool.false_ne_true, Bool.false_and,
    if_neg Bool.false_ne_true, OutputLine.toList_join]
  exact List.prefix_append _ _

/-- The convention that applies to a name in a role. -/
def Naming.convention (naming : Naming) (names : DefinedNames) : Role → String → NameCase
  | .localVar, name =>
    if name ∈ names.constants then .preserve else if name ∈ names.functions then naming.function else naming.normal
  | .caught, _ | .member, _ => naming.normal
  | .function, _ => naming.function
  | .method, _ => naming.method

theorem Naming.spelling_eq (naming : Naming) (names : DefinedNames) (role : Role) (name : String) :
    naming.spelling names role name = (naming.convention names role name).apply name := by
  cases role with
  | localVar =>
    rw [spelling, reference, convention]
    split_ifs
    · exact (NameCase.apply_preserve name).symm
    · rfl
    · rfl
  | _ => rfl

theorem Node.hasName_unmarking (tree : Node) (position : List Nat) (role : Role) (name : String) :
    (tree.relabel unmarking).HasName position role name ↔ tree.HasName position role name := by
  have role?_unmarking (node : Node) : (node.relabel unmarking).role? = node.role? := by
    obtain ⟨kind, type⟩ := node
    rw [relabel_mk]
    cases kind <;> rfl
  simp only [HasName, at?_relabel, Option.map_eq_some_iff, exists_exists_and_eq_and, role?_unmarking,
    identifier?_unmarking]

theorem Declaration.hasName_run (tree : Node) (position : List Nat) (role : Role) (name : String) :
    (run tree).HasName position role name ↔ tree.HasName position role name := by
  rw [← Node.hasName_unmarking, run, unmark_mark, Node.hasName_unmarking]

namespace CSharp

/-- The loops that a variable is made for. -/
inductive LoopForm where
  /-- Over the entries of a dictionary. -/
  | items
  /-- Over sequences in lock step. -/
  | lockStep
  deriving DecidableEq

namespace LoopForm

def tag : LoopForm → Tag
  | items => .forIteratorWithItems
  | lockStep => .forIteratorZip

def ofTag? : Tag → Option LoopForm
  | .forIteratorWithItems => some items
  | .forIteratorZip => some lockStep
  | _ => none

/-- What a variable ends in. -/
def ending : LoopForm → String
  | items => "Item"
  | lockStep => "Index"

/-- The variable of a loop whose first iterator is written as some text. -/
def variableOf (form : LoopForm) (stem : String) : String := "_" ++ (stem ++ form.ending)

/-- What the text of a loop has in front of its variable. -/
def front : LoopForm → String
  | items => "foreach (var "
  | lockStep => "for (int "

/-- What the text of a loop has behind its variable. -/
def behind : LoopForm → String
  | items => " in "
  | lockStep => " = 0; "

def opening (form : LoopForm) (stem : String) : String := form.front ++ (form.variableOf stem ++ form.behind)

def directive : LoopForm → String
  | items => "item_variable"
  | lockStep => "zip_index"

def override : LoopForm → Override
  | items => itemVariable
  | lockStep => zipCounter

theorem eq_of_ofTag? (form : LoopForm) (tag : Tag) (ofTag : ofTag? tag = some form) : tag = form.tag := by
  cases tag <;> cases ofTag <;> rfl

/-- Variables are one only if their loops are of one form and their iterators are written alike. -/
theorem variableOf_eq_iff (form other : LoopForm) (stem word : String) :
    form.variableOf stem = other.variableOf word ↔ form = other ∧ stem = word := by
  constructor
  · intro same
    have texts := congrArg (fun text => text.toList.reverse) same
    cases form <;> cases other <;> simp [variableOf, ending, String.toList_inj] at texts ⊢ <;> exact texts
  · rintro ⟨rfl, rfl⟩
    rfl

/-- The segments that declare the variable. -/
def declaration (form : LoopForm) : List Segment :=
  [.text form.front, .directive (.override form.directive), .text form.behind]

/-- Whether the first line of a template declares the variable. -/
def opens (form : LoopForm) (template : Template) : Bool :=
  match template.lines with
  | ⟨0, segments⟩ :: _ => segments.take 3 == form.declaration
  | _ => false

end LoopForm

/-- The form of a loop that a variable is made for. -/
def loopForm? (node : Node) : Option LoopForm :=
  match node.kind with
  | .forStatement iterators _ _ => LoopForm.ofTag? iterators.tag
  | _ => none

theorem loopForm?_skeleton (node : Node) : loopForm? node.skeleton = loopForm? node := by
  obtain ⟨kind, type⟩ := node
  rw [Node.skeleton, Node.relabel_mk]
  cases kind with
  | forStatement iterators => exact congrArg LoopForm.ofTag? (Node.tag_skeleton iterators)
  | _ => rfl

/-- Loops are where they are in every tree with the same skeleton. -/
theorem loopForm?_at_of_skeleton_eq {tree other : Node} (same : tree.skeleton = other.skeleton) (position : List Nat) :
    (tree.at? position).bind loopForm? = (other.at? position).bind loopForm? := by
  have inSkeleton (tree : Node) : (tree.skeleton.at? position).bind loopForm? = (tree.at? position).bind loopForm? := by
    rw [Node.skeleton, Node.at?_relabel, Option.bind_map]
    exact congrArg _ (funext loopForm?_skeleton)
  rw [← inSkeleton tree, same, inSkeleton]

/-- Dependencies are added to a tree, and its loops stay. -/
theorem mem_walk_run (library : Library) (tree : Node) {loop : Node} {form : LoopForm}
    (ofForm : loopForm? loop = some form) (member : loop ∈ tree.walk) : loop ∈ (Imports.run library tree).walk := by
  let own (node : Node) : Option Node := (loopForm? node).map fun _ => node
  have root : own (Imports.run library tree) = own tree := by
    obtain ⟨kind, type⟩ := tree
    cases kind <;> rfl
  have same := Imports.filterMap_walk_run library tree own (fun _ => rfl) root
  have listed : loop ∈ tree.walk.filterMap own :=
    List.mem_filterMap.mpr ⟨loop, member, by simp only [own, ofForm, Option.map_some]⟩
  rw [← same] at listed
  obtain ⟨node, among, isLoop⟩ := List.mem_filterMap.mp listed
  obtain ⟨_, _, rfl⟩ := Option.map_eq_some_iff.mp isLoop
  exact among

/-- A loop is written with a variable: what it comes to starts with the declaration of the variable, which is made of
what its first iterator comes to. -/
structure Declares (built : Profile) (tree : Node) (position : List Nat) (form : LoopForm) (stem text : String) :
    Prop where
  exists_loop : ∃ loop iterator declared depth, tree.at? position = some loop ∧ loopForm? loop = some form ∧
    built.ComesTo declared loop depth (.ok text) ∧ tree.at? (position ++ [0, 0]) = some iterator ∧
    built.ComesTo declared iterator depth (.ok stem)
  opens : (form.opening stem).toList <+: text.toList

section Overrides

variable {renderer : Renderer} {loop : Node} {depth : Nat} {form : LoopForm} {text : String}

/-- The variable of a loop is made of what its first iterator comes to. -/
theorem exists_stem (ofForm : loopForm? loop = some form) (written : form.override renderer loop depth = .ok text) :
    ∃ iterator stem, loop.at? [0, 0] = some iterator ∧ renderer.render iterator depth = .ok stem ∧
      text = form.variableOf stem := by
  obtain ⟨kind, type⟩ := loop
  cases kind with
  | forStatement iterators sequences body =>
    obtain ⟨iteratorKind, iteratorType⟩ := iterators
    have ofTag := form.eq_of_ofTag? _ ofForm
    cases form with
    | items =>
      cases iteratorKind with
      | forIteratorWithItems key value =>
        obtain ⟨_, isChild, written⟩ := (bind_eq_ok_iff _ _ _).mp written
        cases isChild
        obtain ⟨_, isChild, written⟩ := (bind_eq_ok_iff _ _ _).mp written
        cases isChild
        obtain ⟨stem, rendered, same⟩ := (bind_eq_ok_iff _ _ _).mp written
        cases same
        exact ⟨key, stem, rfl, rendered, String.append_assoc ..⟩
      | _ => cases ofTag
    | lockStep =>
      cases iteratorKind with
      | forIteratorZip iterators =>
        obtain ⟨parts, found, written⟩ := (bind_eq_ok_iff _ _ _).mp written
        obtain ⟨stem, rendered, same⟩ := (bind_eq_ok_iff _ _ _).mp written
        cases same
        obtain ⟨⟨_, isChild, members⟩, _⟩ := exists_of_zipParts _ parts found
        cases isChild
        cases members
        exact ⟨parts.iterator, stem, rfl, rendered, String.append_assoc ..⟩
      | _ => cases ofTag
  | _ => cases ofForm

end Overrides

section Templates

/-- Whether a switch for loops selects a template for each form that declares the variable. -/
def opensLoops : Parsed → Bool
  | .entry _ (.switch switch) =>
    switch.on == ⟨"iterators", []⟩ && [LoopForm.items, .lockStep].all fun form =>
      (switch.select? form.tag.name).any form.opens
  | _ => false

theorem LoopForm.exists_lines (form : LoopForm) (template : Template) (opens : form.opens template = true) :
    ∃ segments lines, template = ⟨⟨0, form.declaration ++ segments⟩ :: lines⟩ := by
  obtain ⟨lines⟩ := template
  rw [LoopForm.opens] at opens
  split at opens
  · rename_i segments lines same
    cases same
    refine ⟨segments.drop 3, lines, ?_⟩
    rw [← beq_iff_eq.mp opens, List.take_append_drop]
  · cases opens

set_option maxRecDepth 8000 in
theorem exists_loopSwitch {settings : LanguageSettings} {built : Profile} (builds : profile settings = .ok built) :
    ∃ switch, built.entries.get? .forStatement = some (.switch switch) ∧ switch.on = ⟨"iterators", []⟩ ∧
      ∀ form : LoopForm, ∃ template, switch.select? form.tag.name = some template ∧ form.opens template = true := by
  have item := (Profile.keeps_of_build builds).items (.entry .forStatement)
  obtain ⟨registration, passes, last⟩ : ∃ registration : Registration, registration.Passes opensLoops ∧
      ((registrations settings).filter (·.key? = some (.entry .forStatement))).getLast? = some registration :=
    ⟨_, Registration.passes_switch _ _ [(_, _), (_, _), (_, _)] _ (by decide), rfl⟩
  obtain ⟨parsed, parses, checked⟩ := passes.exists_parsed
  rw [last] at item
  dsimp only at item
  rw [parses] at item
  obtain ⟨entry, found, rfl⟩ := Option.map_eq_some_iff.mp item
  cases entry with
  | template template => cases checked
  | switch switch =>
    rw [opensLoops, Bool.and_eq_true, beq_iff_eq, List.all_eq_true] at checked
    refine ⟨switch, found, checked.1, fun form => ?_⟩
    have listed : form ∈ [LoopForm.items, .lockStep] := by cases form <;> decide
    exact (Option.any_eq_true _ _).mp (checked.2 form listed)

end Templates

theorem LoopForm.override_eq {settings : LanguageSettings} {built : Profile} (basics : Basics settings built)
    (form : LoopForm) : built.overrides.get? form.directive = some form.override := by
  cases form with
  | items => exact basics.override "item_variable" _ rfl
  | lockStep => exact basics.override "zip_index" _ rfl

section Texts

variable {settings : LanguageSettings} {built : Profile} (basics : Basics settings built) (declared : List String)
  {fuel depth : Nat} {text : String}
include basics

/-- A local comes to its name at every depth. -/
theorem comesTo_localVar (name : String) (type : SemType) :
    built.ComesTo declared (.localVar name type) depth (.ok (shown name)) := by
  by_cases blank : Text.isAllBlank name.toList = true
  · have placed := Renderer.segment_placeholder built.overrides (Rules.rendererAt built declared 0)
      (.localVar name type) (depth + 0) "name" _ rfl
    have registered : (Rules.rendererAt built declared 1).target.entry? (Node.localVar name type).tag = _ :=
      entry_localVar basics
    have rendered : (Rules.rendererAt built declared 1).render (.localVar name type) depth = .ok "" := by
      rw [Renderer.render, registered]
      change Renderer.step built.overrides (Rules.rendererAt built declared 0) _ _ _ = _
      simp only [Renderer.step, attributeTemplate, List.mapM_cons, List.mapM_nil, Renderer.line, placed]
      change Except.ok (layOut _ [.content (depth + 0) true (String.join [name])]) = _
      simp [layOut, RenderedLine.kept, OutputLine.join, blank]
    rw [shown, if_pos blank]
    exact comesTo_of_render basics declared rendered
  · rw [shown, if_neg blank]
    exact comesTo_of_render basics declared
      (render_localVar basics declared 0 depth name type (Bool.eq_false_iff.mpr blank))

/-- A template whose first line declares the variable of a loop comes to a text that starts with the declaration. -/
theorem exists_opening {loop : Node} {form : LoopForm} (ofForm : loopForm? loop = some form) (segments : List Segment)
    (lines : List Line) (written : (Rules.rendererAt built declared fuel).step built.overrides
      ⟨⟨0, form.declaration ++ segments⟩ :: lines⟩ loop depth = .ok text) :
    ∃ iterator stem, loop.at? [0, 0] = some iterator ∧
      (Rules.rendererAt built declared fuel).render iterator depth = .ok stem ∧
      (form.opening stem).toList <+: text.toList := by
  obtain ⟨parts, eachSegment, starts⟩ :=
    Renderer.exists_opening_of_step built.overrides _ loop depth 0 _ (by simp [LoopForm.declaration]) lines written
  obtain ⟨front, part, behind, rest, rfl, onFront, onPart, onBehind⟩ : ∃ front part behind rest,
      parts = front :: part :: behind :: rest ∧
      (Rules.rendererAt built declared fuel).segment built.overrides loop depth (.text form.front) = .ok front ∧
      (Rules.rendererAt built declared fuel).segment built.overrides loop depth
        (.directive (.override form.directive)) = .ok part ∧
      (Rules.rendererAt built declared fuel).segment built.overrides loop depth (.text form.behind) = .ok behind := by
    rcases (mapM_eq_ok_iff _ _ _).mp eachSegment with _ | ⟨first, _ | ⟨second, _ | ⟨third, _⟩⟩⟩
    exact ⟨_, _, _, _, rfl, first, second, third⟩
  cases onFront
  cases onBehind
  rw [Renderer.segment_override built.overrides _ loop _ _ form.override (form.override_eq basics)] at onPart
  obtain ⟨iterator, stem, isFirst, rendered, rfl⟩ := exists_stem ofForm onPart
  have joined : (String.join (form.front :: form.variableOf stem :: form.behind :: rest)).toList =
      (form.opening stem).toList ++ (String.join rest).toList := by
    simp [LoopForm.opening, String.join_cons]
  have visible : Text.isAllBlank (form.opening stem).toList = false := by
    rw [LoopForm.opening, isAllBlank_append]
    cases form <;> rfl
  rw [joined] at starts
  refine ⟨iterator, stem, isFirst, rendered, (List.prefix_append _ _).trans (starts ?_)⟩
  exact isAllBlank_eq_false_of_infix (List.prefix_append _ _).isInfix visible

omit basics in
/-- A loop that a variable is made for is written by a template that declares the variable. -/
theorem exists_step (builds : profile settings = .ok built) {loop : Node} {form : LoopForm}
    (ofForm : loopForm? loop = some form)
    (rendered : (Rules.rendererAt built declared fuel).render loop depth = .ok text) :
    ∃ less segments lines, (Rules.rendererAt built declared less).step built.overrides
      ⟨⟨0, form.declaration ++ segments⟩ :: lines⟩ loop depth = .ok text := by
  obtain ⟨switch, entry, on, selects⟩ := exists_loopSwitch builds
  obtain ⟨template, selected, opens⟩ := selects form
  obtain ⟨segments, lines, rfl⟩ := form.exists_lines template opens
  cases fuel with
  | zero =>
    obtain ⟨cause, failed⟩ : ∃ cause, (Rules.rendererAt built declared 0).render loop depth = .error cause :=
      render_zero declared loop depth
    rw [failed] at rendered
    cases rendered
  | succ less =>
    refine ⟨less, segments, lines, ?_⟩
    have registered : (Rules.rendererAt built declared (less + 1)).target.entry? .forStatement = _ := entry
    obtain ⟨kind, type⟩ := loop
    cases kind with
    | forStatement iterators sequences body =>
      rw [Renderer.render, Node.tag, Kind.tag, registered] at rendered
      dsimp only at rendered
      rw [on] at rendered
      obtain ⟨_, resolved, rendered⟩ := (bind_eq_ok_iff _ _ _).mp rendered
      cases resolved
      obtain ⟨_, discriminant, rendered⟩ := (bind_eq_ok_iff _ _ _).mp rendered
      cases discriminant
      rw [form.eq_of_ofTag? _ ofForm, selected] at rendered
      exact rendered
    | _ => cases ofForm

theorem exists_declares (builds : profile settings = .ok built) {tree loop : Node} {position : List Nat}
    {form : LoopForm} (found : tree.at? position = some loop) (ofForm : loopForm? loop = some form)
    (rendered : (Rules.rendererAt built declared fuel).render loop depth = .ok text) :
    ∃ stem, Declares built tree position form stem text := by
  obtain ⟨less, segments, lines, written⟩ := exists_step declared builds ofForm rendered
  obtain ⟨iterator, stem, isFirst, iteratorRendered, opens⟩ :=
    exists_opening basics declared ofForm segments lines written
  have below : tree.at? (position ++ [0, 0]) = some iterator := (tree.at?_append loop position _ found).trans isFirst
  exact ⟨stem, ⟨loop, iterator, declared, depth, found, ofForm, comesTo_of_render basics declared rendered, below,
    comesTo_of_render basics declared iteratorRendered⟩, opens⟩

end Texts

/-- A loop of a tree whose loops match, whose calls are in the library and whose types are known has a text. -/
theorem exists_loopText {settings : LanguageSettings} {built : Profile} (basics : Basics settings built)
    (fits : rules.FitsProfile built) {tree loop : Node} {position : List Nat} {form : LoopForm}
    (loops : tree.LoopsMatch) (calls : ∀ node ∈ tree.walk, node.callsKnown built.library = true)
    (known : ∀ node ∈ tree.walk, ∀ type ∈ node.types, type.isKnown types (Profile.declaredTypes tree) = true)
    (found : ((naming settings).run (Declaration.run tree)).at? position = some loop)
    (ofForm : loopForm? loop = some form) : ∃ text, built.render (Profile.declaredTypes tree) loop 0 = .ok text := by
  have writable : tree.AllWritable (fun _ => False) built.toTarget (Profile.declaredTypes tree) := fun node member =>
    ⟨loops.2 node member, fun type typed => by
      rw [basics.types]
      exact SemType.render_safe _ _ _ (.inl (known node member type typed)),
      fun call absent => absurd absent (node.operation?_ne_none_of_callsKnown _ (calls node member) call)⟩
  have prepared : Node.Everywhere _ ((naming settings).run (Declaration.run tree)) :=
    Node.forall_walk_of_relabel_eq erasing (Node.writable_skeleton _ _ _) (skeleton_prepared tree).symm writable
  have isPart : loop.tag.isPart = false := by
    obtain ⟨kind, type⟩ := loop
    cases kind with
    | forStatement => rfl
    | _ => cases ofForm
  exact exists_of_safe (render_safe_of_writable basics fits
    (prepared.below loop (Node.mem_walk_of_at? _ loop position found)) isPart 0)

section Names

theorem hasName_generated (settings : LanguageSettings) {tree : Node} {place : List Nat} {role : Role} {name : String}
    (named : tree.HasName place role name) : ((naming settings).run (Declaration.run tree)).HasName place role
      ((naming settings).spelling (.ofTree tree) role name) :=
  ((naming settings).hasName_run_iff _ place role _).mpr
    ⟨name, (Declaration.hasName_run tree place role name).mpr named, by rw [DefinedNames.ofTree_mark]⟩

/-- If the first iterator of a loop is a local, the variable of the loop is made of its name. -/
theorem Declares.stem_eq {settings : LanguageSettings} {built : Profile} (basics : Basics settings built) {tree : Node}
    {position : List Nat} {form : LoopForm} {stem text name : String}
    (declares : Declares built tree position form stem text)
    (named : tree.HasName (position ++ [0, 0]) .localVar name) : stem = shown name := by
  obtain ⟨_, _, declared, depth, _, _, _, isFirst, comes⟩ := declares.exists_loop
  obtain ⟨⟨kind, type⟩, found, role, called⟩ := named
  cases isFirst.symm.trans found
  cases kind with
  | localVar own =>
    cases called
    exact Except.ok.inj (comes.unique (comesTo_localVar basics declared name type))
  | _ => cases role

/-- A name is cased to the variable of a loop only if it starts with an underscore, or with a hyphen, and what stands
behind the underscore is cased to the rest of the variable. -/
theorem LoopForm.variableOf_eq_apply_iff (form : LoopForm) (stem name : String) (convention : NameCase) :
    (form.variableOf stem = convention.apply name → name.toList.head? = some '_' ∨ name.toList.head? = some '-') ∧
      ∀ rest, name = "_" ++ rest →
        (form.variableOf stem = convention.apply name ↔ convention.apply rest = stem ++ form.ending) := by
  constructor
  · intro clash
    by_contra other
    rw [not_or] at other
    obtain ⟨inner, rfl, _⟩ := (convention.apply_eq_underscore_iff other.2 _).mp clash.symm
    exact other.1 (by simp)
  · rintro rest rfl
    rw [convention.apply_underscore, variableOf, String.append_right_inj, eq_comm]

end Names

/-- Under any settings, each loop over entries or in lock step is written with a variable that is made of what its first
iterator comes to, which is its cased name if this is a local. A name of the program is cased to the variable only if it
starts with an underscore or with a hyphen, and behind an underscore exactly if its rest is cased to that of the
variable. Two loops, one inside the other or not, have one variable exactly if they are of one form and their first
iterators come to the same. -/
theorem loop_variables_clash_iff :
    ∀ settings, ∃ built, profile settings = .ok built ∧ ∀ tree : Node,
      let names := DefinedNames.ofTree tree
      let generated := (naming settings).run (Declaration.run tree)
      (∀ position form, (tree.at? position).bind loopForm? = some form →
        ∃ loop ∈ (built.runPasses tree).walk, generated.at? position = some loop ∧
          (tree.LoopsMatch → (∀ node ∈ tree.walk, node.callsKnown built.library = true) →
            (∀ node ∈ tree.walk, ∀ type ∈ node.types, type.isKnown types (Profile.declaredTypes tree) = true) →
            ∃ text, built.render (Profile.declaredTypes tree) loop 0 = .ok text) ∧
          ∀ declared fuel depth text, (Rules.rendererAt built declared fuel).render loop depth = .ok text →
            ∃ stem, Declares built generated position form stem text) ∧
      ∀ position form stem text, Declares built generated position form stem text →
        (∀ first, tree.HasName (position ++ [0, 0]) .localVar first →
          stem = shown ((naming settings).spelling names .localVar first)) ∧
        (∀ place role name, tree.HasName place role name →
          generated.HasName place role ((naming settings).spelling names role name) ∧
          (form.variableOf stem = (naming settings).spelling names role name →
            name.toList.head? = some '_' ∨ name.toList.head? = some '-') ∧
          ∀ rest, name = "_" ++ rest → (form.variableOf stem = (naming settings).spelling names role name ↔
            ((naming settings).convention names role name).apply rest = stem ++ form.ending)) ∧
        ∀ place other word following, Declares built generated place other word following →
          (form.variableOf stem = other.variableOf word ↔ form = other ∧ stem = word) := by
  intro settings
  obtain ⟨built, builds, basics, fits⟩ := exists_profile settings
  refine ⟨built, builds, fun tree => ⟨fun position form isLoop => ?_, fun position form stem text declares =>
    ⟨fun first named => ?_, fun place role name named => ?_, fun place other word _ _ => ?_⟩⟩⟩
  · rw [← loopForm?_at_of_skeleton_eq (skeleton_prepared tree), Option.bind_eq_some_iff] at isLoop
    obtain ⟨loop, found, ofForm⟩ := isLoop
    refine ⟨loop, ?_, found, fun loops calls known => ?_, fun declared fuel depth text rendered => ?_⟩
    · rw [runPasses_eq basics]
      exact mem_walk_run _ _ ofForm (Node.mem_walk_of_at? _ loop position found)
    · exact exists_loopText basics fits loops calls known found ofForm
    · exact exists_declares basics declared builds found ofForm rendered
  · exact declares.stem_eq basics (hasName_generated settings named)
  · rw [(naming settings).spelling_eq]
    exact ⟨(naming settings).spelling_eq .. ▸ hasName_generated settings named,
      form.variableOf_eq_apply_iff stem name _⟩
  · exact form.variableOf_eq_iff other stem word

/-- A program that stores a local and goes over the entries of a dictionary in one loop inside another. -/
def nestedEntries (stored outer inner : String) : Node :=
  let scores := Node.localVar "scores" (.container "Dictionary" [.named "String", .named "Int"])
  let loop key value := Node.forEachWithItems (.localVar key (.named "String")) (.localVar value (.named "Int")) scores
  (ModuleDraft.statements {} [.assignment (.localVar stored (.named "Int")) (.int 0),
    loop outer "points" [loop inner "others" []]]).build

theorem nestedEntries_calls (library : Library) (stored outer inner : String) :
    ∀ node ∈ (nestedEntries stored outer inner).walk, node.callsKnown library = true := by
  repeat refine List.forall_mem_cons.mpr ⟨rfl, ?_⟩
  exact List.forall_mem_nil _

theorem nested_loops_have_variables :
    let tree := nestedEntries "_name" "name" "other"
    let generated := (naming {}).run (Declaration.run tree)
    (tree.at? [1]).bind loopForm? = some .items ∧ (tree.at? [1, 2]).bind loopForm? = some .items ∧ tree.LoopsMatch ∧
      (∀ node ∈ tree.walk, ∀ type ∈ node.types, type.isKnown types (Profile.declaredTypes tree) = true) ∧
      ∃ built text inner, profile {} = .ok built ∧ (∀ node ∈ tree.walk, node.callsKnown built.library = true) ∧
        Declares built generated [1] .items "name" text ∧ Declares built generated [1, 2] .items "other" inner ∧
        generated.HasName [0, 0] .localVar "_name" ∧ LoopForm.items.variableOf "name" ≠ "_name" ∧
        LoopForm.items.variableOf "name" ≠ LoopForm.items.variableOf "other" := by
  intro tree generated
  obtain ⟨built, builds, each⟩ := loop_variables_clash_iff {}
  obtain ⟨written, clashes⟩ := each tree
  have loops : tree.LoopsMatch := ⟨rfl, by decide +kernel⟩
  have known : ∀ node ∈ tree.walk, ∀ type ∈ node.types, type.isKnown types (Profile.declaredTypes tree) = true := by
    decide +kernel
  have calls := nestedEntries_calls built.library "_name" "name" "other"
  have declares (position : List Nat) (first : String) (isLoop : (tree.at? position).bind loopForm? = some .items)
      (named : tree.HasName (position ++ [0, 0]) .localVar first)
      (kept : shown ((naming {}).spelling (.ofTree tree) .localVar first) = first) :
      ∃ text, Declares built generated position .items first text := by
    obtain ⟨loop, _, _, exists_text, all⟩ := written position .items isLoop
    obtain ⟨text, rendered⟩ := exists_text loops calls known
    obtain ⟨stem, declares⟩ := all _ _ 0 text rendered
    obtain rfl : stem = first := ((clashes _ _ _ _ declares).1 first named).trans kept
    exact ⟨text, declares⟩
  obtain ⟨text, outer⟩ := declares [1] "name" rfl ⟨_, rfl, rfl, rfl⟩ (by decide +kernel)
  obtain ⟨inner, nested⟩ := declares [1, 2] "other" rfl ⟨_, rfl, rfl, rfl⟩ (by decide +kernel)
  have stored : tree.HasName [0, 0] .localVar "_name" := ⟨_, rfl, rfl, rfl⟩
  have spelled : (naming {}).spelling (.ofTree tree) .localVar "_name" = "_name" := by decide +kernel
  obtain ⟨_, names, others⟩ := clashes _ _ _ _ outer
  obtain ⟨isName, _, behind⟩ := names [0, 0] .localVar "_name" stored
  rw [spelled] at isName behind
  refine ⟨rfl, rfl, loops, known, built, text, inner, builds, calls, outer, nested, isName, ?_, ?_⟩
  · rw [Ne, behind "name" rfl]
    decide +kernel
  · rw [Ne, others _ _ _ _ nested]
    decide

/-- Different keys are cased alike, so that a loop and the one inside it share a variable. It is a local as well. -/
theorem nested_loops_share_variable :
    let tree := nestedEntries "_aBItem" "a_b" "aB"
    let generated := (naming {}).run (Declaration.run tree)
    tree.HasName [1, 0, 0] .localVar "a_b" ∧ tree.HasName [1, 2, 0, 0] .localVar "aB" ∧
      generated.HasName [0, 0] .localVar (LoopForm.items.variableOf "aB") ∧
      ∃ built text inner, profile {} = .ok built ∧ Declares built generated [1] .items "aB" text ∧
        Declares built generated [1, 2] .items "aB" inner := by
  intro tree generated
  obtain ⟨built, builds, basics, fits⟩ := exists_profile {}
  have calls := nestedEntries_calls built.library "_aBItem" "a_b" "aB"
  have declares (position : List Nat) (key : String) (isLoop : (tree.at? position).bind loopForm? = some .items)
      (named : tree.HasName (position ++ [0, 0]) .localVar key)
      (cased : shown ((naming {}).spelling (.ofTree tree) .localVar key) = "aB") :
      ∃ text, Declares built generated position .items "aB" text := by
    have skeletons : generated.skeleton = tree.skeleton := skeleton_prepared tree
    rw [← loopForm?_at_of_skeleton_eq skeletons, Option.bind_eq_some_iff] at isLoop
    obtain ⟨loop, found, ofForm⟩ := isLoop
    obtain ⟨text, rendered⟩ :=
      exists_loopText basics fits ⟨rfl, by decide +kernel⟩ calls (by decide +kernel) found ofForm
    obtain ⟨stem, declares⟩ := exists_declares basics _ builds found ofForm rendered
    obtain rfl : stem = "aB" := (declares.stem_eq basics (hasName_generated {} named)).trans cased
    exact ⟨text, declares⟩
  obtain ⟨text, outer⟩ := declares [1] "a_b" rfl ⟨_, rfl, rfl, rfl⟩ (by decide +kernel)
  obtain ⟨inner, nested⟩ := declares [1, 2] "aB" rfl ⟨_, rfl, rfl, rfl⟩ (by decide +kernel)
  have stored : tree.HasName [0, 0] .localVar "_aBItem" := ⟨_, rfl, rfl, rfl⟩
  have spelled : (naming {}).spelling (.ofTree tree) .localVar "_aBItem" = LoopForm.items.variableOf "aB" := by
    decide +kernel
  have isName := hasName_generated {} stored
  rw [spelled] at isName
  exact ⟨⟨_, rfl, rfl, rfl⟩, ⟨_, rfl, rfl, rfl⟩, isName, built, text, inner, builds, outer, nested⟩

end CSharp
end Retarget
