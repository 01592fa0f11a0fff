import Retarget.Proofs.BlanklessTrees
import Retarget.Proofs.ContainedTexts
import Retarget.Proofs.OverrideOutlines
import Retarget.Proofs.Stability

/-! Line ends in generated C#. The templates of the C# target have the outlines that are known of them, so that a tidy
module comes to a text without blanks at the ends of its lines. -/
namespace Retarget

/-- What is parsed comes to what is known of it, and dependencies have names. -/
def Outlines.parsedFits (outlines : Outlines) : Parsed → Bool
  | .entry tag entry => outlines.entryIsSolid tag entry
  | .optional tag name pair => outlines.pairFits tag name pair
  | .function _ _ entry => outlines.template? (.ofTag .standardCall) entry.template = some .solid &&
      entry.dependency.all fun dependency => IsName dependency
  | .method _ _ entry => outlines.template? (.ofTag .standardMethodCall) entry.template = some .solid &&
      entry.dependency.all fun dependency => IsName dependency
  | .typeDependency _ dependency => IsName dependency
  | _ => true

namespace CSharp

set_option maxRecDepth 8000 in
theorem templates_outlined : ∀ registration ∈ templates, registration.Passes outlines.parsedFits := by
  repeat
    refine List.forall_mem_cons.mpr ⟨?_, ?_⟩
    · first
      | exact Registration.passes_template _ _ (by decide)
      | exact Registration.passes_optional _ _ _ _ (by decide)
      | exact Registration.passes_switch _ _ [(_, _)] _ (by decide)
      | exact Registration.passes_switch _ _ [(_, _), (_, _), (_, _)] _ (by decide)
  exact List.forall_mem_nil _

theorem libraryFunctions_outlined : ∀ registration ∈ libraryFunctions, registration.Passes outlines.parsedFits := by
  repeat
    refine List.forall_mem_cons.mpr ⟨?_, ?_⟩
    · exact Registration.passes_function _ _ _ _ (by decide)
  exact List.forall_mem_nil _

theorem libraryMethods_outlined : ∀ registration ∈ libraryMethods, registration.Passes outlines.parsedFits := by
  repeat
    refine List.forall_mem_cons.mpr ⟨?_, ?_⟩
    · exact Registration.passes_method _ _ _ _ (by decide)
  exact List.forall_mem_nil _

theorem typeDependencies_outlined : ∀ registration ∈ typeDependencies, registration.Passes outlines.parsedFits := by
  repeat refine List.forall_mem_cons.mpr ⟨⟨⟨_, rfl, by decide⟩⟩, ?_⟩
  exact List.forall_mem_nil _

theorem registrations_outlined (settings : LanguageSettings) :
    ∀ registration ∈ registrations settings, registration.Passes outlines.parsedFits :=
  registrations_pass settings (fun found general => by cases found <;> first | rfl | cases general)
    typeDependencies_outlined libraryFunctions_outlined libraryMethods_outlined templates_outlined

section Built

variable {settings : LanguageSettings} {built : Profile} (builds : profile settings = .ok built)
include builds

theorem tables_outlined : built.toTarget.Holds fun found => outlines.parsedFits found = true :=
  Profile.holds_of_build builds fun registration among =>
    (registrations_outlined settings registration among).check_eq

theorem outlines_describe (terminator : built.terminator = ";") : outlines.Describes built.toTarget where
  entries := (tables_outlined builds).entries
  pairs := (tables_outlined builds).optionals
  functions space name entry stored :=
    of_decide_eq_true (Bool.and_eq_true_iff.mp ((tables_outlined builds).functions space name entry stored)).1
  methods receiver name entry stored :=
    of_decide_eq_true (Bool.and_eq_true_iff.mp ((tables_outlined builds).methods receiver name entry stored)).1
  terminator := by
    rw [terminator]
    exact (Outline.holds_ofChars (by decide) : Outline.solid.Holds ";".toList).dispensable

theorem library_named : built.library.Supplies IsName := by
  have names {dependency : Option String} (all : (dependency.all fun name => decide (IsName name)) = true) :
      ∀ name ∈ dependency, IsName name := fun name given => by
    rw [given] at all
    exact of_decide_eq_true all
  constructor
  · intro space name entry stored
    exact names (Bool.and_eq_true_iff.mp ((tables_outlined builds).functions space name entry stored)).2
  · intro receiver name entry stored
    exact names (Bool.and_eq_true_iff.mp ((tables_outlined builds).methods receiver name entry stored)).2
  · intro type dependency stored
    exact of_decide_eq_true ((tables_outlined builds).typeDependencies type dependency stored)

/-- A tidy tree comes to a solid text. -/
theorem render_solid (basics : Basics settings built) (declared : List String)
    (names : ∀ name ∈ declared, Trimmed name) (tree : Node) (tidy : tree.AllTidy) (depth : Nat) :
    Gives .solid (built.render declared tree depth) := by
  have describes := outlines_describe builds basics.terminator
  have spellings (name : String) (spelling : TypeSyntax) (found : built.types.get? name = some spelling) :
      spelling.IsTrimmed := by
    rw [basics.types] at found
    have listed : ∀ entry ∈ types.entries, entry.2.IsTrimmed := by decide
    exact listed _ (Table.mem_entries_of_get? types name spelling found)
  refine (rendererAt_follows describes ⟨spellings, names⟩ ?_ _).render tidy depth
  intro name override tag outline registered known
  obtain ⟨rule, listed, rfl, rfl⟩ := basics.noOthers name override registered
  exact overrides_follow built declared rule listed tag outline known

end Built

end CSharp

namespace Node

/-- The names and operators in a tree are names, and its patterns have no line feed. -/
structure WellNamed (tree : Node) : Prop where
  names : ∀ node ∈ tree.walk, ∀ name ∈ node.names, IsName name
  patterns : ∀ node ∈ tree.walk, ∀ pattern ∈ node.patterns, Unbroken pattern

instance (tree : Node) : Decidable tree.WellNamed :=
  decidable_of_iff (_ ∧ _) ⟨fun ⟨names, patterns⟩ => ⟨names, patterns⟩, fun named => ⟨named.names, named.patterns⟩⟩

/-- No block statement in a tree is empty. -/
def BlocksFilled (tree : Node) : Prop := ∀ node ∈ tree.walk, node.tag = .block → node.children ≠ []

instance (tree : Node) : Decidable tree.BlocksFilled :=
  inferInstanceAs (Decidable (∀ node ∈ tree.walk, node.tag = .block → node.children ≠ []))

end Node

namespace CSharp

/-- The statements of the main block stand two steps inside a module. -/
def hasMain (template : Template) : Bool :=
  template.lines.any fun line => line.level = 2 && line.segments.contains (.directive (.join ⟨"main", []⟩ .statements))

set_option maxRecDepth 8000 in
theorem exists_moduleTemplate :
    ∃ template, Template.parse Tag.module.name Templates.module = .ok template ∧ hasMain template = true :=
  Registration.exists_template hasMain _ _ (by decide)

section Blocks

variable {settings : LanguageSettings} {built : Profile} (basics : Basics settings built)
include basics

theorem entry_block : built.entries.get? .block =
    some (.template ⟨[⟨0, [.directive (.join ⟨"block", []⟩ .statements)]⟩]⟩) :=
  basics.templates .block "%<block:stmts>" _ rfl ((Template.parse_ofList _ _).trans (by decide))

theorem render_emptyBlock (declared : List String) (fuel depth : Nat) (type : SemType) :
    (Rules.rendererAt built declared (fuel + 1)).render ⟨.block [], type⟩ depth = .ok "" := by
  have found : (Rules.rendererAt built declared (fuel + 1)).target.entry? .block = _ := entry_block basics
  have nothing := Renderer.segment_join built.overrides (Rules.rendererAt built declared fuel)
    ⟨.block [], type⟩ (depth + 0) "block" .statements [] rfl
  rw [Renderer.render, Node.tag, Kind.tag, found]
  change Renderer.step built.overrides (Rules.rendererAt built declared fuel) _ _ _ = _
  simp only [Renderer.step, Renderer.line, Line.isBlank, List.mapM_cons, List.mapM_nil, nothing]
  rfl

theorem render_localVar (declared : List String) (fuel depth : Nat) (name : String) (type : SemType)
    (filled : Text.isAllBlank name.toList = false) :
    (Rules.rendererAt built declared (fuel + 1)).render (.localVar name type) depth = .ok name :=
  render_attribute declared fuel depth _ "name" (.text name) _ (entry_localVar basics) rfl rfl filled

/-- A module contains its main block. -/
theorem infix_mainBlock (declared : List String) (fuel : Nat) (tree : Node) (main : List Node)
    (whole : tree.tag = .module) (stored : tree.attr? "main" = some (.nodes main)) {text block : String}
    (rendered : (Rules.rendererAt built declared (fuel + 1)).render tree 0 = .ok text)
    (inner : (Rules.rendererAt built declared fuel).renderBlock main 2 .statements = .ok block)
    (filled : Text.isAllBlank block.toList = false) : block.toList <:+: text.toList := by
  obtain ⟨template, parses, holds⟩ := exists_moduleTemplate
  obtain ⟨line, listed, placed⟩ := List.any_eq_true.mp holds
  rw [Bool.and_eq_true, decide_eq_true_eq, List.contains_iff_mem] at placed
  have entry : (Rules.rendererAt built declared (fuel + 1)).target.entry? tree.tag = some (.template template) := by
    rw [whole]
    exact basics.templates .module Templates.module template rfl parses
  rw [Renderer.render, entry] at rendered
  refine Renderer.infix_of_step built.overrides (Rules.rendererAt built declared fuel) tree 0 template line listed _
    placed.2 rendered ?_ filled
  rw [Renderer.segment_join _ _ _ _ _ _ _ stored, placed.1]
  exact inner

/-- Passes leave a tree without library calls and results whose nodes are void, if nothing in it is to be renamed or
marked. -/
theorem runPasses_of_void (tree : Node) (settled : (naming settings).run (Declaration.run tree) = tree)
    (void : ∀ node ∈ tree.walk, node.type = .void ∧ Imports.returnType? node = none ∧
      [Tag.standardCall, .standardMethodCall].contains node.tag = false) : built.runPasses tree = tree := by
  have required : Imports.required built.library tree = [] := by
    have walked : tree.walk.flatMap (Imports.ofNode built.library) = [] := by
      refine List.flatMap_eq_nil_iff.mpr fun node member => ?_
      obtain ⟨isVoid, noResult, noCall⟩ := void node member
      have operation : Imports.operation? built.library node = none := by
        obtain ⟨kind, type⟩ := node
        cases kind with
        | standardCall | standardMethodCall => cases noCall
        | _ => rfl
      rw [Imports.ofNode, isVoid, noResult, operation, void_dependencies basics]
      rfl
    rw [Imports.required, walked]
    rfl
  rw [runPasses_eq basics, settled]
  obtain ⟨kind, type⟩ := tree
  cases kind with
  | module definitions dependencies constants customExceptions main =>
    rw [Imports.run, required]
    exact congrArg (fun all => Node.mk (.module definitions all constants customExceptions main) type)
      (List.append_nil dependencies)
  | _ => rfl

/-- A tree without library calls is generated if its loops match and its types are known. -/
theorem exists_text (fits : rules.FitsProfile built) (tree : Node) (loops : tree.LoopsMatch)
    (plain : ∀ node ∈ tree.walk, [Tag.standardCall, .standardMethodCall].contains node.tag = false)
    (known : ∀ node ∈ tree.walk, ∀ type ∈ node.types, type.isKnown types (Profile.declaredTypes tree) = true) :
    ∃ text, built.renderModule tree = .ok text := by
  refine exists_of_safe (renderModule_safe basics fits tree loops.1 fun node member => ?_)
  refine ⟨loops.2 node member, fun type typed => ?_, fun call => ?_⟩
  · rw [basics.types]
    exact SemType.render_safe _ _ _ (.inl (known node member type typed))
  · rw [plain node member] at call
    cases call

end Blocks

/-- No line of a generated module ends in a blank, if no block of the module is empty and no name of it is cased to
nothing. -/
theorem lines_end_visibly (settings : LanguageSettings) (built : Profile) (builds : profile settings = .ok built)
    (tree : Node) (named : tree.WellNamed) (blocks : tree.BlocksFilled)
    (cased : ((naming settings).run tree).NamesFilled) (text : String) (generated : built.renderModule tree = .ok text) :
    ∀ line ∈ Text.splitOn '\n' text.toList, Text.trimEnd line = line := by
  obtain ⟨other, same, basics, _⟩ := exists_profile settings
  cases builds.symm.trans same
  have plain (node : Node) (below : node ∈ tree.walk) : node.Plain :=
    ⟨named.names node below, named.patterns node below, blocks node below⟩
  have marked : ∀ node ∈ (Declaration.run tree).walk, node.Plain :=
    Node.forall_walk_of_relabel_eq unmarking Node.plain_unmarking (Declaration.unmark_mark tree []).symm plain
  have filled := Node.namesFilled_run_mark (naming settings) tree cased
  have renamed : ∀ node ∈ ((naming settings).run (Declaration.run tree)).walk, node.Plain := by
    rw [Node.NamesFilled, Naming.run_eq, Node.walk_relabel, List.forall_mem_map] at filled
    rw [Naming.run_eq, Node.walk_relabel, List.forall_mem_map]
    exact fun node below => Node.plain_renamed _ _ node (marked node below) (filled node below)
  have tidy : (built.runPasses tree).AllTidy := by
    rw [runPasses_eq basics]
    exact fun node below => (Imports.plain_run (library_named builds) _ renamed node below).tidy
  have declared (name : String) (listed : name ∈ Profile.declaredTypes (built.runPasses tree)) : Trimmed name := by
    rw [declaredTypes_runPasses basics] at listed
    obtain ⟨node, below, own⟩ := Profile.exists_of_mem_declaredTypes tree name listed
    exact (named.names node below name own).trimmed
  obtain ⟨whole, rendered, same⟩ := (bind_eq_ok_iff _ _ _).mp generated
  cases same
  have solid := render_solid builds basics _ declared _ tidy 0 whole rendered
  rw [String.toList_ofList, Text.trimEnd_eq_self _ (solid.visibleEnd rfl)]
  exact solid.trimEnd_eq

/-- A loop around a block, and a condition without statements. -/
def framed : Node :=
  (ModuleDraft.statements {} [.whileStatement (.boolean true) [.ofKind (.block [.localVar "a" .void])],
    .ifStatement (.boolean true) [] none]).build

theorem framed_ends_visibly :
    framed.WellNamed ∧ framed.BlocksFilled ∧ ((naming {}).run framed).NamesFilled ∧
      ∃ built text, profile {} = .ok built ∧ built.renderModule framed = .ok text ∧
        ∀ line ∈ Text.splitOn '\n' text.toList, Text.trimEnd line = line := by
  have named : framed.WellNamed := by decide +kernel
  have blocks : framed.BlocksFilled := by decide +kernel
  have cased : ((naming {}).run framed).NamesFilled := by decide +kernel
  obtain ⟨built, same, basics, fits⟩ := exists_profile {}
  obtain ⟨text, generated⟩ := exists_text basics fits framed ⟨rfl, by decide +kernel⟩ (by decide +kernel)
    (by decide +kernel)
  exact ⟨named, blocks, cased, built, text, same, generated,
    lines_end_visibly {} built same framed named blocks cased text generated⟩

/-- Two statements with an empty block between them. -/
def hollow : Node :=
  (ModuleDraft.statements {} [.localVar "a" .void, .ofKind (.block []), .localVar "b" .void]).build

section Hollow

variable {built : Profile} (basics : Basics {} built)
include basics

theorem renderBlock_hollow (declared : List String) (fuel : Nat) :
    (Rules.rendererAt built declared (fuel + 1)).renderBlock
      [.localVar "a" .void, .ofKind (.block []), .localVar "b" .void] 2 .statements =
        .ok "a;\n        \n        b;" := by
  have first := render_localVar basics declared fuel 2 "a" .void (by decide)
  have second := render_emptyBlock basics declared fuel 2 .void
  have third := render_localVar basics declared fuel 2 "b" .void (by decide)
  have margin : (Rules.rendererAt built declared (fuel + 1)).separator 2 .statements = "\n        " := by
    rw [Renderer.separator, Renderer.indent, Rules.rendererAt, basics.indent]
    rfl
  have terminator : (Rules.rendererAt built declared (fuel + 1)).target.terminator = ";" := basics.terminator
  simp only [Renderer.renderBlock, List.mapM_cons, List.mapM_nil, Node.ofKind, first, second, third, margin,
    Renderer.terminator, terminator]
  rfl

end Hollow

/-- Between two statements an empty block comes to a line of its indentation. -/
theorem empty_block_leaves_blanks :
    hollow.WellNamed ∧ ∃ built text, profile {} = .ok built ∧ built.renderModule hollow = .ok text ∧
      ∃ line ∈ Text.splitOn '\n' text.toList, Text.trimEnd line ≠ line := by
  obtain ⟨built, same, basics, fits⟩ := exists_profile {}
  obtain ⟨text, generated⟩ := exists_text basics fits hollow ⟨rfl, by decide +kernel⟩ (by decide +kernel)
    (by decide +kernel)
  refine ⟨by decide +kernel, built, text, same, generated, "        ".toList, ?_, by decide⟩
  obtain ⟨whole, rendered, trimmed⟩ := (bind_eq_ok_iff _ _ _).mp generated
  cases trimmed
  rw [runPasses_of_void basics hollow rfl (by decide +kernel)] at rendered
  obtain ⟨rest, enough⟩ : ∃ rest, built.nesting hollow.size = rest + 2 :=
    ⟨_, (Nat.sub_add_cancel (Nat.le_trans (by decide) (Nat.le_mul_of_pos_right _ (Nat.succ_pos _)))).symm⟩
  rw [Profile.render, Profile.renderer, enough] at rendered
  have block := renderBlock_hollow basics (Profile.declaredTypes hollow) rest
  have within := infix_mainBlock basics _ _ hollow _ rfl rfl rendered block (by decide)
  have blanks : '\n' :: "        ".toList ++ ['\n'] <:+: "a;\n        \n        b;".toList :=
    ⟨"a;".toList, "        b;".toList, rfl⟩
  have spelled : "a;\n        \n        b;".toList = "a;\n        \n        b".toList ++ [';'] := rfl
  rw [spelled] at within blanks
  rw [String.toList_ofList]
  exact Text.mem_splitOn_of_infix '\n' (by decide) (blanks.trans (Text.infix_trimEnd rfl within))

end CSharp
end Retarget
