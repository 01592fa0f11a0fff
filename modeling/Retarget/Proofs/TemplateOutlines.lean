import Retarget.Proofs.SpelledTypes
import Retarget.Proofs.UnbrokenTemplates
import Retarget.Proofs.WritingTrees

/-! Outlines of templates. What is known of the texts that a template comes to is computed from the template, given
what is known of its pairs and overrides. It holds for every tidy node: one whose names and operators are solid, and
where neither a pattern is broken nor a block empty. -/
namespace Retarget

/-- Tags of literals whose text is written in quotes. -/
def Tag.isQuoted (tag : Tag) : Bool := tag == .string || tag == .regex

def Kind.texts (kind : Kind α) : List String := kind.values.flatMap Field.texts

namespace Node

/-- The names and operators in a node, which are written as they are. -/
def names (node : Node) : List String := if node.tag.isQuoted then [] else node.kind.texts

/-- The pattern of a node, quoted but not escaped. -/
def patterns (node : Node) : List String := if node.tag = .regex then node.kind.texts else []

structure Tidy (node : Node) : Prop where
  names : ∀ name ∈ node.names, Outline.solid.Holds name.toList
  patterns : ∀ pattern ∈ node.patterns, Unbroken pattern
  block : node.tag = .block → node.children ≠ []

def AllTidy (tree : Node) : Prop := ∀ node ∈ tree.walk, node.Tidy

variable {node : Node}

/-- The one text of a quoted literal is its value. -/
theorem eq_value_of_attr? (quoted : node.tag.isQuoted = true) (name text : String)
    (found : node.attr? name = some (.text text)) : name = "value" := by
  obtain ⟨kind, type⟩ := node
  rw [attr?_eq] at found
  split at found
  · cases found
  · have single (value : Field Node) (found : [("value", value)].lookup name = some (.text text)) : name = "value" := by
      obtain ⟨before, after, listed, _⟩ := List.lookup_eq_some_iff.mp found
      have member : (name, .text text) ∈ [("value", value)] := by simp [listed]
      exact congrArg Prod.fst (List.mem_singleton.mp member)
    cases kind with
    | string value => exact single _ found
    | regex value => exact single _ found
    | _ => cases quoted

/-- What is not quoted is a name. -/
theorem mem_names_of_attr? (name text : String) (found : node.attr? name = some (.text text))
    (plain : name ≠ "value" ∨ node.tag.isQuoted = false) : text ∈ node.names := by
  have unquoted : node.tag.isQuoted = false := by
    rcases plain with other | unquoted
    · rw [← Bool.not_eq_true]
      exact fun quoted => other (eq_value_of_attr? quoted name text found)
    · exact unquoted
  rcases mem_values_of_attr? node name _ found with same | stored
  · cases same
  · rw [Node.names, unquoted]
    exact List.mem_flatMap.mpr ⟨_, stored, List.mem_singleton_self text⟩

theorem mem_names_of_textAt (name text : String) (other : name ≠ "value") (found : node.textAt name = .ok text) :
    text ∈ node.names := by
  rw [Node.textAt] at found
  split at found <;> cases found
  rename_i stored
  exact mem_names_of_attr? name text stored (.inl other)

variable (tidy : node.AllTidy)
include tidy

theorem AllTidy.self : node.Tidy := Everywhere.self tidy

theorem AllTidy.child (child : Node) (member : child ∈ node.children) : child.AllTidy :=
  Everywhere.child tidy child member

theorem AllTidy.member (name : String) (field : Field Node) (found : node.attr? name = some field) (child : Node)
    (member : child ∈ field.members) : child.AllTidy := Everywhere.member tidy name field found child member

theorem AllTidy.sequenceAt (name : String) (nodes : List Node) (found : node.sequenceAt name = .ok nodes) :
    ∀ inner ∈ nodes, inner.AllTidy := Everywhere.sequenceAt tidy name nodes found

theorem AllTidy.childAt (name : String) (child : Node) (found : node.childAt name = .ok child) : child.AllTidy :=
  Everywhere.childAt tidy name child found

theorem AllTidy.textAt (name text : String) (other : name ≠ "value") (found : node.textAt name = .ok text) :
    Outline.solid.Holds text.toList := tidy.self.names text (mem_names_of_textAt name text other found)

/-- A block has members. -/
theorem AllTidy.block (isBlock : node.tag = .block) :
    ∃ nodes, node.attr? "block" = some (.nodes nodes) ∧ nodes ≠ [] := by
  have filled := tidy.self.block isBlock
  obtain ⟨kind, type⟩ := node
  cases kind with
  | block body => exact ⟨body, rfl, filled⟩
  | _ => cases isBlock

end Node

/-- What is known of a node that a template is expanded for: its tag, and perhaps for some name the name of the tag that
a child there has. -/
structure Ground where
  tag : Tag
  child : Option (String × String)

namespace Ground

def ofTag (tag : Tag) : Ground := ⟨tag, none⟩

structure Holds (ground : Ground) (node : Node) : Prop where
  tag : node.tag = ground.tag
  child : ∀ entry ∈ ground.child, ∀ inner, node.attr? entry.1 = some (.node inner) → inner.tag.name = entry.2

theorem holds_ofTag (node : Node) : (ofTag node.tag).Holds node := ⟨rfl, nofun⟩

/-- Whether a path leads to a name, an operator, or something that is no text. -/
def avoidsQuoted (ground : Ground) (path : Path) : Bool :=
  match path.rest with
  | [] => path.first != "value" || !ground.tag.isQuoted
  | [name] =>
    name != "value" || ground.child.any fun entry =>
      entry.1 == path.first && entry.2 != Tag.string.name && entry.2 != Tag.regex.name
  | _ => false

/-- Such a path leads to a name, if it leads to a text. -/
theorem mem_names_of_resolve {ground : Ground} {node : Node} (holds : ground.Holds node) (path : Path)
    (avoids : ground.avoidsQuoted path = true) (resolved : Resolved) (found : node.resolve path = .ok resolved)
    (text : String) (isText : resolved.field = .text text) : ∃ owner ∈ node.walk, text ∈ owner.names := by
  obtain ⟨first, rest⟩ := path
  rw [Node.resolve] at found
  cases rest with
  | nil =>
    simp only [Node.resolveFrom] at found
    split at found <;> cases found
    rename_i field stored
    cases isText
    refine ⟨node, node.mem_walk_self, Node.mem_names_of_attr? first text stored ?_⟩
    simpa [avoidsQuoted, holds.tag] using avoids
  | cons name further =>
    cases further with
    | cons => cases avoids
    | nil =>
      simp only [Node.resolveFrom] at found
      split at found
      · rename_i child isChild
        split at found <;> cases found
        rename_i field stored
        cases isText
        have member := node.mem_children_of_attr? first _ isChild child List.mem_cons_self
        refine ⟨child, Node.mem_walk_of_mem_children member child.mem_walk_self,
          Node.mem_names_of_attr? name text stored ?_⟩
        simp only [avoidsQuoted, Bool.or_eq_true, bne_iff_ne, Option.any_eq_true, Bool.and_eq_true, beq_iff_eq] at avoids
        rcases avoids with other | ⟨entry, known, ⟨same, noString⟩, noRegex⟩
        · exact .inl other
        · refine .inr ?_
          have tagged := holds.child entry known child (by rw [same]; exact isChild)
          rw [← Bool.not_eq_true, Tag.isQuoted, Bool.or_eq_true, beq_iff_eq, beq_iff_eq]
          rintro (isString | isRegex)
          · exact noString (by rw [← tagged, isString])
          · exact noRegex (by rw [← tagged, isRegex])
      all_goals cases found

end Ground

/-- A check passes the templates of an entry. The cases of a switch tell the tag of the child that it looks at. -/
def Entry.passes (check : Ground → Template → Bool) (tag : Tag) : Entry → Bool
  | .template body => check (.ofTag tag) body
  | .switch choice =>
    (choice.on.rest.isEmpty && choice.cases.all fun entry => check ⟨tag, some (choice.on.first, entry.1)⟩ entry.2) &&
      choice.default.all fun body => check (.ofTag tag) body

/-- A node is rendered by a template that passes, if its entry does. -/
theorem Renderer.exists_ground {check : Ground → Template → Bool} {renderer : Renderer} {node : Node} {depth : Nat}
    {text : String}
    (passes : ∀ entry, renderer.target.entry? node.tag = some entry → entry.passes check node.tag = true)
    (rendered : renderer.render node depth = .ok text) :
    ∃ ground template, ground.Holds node ∧ check ground template = true ∧
      renderer.expand template node depth = .ok text := by
  rw [Renderer.render] at rendered
  split at rendered
  · cases rendered
  · rename_i template stored
    exact ⟨_, template, Ground.holds_ofTag node, passes _ stored, rendered⟩
  · rename_i switch stored
    have passed := passes _ stored
    simp only [Entry.passes, Bool.and_eq_true, List.isEmpty_iff, List.all_eq_true,
      Option.all_eq_true_iff_get] at passed
    obtain ⟨⟨single, cases⟩, default⟩ := passed
    obtain ⟨resolved, found, rendered⟩ := (bind_eq_ok_iff _ _ _).mp rendered
    obtain ⟨key, discriminates, rendered⟩ := (bind_eq_ok_iff _ _ _).mp rendered
    split at rendered
    · cases rendered
    · rename_i template selected
      rw [Switch.select?, Option.or_eq_some_iff] at selected
      rcases selected with inCases | ⟨_, isDefault⟩
      · obtain ⟨before, after, listed, _⟩ := List.lookup_eq_some_iff.mp inCases
        have member : (key, template) ∈ switch.cases := by simp [listed]
        refine ⟨_, template, ⟨rfl, fun entry known inner isChild => ?_⟩, cases _ member, rendered⟩
        cases known
        simp only [Node.resolve, single, Node.resolveFrom, isChild] at found
        cases found
        cases discriminates
        rfl
      · simp only [isDefault] at default
        exact ⟨_, template, Ground.holds_ofTag node, default rfl, rendered⟩

instance : DecidablePred JoinMode.Inline
  | .separator text => inferInstanceAs (Decidable (Unbroken text))
  | .lines => .isTrue trivial
  | .statements => .isTrue trivial
  | .paragraphs => .isTrue trivial

/-- What the pairs and the overrides of a profile are known to come to for nodes of a tag. -/
structure Outlines where
  pairs : Tag → String → Option Outline
  overrides : Tag → String → Option Outline

namespace Outlines

variable (outlines : Outlines) (ground : Ground)

/-- Joined members are solid if there is one; in a block there is. -/
def joined (path : Path) (mode : JoinMode) : Option Outline :=
  if mode.Inline then some (if ground.tag = .block ∧ path = ⟨"block", []⟩ then .solid else .dispensable) else none

def directive? : Directive → Option Outline
  | .placeholder path => if ground.avoidsQuoted path then some .solid else none
  | .join path mode => joined ground path mode
  | .type _ => some .solid
  | .optional name => outlines.pairs ground.tag name
  | .override name => outlines.overrides ground.tag name

def segment? : Segment → Option Outline
  | .text value => Outline.ofChars? value.toList
  | .directive directive => outlines.directive? ground directive

def segments? : List Segment → Option Outline
  | [] => some .dispensable
  | segment :: rest => do (← outlines.segment? ground segment).append? (← segments? rest)

/-- Whether a line is solid where it stays, and does not go without a directive. -/
def lineIsSolid (line : Line) : Bool :=
  (outlines.segments? ground line.segments).any fun outline =>
    outline.visibleStart && outline.sameLine && outline.visibleEnd &&
      (line.isBlank || line.hasDirective || outline.filled)

def lineIsFilled (line : Line) : Bool :=
  !line.isBlank && (outlines.segments? ground line.segments).any (·.filled)

/-- A template of one line comes to what the line does, unless it comes to blanks and goes. -/
def template? (template : Template) : Option Outline :=
  match template.lines with
  | [line] => (outlines.segments? ground line.segments).filter fun outline =>
      !outline.filled || (outline.visibleStart || outline.visibleEnd)
  | lines =>
    if lines.all (outlines.lineIsSolid ground) then
      some { Outline.dispensable with filled := lines.any (outlines.lineIsFilled ground) }
    else none

/-- The templates of an entry are solid. -/
def entryIsSolid (tag : Tag) (entry : Entry) : Bool :=
  entry.passes (fun ground template => outlines.template? ground template = some .solid) tag

/-- The templates of a pair come to what is known of it. -/
def pairFits (tag : Tag) (name : String) (pair : OptionalPair) : Bool :=
  (outlines.pairs tag name).all fun outline =>
    (outlines.template? (.ofTag tag) pair.present).any fun present =>
      (outlines.template? (.ofTag tag) pair.fallback).any fun fallback => present.either fallback = outline

/-- A target whose tables hold what is known of them. -/
structure Describes (target : Target) : Prop where
  entries : ∀ tag entry, target.entry? tag = some entry → outlines.entryIsSolid tag entry = true
  pairs : ∀ tag name pair, target.optional? tag name = some pair → outlines.pairFits tag name pair = true
  functions : ∀ space name entry, target.library.function? space name = some entry →
    outlines.template? (.ofTag .standardCall) entry.template = some .solid
  methods : ∀ receiver name entry, target.library.method? receiver name = some entry →
    outlines.template? (.ofTag .standardMethodCall) entry.template = some .solid
  terminator : Outline.dispensable.Holds target.terminator.toList

end Outlines

/-- A value, if there is one, has a property. -/
def Ensures (P : α → Prop) (result : Except GenerateError α) : Prop := ∀ value, result = .ok value → P value

namespace Ensures

theorem ok {P : α → Prop} {value : α} (holds : P value) : Ensures P (.ok value) := by
  rintro _ ⟨⟩
  exact holds

theorem error {P : α → Prop} (cause : GenerateError) : Ensures P (.error cause) := nofun

theorem bind {P : β → Prop} {first : Except GenerateError α} {next : α → Except GenerateError β}
    (continued : ∀ value, first = .ok value → Ensures P (next value)) : Ensures P (first >>= next) := by
  intro result came
  obtain ⟨value, found, came⟩ := (bind_eq_ok_iff _ _ _).mp came
  exact continued value found result came

end Ensures

/-- A text, if there is one, has the outline. -/
abbrev Gives (outline : Outline) (result : Except GenerateError String) : Prop :=
  Ensures (fun text => outline.Holds text.toList) result

theorem gives_ok {outline : Outline} {text : String} (holds : outline.Holds text.toList) :
    Gives outline (.ok text) := .ok holds

theorem gives_error {outline : Outline} (cause : GenerateError) : Gives outline (.error cause) := .error cause

theorem Gives.bind {outline : Outline} {first : Except GenerateError α} {next : α → Except GenerateError String}
    (continued : ∀ value, first = .ok value → Gives outline (next value)) : Gives outline (first >>= next) :=
  Ensures.bind continued

/-- Whatever is made of each thing in a list. -/
theorem forall_mem_of_mapM {f : α → Except GenerateError β} {xs : List α} {ys : List β} {P : β → Prop}
    (mapped : xs.mapM f = .ok ys) (each : ∀ x ∈ xs, ∀ y, f x = .ok y → P y) : ∀ y ∈ ys, P y := by
  intro y listed
  obtain ⟨x, among, found⟩ := exists_of_forall₂ ((mapM_eq_ok_iff ..).mp mapped).flip y listed
  exact each x among y found

variable {outlines : Outlines}

/-- A renderer that expands templates to texts with their outlines. -/
structure Renderer.Follows (outlines : Outlines) (renderer : Renderer) : Prop where
  describes : outlines.Describes renderer.target
  types : TrimmedTypes renderer.target.types renderer.declared
  expand : ∀ template ground outline node depth, node.AllTidy → ground.Holds node →
    outlines.template? ground template = some outline → Gives outline (renderer.expand template node depth)

namespace Renderer

theorem neatBreaks_separator (renderer : Renderer) (depth : Nat) (mode : JoinMode) (clean : mode.Inline) :
    NeatBreaks (renderer.separator depth mode).toList := by
  cases mode with
  | separator text => exact .of_notMem clean
  | lines => exact renderer.target.indent.neatBreaks_lineBreak depth
  | statements => exact renderer.target.indent.neatBreaks_lineBreak depth
  | paragraphs => exact renderer.target.indent.neatBreaks_blankLine depth

variable {renderer : Renderer} (follows : renderer.Follows outlines) {node : Node} (tidy : node.AllTidy) (depth : Nat)
include follows

theorem Follows.type (type : SemType) (text : String) (rendered : renderer.renderType type = .ok text) :
    Outline.solid.Holds text.toList := (SemType.trimmed_render follows.types type text rendered).solid

theorem Follows.typeOf (resolved : Resolved) : Gives .solid (renderer.typeOf resolved) := by
  rw [Renderer.typeOf]
  split
  · exact follows.type _
  · exact follows.type _
  · exact gives_error _

include tidy

/-- A tidy node is solid. -/
theorem Follows.render : Gives .solid (renderer.render node depth) := by
  intro text rendered
  obtain ⟨ground, template, holds, solid, rendered⟩ :=
    Renderer.exists_ground (fun entry stored => follows.describes.entries _ entry stored) rendered
  exact follows.expand template ground _ node depth tidy holds (of_decide_eq_true solid) text rendered

omit tidy in
/-- Tidy nodes are joined to nothing or to a solid text. -/
theorem Follows.renderBlock (nodes : List Node) (tidy : ∀ inner ∈ nodes, inner.AllTidy) (mode : JoinMode)
    (clean : mode.Inline) : Gives .dispensable (renderer.renderBlock nodes depth mode) ∧
      (nodes ≠ [] → Gives .solid (renderer.renderBlock nodes depth mode)) := by
  have member (inner : Node) (among : inner ∈ nodes) : Gives .solid do
      return (← renderer.render inner depth) ++ renderer.terminator mode inner := by
    refine .bind fun text rendered => gives_ok ?_
    have ended : Outline.dispensable.Holds (renderer.terminator mode inner).toList := by
      rw [Renderer.terminator]
      split
      · exact follows.describes.terminator
      · exact Outline.holds_nil
    rw [String.toList_append]
    exact (follows.render (tidy inner among) depth text rendered).append ended rfl
  have neat := renderer.neatBreaks_separator depth mode clean
  refine ⟨.bind fun members mapped => gives_ok ?_, fun some => .bind fun members mapped => gives_ok ?_⟩
  · exact Outline.holds_intercalate_dispensable neat members (forall_mem_of_mapM mapped member)
  · refine Outline.holds_intercalate neat members (forall_mem_of_mapM mapped member) ?_
    rintro rfl
    cases (mapM_eq_ok_iff ..).mp mapped
    exact some rfl

theorem Follows.place {ground : Ground} (holds : ground.Holds node) (path : Path)
    (avoids : ground.avoidsQuoted path = true) (resolved : Resolved) (found : node.resolve path = .ok resolved) :
    Gives .solid (renderer.place resolved depth) := by
  have written {text : String} (blankless : Blankless text) (filled : text ≠ "") : Gives .solid (.ok text) :=
    gives_ok (blankless.trimmed filled).solid
  obtain ⟨owner, below, has⟩ := node.exists_owner_of_resolve path resolved found
  have tidyOwner : owner.AllTidy := fun inner lower => tidy inner (Node.mem_walk_trans below lower)
  rw [Renderer.place]
  split
  · rename_i child isChild
    rw [isChild] at has
    exact follows.render (tidyOwner.member _ _ has child List.mem_cons_self) depth
  · rename_i text isText
    obtain ⟨owner, below, named⟩ := ground.mem_names_of_resolve holds path avoids resolved found text isText
    exact gives_ok ((tidy owner below).names text named)
  · exact written (blankless_toString_int _) (toString_int_ne_empty _)
  · exact written (Decimal.blankless_write _) (Decimal.write_ne_empty _)
  · split <;> exact written (by decide) (by decide)
  · exact follows.type _
  · exact gives_error _
  · exact gives_error _

theorem Follows.join {ground : Ground} (holds : ground.Holds node) (path : Path) (mode : JoinMode) (outline : Outline)
    (known : Outlines.joined ground path mode = some outline) (resolved : Resolved)
    (found : node.resolve path = .ok resolved) : Gives outline (renderer.join resolved mode depth) := by
  obtain ⟨owner, below, has⟩ := node.exists_owner_of_resolve path resolved found
  have tidyOwner : owner.AllTidy := fun inner lower => tidy inner (Node.mem_walk_trans below lower)
  rw [Outlines.joined] at known
  split at known <;> cases known
  rename_i clean
  split
  · rename_i inBlock
    obtain ⟨isBlock, rfl⟩ := inBlock
    obtain ⟨nodes, stored, filled⟩ := tidy.block (holds.tag.trans isBlock)
    simp only [Node.resolve, Node.resolveFrom, stored] at found
    cases found
    exact (follows.renderBlock depth nodes (tidy.member _ _ stored) mode clean).2 filled
  · rw [Renderer.join]
    split
    · rename_i nodes members
      rw [members] at has
      exact (follows.renderBlock depth nodes (tidyOwner.member _ _ has) mode clean).1
    · exact gives_ok Outline.holds_nil
    · exact gives_error _

section Templates

variable {ground : Ground} (holds : ground.Holds node) (overrides : OverrideTable)
  (sound : ∀ name override outline, overrides.get? name = some override →
    outlines.overrides ground.tag name = some outline → ∀ depth, Gives outline (override renderer node depth))
include holds sound

theorem Follows.directive (directive : Directive) (outline : Outline)
    (known : outlines.directive? ground directive = some outline) :
    Gives outline (renderer.directive overrides node depth directive) := by
  cases directive with
  | placeholder path =>
    rw [Outlines.directive?] at known
    split at known <;> cases known
    rename_i avoids
    exact .bind fun resolved found => follows.place tidy depth holds path avoids resolved found
  | join path mode =>
    exact .bind fun resolved found => follows.join tidy depth holds path mode outline known resolved found
  | type path =>
    cases known
    exact .bind fun resolved _ => follows.typeOf resolved
  | optional name =>
    rw [Renderer.directive]
    split
    · exact gives_error _
    · exact gives_error _
    · rename_i field pair _ stored
      have fits := follows.describes.pairs _ name pair stored
      rw [holds.tag, Outlines.pairFits, show outlines.pairs ground.tag name = some outline from known] at fits
      simp only [Option.all_some, Option.any_eq_true, decide_eq_true_eq] at fits
      obtain ⟨present, presentIs, fallback, fallbackIs, rfl⟩ := fits
      have plain : (Ground.ofTag ground.tag).Holds node := holds.tag ▸ Ground.holds_ofTag node
      intro text rendered
      split at rendered
      · exact (follows.expand _ _ _ node depth tidy plain fallbackIs text rendered).right present
      · exact (follows.expand _ _ _ node depth tidy plain presentIs text rendered).left fallback
  | override name =>
    rw [Renderer.directive]
    split
    · exact gives_error _
    · rename_i override registered
      exact sound name override outline registered known depth

theorem Follows.segments (segments : List Segment) (outline : Outline)
    (known : outlines.segments? ground segments = some outline) (parts : List String)
    (rendered : segments.mapM (renderer.segment overrides node depth) = .ok parts) :
    outline.Holds (String.join parts).toList := by
  induction segments generalizing outline parts with
  | nil =>
    cases known
    cases rendered
    exact Outline.holds_nil
  | cons segment rest ih =>
    simp only [Outlines.segments?, Option.bind_eq_bind, Option.bind_eq_some_iff] at known
    obtain ⟨first, isFirst, others, areOthers, fit⟩ := known
    rw [List.mapM_cons, bind_eq_ok_iff] at rendered
    obtain ⟨text, here, rendered⟩ := rendered
    obtain ⟨texts, later, same⟩ := (bind_eq_ok_iff _ _ _).mp rendered
    cases same
    have holdsFirst : first.Holds text.toList := by
      cases segment with
      | text value =>
        cases here
        exact Outline.holds_ofChars isFirst
      | directive directive =>
        exact follows.directive tidy depth holds overrides sound directive first isFirst text here
    rw [String.join_cons, String.toList_append]
    exact holdsFirst.append (ih others areOthers texts later) fit

theorem Follows.line (line : Line) (rendered : RenderedLine)
    (came : renderer.line overrides node depth line = .ok rendered) :
    (outlines.lineIsSolid ground line = true → rendered.Solid) ∧
      (outlines.lineIsFilled ground line = true → rendered.Filled) := by
  rw [Renderer.line] at came
  split at came
  · rename_i blank
    cases came
    exact ⟨fun _ => .blank, fun filled => by simp [Outlines.lineIsFilled, blank] at filled⟩
  · rename_i whole
    obtain ⟨parts, mapped, same⟩ := (bind_eq_ok_iff _ _ _).mp came
    cases same
    have text (outline : Outline) (known : outlines.segments? ground line.segments = some outline) :=
      follows.segments tidy _ holds overrides sound line.segments outline known parts mapped
    constructor
    · intro solid
      simp only [Outlines.lineIsSolid, Option.any_eq_true, Bool.and_eq_true, Bool.or_eq_true, whole, Bool.false_eq_true,
        false_or] at solid
      obtain ⟨outline, known, ⟨⟨visibleStart, sameLine⟩, visibleEnd⟩, filled⟩ := solid
      have came := text outline known
      refine .content ⟨came.neat, fun known => absurd known Bool.false_ne_true,
        fun _ => came.visibleStart visibleStart, fun _ => came.sameLine sameLine,
        fun _ => came.visibleEnd visibleEnd⟩ fun plain => came.filled (filled.resolve_left ?_)
      rw [plain]
      exact Bool.false_ne_true
    · intro filled
      simp only [Outlines.lineIsFilled, Option.any_eq_true, Bool.and_eq_true] at filled
      obtain ⟨_, outline, known, filled⟩ := filled
      exact (text outline known).filled filled

/-- A template comes to texts of its outline. -/
theorem Follows.step (template : Template) (outline : Outline)
    (known : outlines.template? ground template = some outline) :
    Gives outline (renderer.step overrides template node depth) := by
  refine .bind fun lines mapped => gives_ok ?_
  rw [mapM_eq_ok_iff] at mapped
  rw [Outlines.template?] at known
  split at known
  · rename_i line single
    rw [single] at mapped
    obtain ⟨rendered, _, came, rest, rfl⟩ := List.forall₂_cons_left_iff.mp mapped
    cases rest
    obtain ⟨isKnown, visible⟩ := Option.filter_eq_some_iff.mp known
    rw [Renderer.line] at came
    split at came
    · rename_i blank
      cases came
      rw [Line.isBlank, List.isEmpty_iff] at blank
      rw [blank] at isKnown
      cases isKnown
      exact Outline.holds_nil
    · obtain ⟨parts, joined, same⟩ := (bind_eq_ok_iff _ _ _).mp came
      cases same
      have text := follows.segments tidy _ holds overrides sound line.segments outline isKnown parts joined
      rw [layOut_content]
      split
      · rename_i gone
        refine Outline.holds_nil_of_not_filled (Bool.eq_false_iff.mpr fun filled => ?_)
        simp only [filled, Bool.not_true, Bool.false_or, Bool.or_eq_true] at visible
        rw [text.isAllBlank_eq_false filled visible, Bool.and_false] at gone
        cases gone
      · exact text
  · split at known <;> cases known
    rename_i solid
    have solidLines (rendered : RenderedLine) (among : rendered ∈ lines) : rendered.Solid := by
      obtain ⟨source, listed, came⟩ := exists_of_forall₂ mapped.flip rendered among
      have isSolid := List.all_eq_true.mp solid source listed
      exact (follows.line tidy depth holds overrides sound source rendered came).1 isSolid
    have laidOut := holds_layOut renderer.target.indent solidLines
    refine ⟨laidOut.1.neat, fun filled => laidOut.2 ?_, laidOut.1.visibleStart, laidOut.1.sameLine,
      laidOut.1.visibleEnd⟩
    obtain ⟨source, listed, filled⟩ := List.any_eq_true.mp filled
    obtain ⟨rendered, among, came⟩ := exists_of_forall₂ mapped source listed
    exact ⟨rendered, among, (follows.line tidy depth holds overrides sound source rendered came).2 filled⟩

end Templates

end Renderer

section Profiles

variable (outlines : Outlines) (profile : Profile) (declared : List String)

/-- An override gives texts of the outline that is known for a tag, as long as the renderers that it may be called with
do for templates. -/
def Override.Follows (override : Override) (tag : Tag) (outline : Outline) : Prop :=
  ∀ fuel, (∀ less ≤ fuel, (Rules.rendererAt profile declared less).Follows outlines) →
    ∀ node depth, node.tag = tag → node.AllTidy →
      Gives outline (override (Rules.rendererAt profile declared fuel) node depth)

variable {outlines profile declared}

/-- All renderers of a profile come to texts of the outlines that are known, if its tables and overrides do. -/
theorem rendererAt_follows (describes : outlines.Describes profile.toTarget)
    (types : TrimmedTypes profile.types declared)
    (sound : ∀ name override tag outline, profile.overrides.get? name = some override →
      outlines.overrides tag name = some outline → override.Follows outlines profile declared tag outline)
    (fuel : Nat) :
    (Rules.rendererAt profile declared fuel).Follows outlines := by
  -- An override may expand templates inside those that it asks for, so one step back is not enough for it.
  induction fuel using Nat.strongRecOn with
  | ind fuel ih =>
    refine ⟨describes, types, fun template ground outline node depth tidy holds known => ?_⟩
    cases fuel with
    | zero => exact gives_error _
    | succ fuel =>
      have below : ∀ less ≤ fuel, (Rules.rendererAt profile declared less).Follows outlines :=
        fun less smaller => ih less (Nat.lt_succ_of_le smaller)
      refine (below fuel (Nat.le_refl fuel)).step tidy depth holds profile.overrides ?_ template outline known
      intro name override outline registered isKnown depth
      exact sound name override ground.tag outline registered isKnown fuel below node depth holds.tag tidy

end Profiles
end Retarget
