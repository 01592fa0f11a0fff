import Retarget.Proofs.Attributes
import Retarget.Proofs.BlanklessTexts
import Retarget.Proofs.Building
import Retarget.Render.Type

/-! Unbroken texts, those without a line feed. Numbers are written on one line, and so are types whose names and
spellings are; a node is unbroken if all texts in it and all that its types are spelled with are. -/
namespace Retarget

/-- No line feed is in the text. -/
def Unbroken (text : String) : Prop := '\n' ∉ text.toList

instance (text : String) : Decidable (Unbroken text) := inferInstanceAs (Decidable (¬ _ ∈ _))

def AllUnbroken (texts : List String) : Prop := ∀ text ∈ texts, Unbroken text

instance (texts : List String) : Decidable (AllUnbroken texts) := inferInstanceAs (Decidable (∀ _ ∈ _, _))

section Texts

@[simp]
theorem unbroken_append (first second : String) : Unbroken (first ++ second) ↔ Unbroken first ∧ Unbroken second := by
  simp [Unbroken]

@[simp]
theorem unbroken_ofList (chars : List Char) : Unbroken (String.ofList chars) ↔ '\n' ∉ chars := by
  simp [Unbroken]

theorem allUnbroken_append (texts others : List String) :
    AllUnbroken (texts ++ others) ↔ AllUnbroken texts ∧ AllUnbroken others := List.forall_mem_append

theorem unbroken_intercalate (separator : String) (pieces : List String) (apart : Unbroken separator)
    (clean : AllUnbroken pieces) : Unbroken (separator.intercalate pieces) := by
  induction pieces with
  | nil => simp [Unbroken]
  | cons first rest ih =>
    rw [AllUnbroken, List.forall_mem_cons] at clean
    cases rest with
    | nil => simpa using clean.1
    | cons second rest =>
      rw [String.intercalate_cons_cons, unbroken_append, unbroken_append]
      exact ⟨⟨clean.1, apart⟩, ih clean.2⟩

theorem Text.notMem_replaceFrom (c : Char) (pattern replacement : List Char) (skip : Nat) (text : List Char)
    (clean : c ∉ text) (cleanReplacement : c ∉ replacement) : c ∉ replaceFrom pattern replacement skip text := by
  fun_induction replaceFrom pattern replacement skip text with
  | case1 => exact List.not_mem_nil
  | case2 skip d rest ih => exact ih (mt (List.mem_cons_of_mem d) clean)
  | case3 d rest starts ih =>
    rw [List.mem_append, not_or]
    exact ⟨cleanReplacement, ih (mt (List.mem_cons_of_mem d) clean)⟩
  | case4 d rest other ih =>
    rw [List.mem_cons, not_or] at clean ⊢
    exact ⟨clean.1, ih clean.2⟩

end Texts

section Numbers

theorem Blankless.unbroken {text : String} (blankless : Blankless text) : Unbroken text :=
  fun feed => absurd (blankless '\n' feed) (by decide)

theorem unbroken_toString_nat (value : Nat) : Unbroken (toString value) := (blankless_toString_nat value).unbroken

theorem unbroken_toString_int (value : Int) : Unbroken (toString value) := (blankless_toString_int value).unbroken

theorem Decimal.unbroken_write (value : Float) : Unbroken (Style.source.write value) :=
  (blankless_write value).unbroken

end Numbers

section Types

namespace TypeSyntax

/-- What a spelling is put together from. -/
def texts : TypeSyntax → List String
  | plain text => [text]
  | positional format => [format]
  | variadic format separator => [format, separator]
  | callable format procedure bare void separator => [format, procedure, bare, void, separator]

theorem unbroken_fill (format : String) (position : Nat) (value : String) (clean : Unbroken format)
    (cleanValue : Unbroken value) : Unbroken (fill format position value) := by
  rw [fill, unbroken_ofList]
  exact Text.notMem_replaceFrom _ _ _ _ _ clean cleanValue

theorem unbroken_fillFrom (format : String) (position : Nat) (components : List String) (clean : Unbroken format)
    (cleanComponents : AllUnbroken components) : Unbroken (fillFrom format position components) := by
  induction components generalizing format position with
  | nil => exact clean
  | cons component rest ih =>
    rw [AllUnbroken, List.forall_mem_cons] at cleanComponents
    exact ih _ _ (unbroken_fill format position component clean cleanComponents.1) cleanComponents.2

theorem unbroken_apply (spelling : TypeSyntax) (components : List String) (clean : AllUnbroken spelling.texts)
    (cleanComponents : AllUnbroken components) : Unbroken (spelling.apply components) := by
  cases spelling with
  | plain text => exact clean text List.mem_cons_self
  | positional format => exact unbroken_fillFrom _ _ _ (clean format List.mem_cons_self) cleanComponents
  | variadic format separator =>
    simp only [AllUnbroken, texts, List.forall_mem_cons] at clean
    exact unbroken_fill _ _ _ clean.1 (unbroken_intercalate _ _ clean.2.1 cleanComponents)
  | callable format procedure bare void separator =>
    simp only [AllUnbroken, texts, List.forall_mem_cons] at clean
    obtain ⟨format, procedure, bare, _, separator, _⟩ := clean
    rw [apply]
    split
    · split
      · exact bare
      · rename_i params _ same
        refine unbroken_fill _ _ _ procedure (unbroken_intercalate _ _ separator fun param listed => ?_)
        exact cleanComponents param (List.dropLast_subset _ listed)
    · exact unbroken_fill _ _ _ format (unbroken_intercalate _ _ separator cleanComponents)

end TypeSyntax

namespace SemType

/-- A name, and what a table spells it with. -/
def nameTexts (types : TypeTable) (name : String) : List String :=
  name :: ((types.get? name).map TypeSyntax.texts).getD []

mutual
/-- The names in a type, and what a table spells them with. -/
def texts (types : TypeTable) : SemType → List String
  | .named name => nameTexts types name
  | .container name args => nameTexts types name ++ allTexts types args
  | .fixedArray element _ => nameTexts types "Array" ++ texts types element
def allTexts (types : TypeTable) : List SemType → List String
  | [] => []
  | type :: rest => texts types type ++ allTexts types rest
end

variable (types : TypeTable) (declared : List String)

theorem allUnbroken_spelling {name : String} (clean : AllUnbroken (nameTexts types name)) {spelling : TypeSyntax}
    (found : types.get? name = some spelling) : AllUnbroken spelling.texts := by
  intro text listed
  exact clean text (List.mem_cons_of_mem _ (by simpa [found] using listed))

mutual
theorem unbroken_render (type : SemType) (clean : AllUnbroken (type.texts types)) (text : String)
    (rendered : type.render types declared = .ok text) : Unbroken text := by
  match type with
  | .named name =>
    rw [texts] at clean
    rw [render] at rendered
    split at rendered
    · rename_i spelling found
      cases rendered
      exact spelling.unbroken_apply [] (allUnbroken_spelling types clean found) nofun
    · split at rendered
      · cases rendered
        exact clean _ List.mem_cons_self
      · cases rendered
  | .container name args =>
    rw [texts, allUnbroken_append] at clean
    rw [render] at rendered
    split at rendered
    · rename_i spelling found
      obtain ⟨components, inner, same⟩ := (bind_eq_ok_iff _ _ _).mp rendered
      cases same
      refine spelling.unbroken_apply components (allUnbroken_spelling types clean.1 found) ?_
      exact unbroken_renderAll args clean.2 components inner
    · cases rendered
  | .fixedArray element size =>
    rw [texts, allUnbroken_append] at clean
    rw [render] at rendered
    split at rendered
    · rename_i spelling found
      obtain ⟨component, inner, same⟩ := (bind_eq_ok_iff _ _ _).mp rendered
      cases same
      refine spelling.unbroken_apply _ (allUnbroken_spelling types clean.1 found) ?_
      simp only [AllUnbroken, List.forall_mem_cons]
      exact ⟨unbroken_render element clean.2 component inner, unbroken_toString_nat size, nofun⟩
    · cases rendered
theorem unbroken_renderAll (args : List SemType) (clean : AllUnbroken (allTexts types args)) (components : List String)
    (rendered : renderAll types declared args = .ok components) : AllUnbroken components := by
  match args with
  | [] =>
    cases rendered
    exact nofun
  | type :: rest =>
    rw [allTexts, allUnbroken_append] at clean
    rw [renderAll] at rendered
    obtain ⟨first, inner, continued⟩ := (bind_eq_ok_iff _ _ _).mp rendered
    obtain ⟨others, following, same⟩ := (bind_eq_ok_iff _ _ _).mp continued
    cases same
    rw [AllUnbroken, List.forall_mem_cons]
    exact ⟨unbroken_render type clean.1 first inner, unbroken_renderAll rest clean.2 others following⟩
end

end SemType

end Types

section Nodes

def Field.texts : Field α → List String
  | text value => [value]
  | _ => []

namespace Node

/-- The texts that a node is written with: its own, and those of its types. -/
def texts (types : TypeTable) (node : Node) : List String :=
  node.kind.values.flatMap Field.texts ++ node.types.flatMap (SemType.texts types)

/-- No text that the nodes of a tree are written with has a line feed. -/
def Inline (types : TypeTable) (tree : Node) : Prop := ∀ node ∈ tree.walk, AllUnbroken (node.texts types)

instance (types : TypeTable) (tree : Node) : Decidable (tree.Inline types) :=
  inferInstanceAs (Decidable (∀ _ ∈ _, _))

variable {types : TypeTable} {node : Node} (inline : node.Inline types)
include inline

theorem Inline.self : AllUnbroken (node.texts types) := Everywhere.self inline

theorem Inline.child (child : Node) (member : child ∈ node.children) : child.Inline types :=
  Everywhere.child inline child member

theorem Inline.ownType (type : SemType) (carried : type ∈ node.types) : AllUnbroken (type.texts types) := by
  intro text listed
  exact inline.self text (List.mem_append_right _ (List.mem_flatMap.mpr ⟨type, carried, listed⟩))

theorem Inline.text (name text : String) (found : node.attr? name = some (.text text)) : Unbroken text := by
  rcases mem_values_of_attr? node name _ found with same | stored
  · cases same
  · refine inline.self text (List.mem_append_left _ (List.mem_flatMap.mpr ⟨_, stored, ?_⟩))
    exact List.mem_singleton_self text

theorem Inline.type (name : String) (type : SemType) (found : node.attr? name = some (.type type)) :
    AllUnbroken (type.texts types) :=
  inline.ownType type (node.mem_types_of_attr? name type found)

theorem Inline.member (name : String) (field : Field Node) (found : node.attr? name = some field) (child : Node)
    (member : child ∈ field.members) : child.Inline types :=
  Everywhere.member inline name field found child member

theorem Inline.sequenceAt (name : String) (nodes : List Node) (found : node.sequenceAt name = .ok nodes) :
    ∀ inner ∈ nodes, inner.Inline types := Everywhere.sequenceAt inline name nodes found

theorem Inline.childAt (name : String) (child : Node) (found : node.childAt name = .ok child) : child.Inline types :=
  Everywhere.childAt inline name child found

theorem Inline.textAt (name text : String) (found : node.textAt name = .ok text) : Unbroken text := by
  rw [Node.textAt] at found
  split at found <;> cases found
  rename_i stored
  exact inline.text name text stored

/-- A path leads to an attribute of an inline node. -/
theorem Inline.resolve (path : Path) (resolved : Resolved) (found : node.resolve path = .ok resolved) :
    ∃ inner : Node, inner.Inline types ∧ inner.attr? resolved.name = some resolved.field := by
  obtain ⟨owner, below, has⟩ := node.exists_owner_of_resolve path resolved found
  exact ⟨owner, Everywhere.below inline owner below, has⟩

end Node

end Nodes

end Retarget
