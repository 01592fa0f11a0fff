import Retarget.Proofs.WovenOverrides

/-! Trees in which a leaf is exchanged. The texts of the C# target for all of them are the same pieces with the leaf's
texts between them, and there are as many of these as the leaf has copies. -/
namespace Retarget.CSharp

open Exchange

/-- A field that decides between templates is no slot, or a slot under every text. -/
theorem discriminant_map {ι : Type} (exchange : Exchange ι) (i : ι) (resolved : Resolved) :
    (resolved.map (exchange.tree i)).discriminant = resolved.discriminant := by
  obtain ⟨owner, name, field⟩ := resolved
  cases field with
  | node child => exact congrArg (fun tag : Tag => Except.ok tag.name) (exchange.tag_tree i child)
  | _ => rfl

section Built

variable {settings : LanguageSettings} {built : Profile} (basics : Basics settings built) (declared : List String)
include basics

theorem entry_string :
    built.entries.get? .string = some (.template ⟨[⟨0, [.directive (.override "string_literal")]⟩]⟩) :=
  basics.templates .string "%<#string_literal>" _ rfl ((Template.parse_ofList _ _).trans (by decide))

theorem entry_regex : built.entries.get? .regex = some (.template
    ⟨[⟨0, [.text "new Regex(", .directive (.override "verbatim_string"), .text ")"]⟩]⟩) :=
  basics.templates .regex "new Regex(%<#verbatim_string>)" _ rfl ((Template.parse_ofList _ _).trans (by decide))

/-- A leaf is written as its text, at any depth. -/
theorem render_leaf (fuel depth : Nat) (leaf : Leaf) (text : String) (type : SemType)
    (visible : Text.isAllBlank (written leaf text).toList = false) :
    (Rules.rendererAt built declared (fuel + 1)).render ⟨leaf.kind text, type⟩ depth = .ok (written leaf text) := by
  cases leaf with
  | localVar => exact render_attribute declared fuel depth _ "name" _ text (entry_localVar basics) rfl rfl visible
  | string =>
    have quoted := Renderer.segment_override built.overrides (Rules.rendererAt built declared fuel)
      ⟨.string text, type⟩ depth "string_literal" stringLiteral (basics.override "string_literal" _ rfl)
    have joined : String.join [written .string text] = written .string text := by simp
    rw [← joined] at visible ⊢
    refine render_line declared fuel depth _ _ [written .string text] (List.cons_ne_nil _ _) (entry_string basics) ?_
      visible
    rw [mapM_eq_ok_iff]
    exact .cons quoted .nil
  | regex =>
    have quoted := Renderer.segment_override built.overrides (Rules.rendererAt built declared fuel)
      ⟨.regex text, type⟩ depth "verbatim_string" verbatimString (basics.override "verbatim_string" _ rfl)
    have joined : String.join ["new Regex(", String.ofList (quoteVerbatim text.toList), ")"] = written .regex text := by
      simp [written, String.append_assoc]
    rw [← joined] at visible ⊢
    refine render_line declared fuel depth _ _ _ (List.cons_ne_nil _ _) (entry_regex basics) ?_ visible
    rw [mapM_eq_ok_iff]
    exact .cons rfl (.cons quoted (.cons rfl .nil))

end Built

section Nodes

variable {ι : Type} {exchange : Exchange ι} {library : Library} {node : Node} (inner : ¬exchange.IsSlot node)

include inner

theorem count_eq_weigh : exchange.count library node = weigh library (exchange.count library) node :=
  copies_of_ne library exchange.leaf exchange.old node inner

variable (all : node.Everywhere Node.PartsMatch) (renderer : Renderer) (depth : Nat)
  (expands : ∀ template, readsOnly node.tag template = true →
    exchange.Weaves (countIn library (exchange.count library) node template) fun i =>
      renderer.expand template (exchange.tree i node) depth)

include expands in
/-- A template that inserts the children of a node writes as many slots as the node has. -/
theorem templateInserts_weaves (template : Template) (inserts : templateInserts node.tag template = true) :
    exchange.Weaves (exchange.count library node) fun i => renderer.expand template (exchange.tree i node) depth := by
  rw [templateInserts, Bool.and_eq_true] at inserts
  refine (expands template inserts.1).congr ?_
  rw [countIn_eq_weigh library _ node template inserts.2, count_eq_weigh inner]

include all

/-- The template that a switch selects, if every one that it may select comes to woven texts. -/
theorem switch_weaves (switch : Switch) (single : switch.on.rest = [])
    (selected : ∀ resolved key template, node.resolve switch.on = .ok resolved → resolved.discriminant = .ok key →
      switch.select? key = some template →
      exchange.Weaves (exchange.count library node) fun i => renderer.expand template (exchange.tree i node) depth)
    (entry : renderer.target.entry? node.tag = some (.switch switch)) :
    exchange.Weaves (exchange.count library node) fun i => renderer.render (exchange.tree i node) depth := by
  have readable : isReadable node.tag switch.on = true := by rw [isReadable, single]; rfl
  simp only [Renderer.render, exchange.tag_tree, entry, exchange.resolve_tree _ inner all.self switch.on readable,
    bind_map_left, discriminant_map]
  refine .bind_left fun resolved found => .bind_left fun key discriminant => ?_
  cases selects : switch.select? key with
  | none => exact .error _
  | some template => exact selected resolved key template found discriminant selects

include expands

theorem loop_weaves (switch : Switch)
    (loops : (loopParts.all fun parts => (switch.select? parts.1.name).any fun template =>
      readsOnly .forStatement template && insertions template == loopInsertions parts.1) = true)
    (isLoop : node.tag = .forStatement) (on : switch.on = ⟨"iterators", []⟩)
    (entry : renderer.target.entry? node.tag = some (.switch switch)) :
    exchange.Weaves (exchange.count library node) fun i => renderer.render (exchange.tree i node) depth := by
  refine switch_weaves inner all renderer depth switch (by rw [on]) (fun resolved key template found
    discriminant selects => ?_) entry
  obtain ⟨kind, type⟩ := node
  cases kind with
  | forStatement iterators sequences body =>
    have together := all.self.1
    have apart := exchange.not_isSlot_of_together together
    rw [on] at found
    cases found
    cases discriminant
    have known := List.all_eq_true.mp loops _ together.1
    simp only [selects, Option.any_some, Bool.and_eq_true, beq_iff_eq] at known
    refine (expands template known.1).congr ?_
    rw [countIn, known.2, count_eq_weigh inner]
    exact sum_loopInsertions library _ iterators sequences body type together (count_eq_weigh apart.1)
      (count_eq_weigh apart.2)
  | _ => cases isLoop

/-- A node is written with as many gaps as it has slots. -/
theorem entry_weaves (inserts : ∀ entry, renderer.target.entry? node.tag = some entry →
      insertsAsWeighed (.entry node.tag entry) = true) :
    exchange.Weaves (exchange.count library node) fun i => renderer.render (exchange.tree i node) depth := by
  cases registered : renderer.target.entry? node.tag with
  | none =>
    simp only [Renderer.render, exchange.tag_tree, registered]
    exact .error _
  | some entry =>
    have known := inserts entry registered
    cases entry with
    | template template =>
      simp only [Renderer.render, exchange.tag_tree, registered]
      refine templateInserts_weaves inner renderer depth expands template ?_
      simpa only [insertsAsWeighed] using known
    | switch switch =>
      by_cases isLoop : node.tag = .forStatement
      · rw [isLoop] at known
        simp only [insertsAsWeighed, Bool.and_eq_true, beq_iff_eq] at known
        exact loop_weaves inner all renderer depth expands switch known.2 isLoop known.1 registered
      · rw [insertsAsWeighed] at known
        · simp only [Bool.and_eq_true, List.isEmpty_iff] at known
          refine switch_weaves inner all renderer depth switch known.1.1 (fun _ key template _ _ selects => ?_) registered
          refine templateInserts_weaves inner renderer depth expands template ?_
          rw [Switch.select?, Option.or_eq_some_iff] at selects
          rcases selects with listed | ⟨_, last⟩
          · obtain ⟨before, after, cases, _⟩ := List.lookup_eq_some_iff.mp listed
            exact List.all_eq_true.mp known.1.2 (key, template) (by simp [cases])
          · exact (Option.all_eq_true _ _).mp known.2 template last
        · exact isLoop

end Nodes

section Runs

variable {ι : Type} (exchange : Exchange ι) {settings : LanguageSettings} {built : Profile}
  (basics : Basics settings built) (inserts : built.toTarget.Holds fun found => insertsAsWeighed found = true)
  (declared : List String)
include basics inserts

omit basics inserts in
/-- Nothing is written if no template may be expanded. -/
theorem render_zero (node : Node) (depth : Nat) :
    ∃ cause, (Rules.rendererAt built declared 0).render node depth = .error cause := by
  rw [Renderer.render]
  split
  · exact ⟨_, rfl⟩
  · exact ⟨_, rfl⟩
  · rename_i switch entry
    cases found : node.resolve switch.on with
    | error cause => exact ⟨cause, rfl⟩
    | ok resolved =>
      simp only [bind, Except.bind]
      cases resolved.discriminant with
      | error cause => exact ⟨cause, rfl⟩
      | ok key =>
        dsimp only
        split <;> exact ⟨_, rfl⟩

theorem writtenBy_of_expands (fuel : Nat)
    (expands : ∀ node, ¬exchange.IsSlot node → node.Everywhere Node.PartsMatch → ∀ template depth,
      readsOnly node.tag template = true →
      exchange.Weaves (countIn built.library (exchange.count built.library) node template) fun i =>
        (Rules.rendererAt built declared fuel).expand template (exchange.tree i node) depth) :
    exchange.WrittenBy built.library (Rules.rendererAt built declared fuel) := by
  intro node depth all
  by_cases slot : exchange.IsSlot node
  · cases fuel with
    | zero => exact .inr fun i => render_zero declared (exchange.tree i node) depth
    | succ fuel =>
      have same (i : ι) : exchange.tree i node = ⟨exchange.leaf.kind (exchange.new i), node.type⟩ := by
        have kind := (kind_tree_of_isSlot exchange i slot).2
        have type := exchange.type_tree i node
        generalize exchange.tree i node = tree at kind type ⊢
        cases tree
        exact congrArg₂ Node.mk kind type
      have single : exchange.count built.library node = 1 := copies_of_text? _ _ _ node slot
      rw [single]
      refine .inl ⟨fun i => written exchange.leaf (exchange.new i), woven_word exchange.word (), fun i => ?_⟩
      simp only [same]
      exact render_leaf basics declared fuel depth exchange.leaf _ _ (exchange.visible i)
  · exact entry_weaves slot all (Rules.rendererAt built declared fuel) depth
      (fun template reads => expands node slot all template depth reads) (inserts.entries node.tag)

/-- However many templates may stand inside one another, a template inserts slots as it is counted to. -/
theorem rendererAt_expands (fuel : Nat) :
    ∀ node, ¬exchange.IsSlot node → node.Everywhere Node.PartsMatch → ∀ template depth,
      readsOnly node.tag template = true →
      exchange.Weaves (countIn built.library (exchange.count built.library) node template) fun i =>
        (Rules.rendererAt built declared fuel).expand template (exchange.tree i node) depth := by
  -- The declarations of a lock-step loop expand a template of their own, so one step back is not enough for them.
  induction fuel using Nat.strongRecOn with
  | ind fuel ih =>
    intro node inner all template depth reads
    cases fuel with
    | zero => exact .error _
    | succ fuel =>
      have written (less : Nat) (le : less ≤ fuel) :=
        writtenBy_of_expands exchange basics inserts declared less (ih less (Nat.lt_succ_of_le le))
      have expands := ih fuel (Nat.lt_succ_self fuel) node inner all
      refine step_weaves ⟨written fuel (Nat.le_refl fuel), inserts.optionals node.tag, expands,
        fun name override depth registered reads => ?_⟩ inner all template reads depth
      obtain ⟨rule, listed, rfl, rfl⟩ := basics.noOthers name override registered
      exact overrides_weave basics inserts written inner all expands depth rule listed reads

theorem rendererAt_writes (fuel : Nat) : exchange.WrittenBy built.library (Rules.rendererAt built declared fuel) :=
  writtenBy_of_expands exchange basics inserts declared fuel (rendererAt_expands exchange basics inserts declared fuel)

omit basics inserts in
theorem size_tree (i : ι) (node : Node) : (exchange.tree i node).size = node.size := by
  rw [← Node.length_walk, ← Node.length_walk, tree, Node.walk_relabel, List.length_map]

/-- Texts for a leaf leave the same pieces of what is written of a tree, one more than the leaf has copies: the leaf's
text stands between them. Or the tree cannot be written, whatever the text. -/
theorem exists_pieces (tree : Node) (all : tree.Everywhere Node.PartsMatch) (depth : Nat) :
    (∃ pieces : List (List Char), pieces.length = exchange.count built.library tree + 1 ∧
      ∀ i, built.render declared (exchange.tree i tree) depth =
        .ok (String.ofList ((written exchange.leaf (exchange.new i)).toList.intercalate pieces))) ∨
    ∀ i, ∃ cause, built.render declared (exchange.tree i tree) depth = .error cause := by
  have same (i : ι) : built.render declared (exchange.tree i tree) depth =
      (Rules.rendererAt built declared (built.nesting tree.size)).render (exchange.tree i tree) depth := by
    rw [← size_tree exchange i tree]
    rfl
  simp only [same]
  rcases rendererAt_writes exchange basics inserts declared (built.nesting tree.size) tree depth all with
    ⟨text, ⟨frame, gaps, filled⟩, rendered⟩ | fails
  · obtain ⟨pieces, length, intercalated⟩ := frame.exists_pieces
    rw [gaps, List.length_replicate] at length
    refine .inl ⟨pieces, length, fun i => (rendered i).trans (congrArg Except.ok ?_)⟩
    rw [← String.toList_inj, String.toList_ofList]
    exact (filled i).trans (intercalated _)
  · exact .inr fails

end Runs

/-- Whatever a leaf of a tree has as its text, what is written around it is the same: pieces that the leaf's text stands
between, as often as the leaf has copies. -/
theorem render_exchanged {settings : LanguageSettings} {built : Profile} (builds : profile settings = .ok built)
    (declared : List String) (leaf : Leaf) (old : String) (tree : Node) (all : tree.Everywhere Node.PartsMatch)
    (depth : Nat) (visible : Text.isAllBlank (written leaf old).toList = false) (text : String)
    (rendered : built.render declared tree depth = .ok text) :
    ∃ pieces : List (List Char), pieces.length = copies built.library leaf old tree + 1 ∧
      ∀ new, Text.isAllBlank (written leaf new).toList = false →
        built.render declared (tree.relabel (leaf.put old new)) depth =
          .ok (String.ofList ((written leaf new).toList.intercalate pieces)) := by
  obtain ⟨other, same, basics, _⟩ := exists_profile settings
  cases builds.symm.trans same
  let exchange : Exchange { new // Text.isAllBlank (written leaf new).toList = false } :=
    ⟨leaf, old, Subtype.val, Subtype.property⟩
  rcases exists_pieces exchange basics (tables_insert builds) declared tree all depth with
    ⟨pieces, length, written⟩ | fails
  · exact ⟨pieces, length, fun new visible => written ⟨new, visible⟩⟩
  · obtain ⟨cause, failed⟩ := fails ⟨old, visible⟩
    rw [Exchange.tree, leaf.put_self, rendered] at failed
    cases failed

end Retarget.CSharp
