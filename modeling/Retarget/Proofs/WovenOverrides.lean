import Retarget.Proofs.OverrideShifts
import Retarget.Proofs.WovenTemplates

/-! Overrides of the C# target for a tree in which a leaf is exchanged: each of them comes to woven texts, with as many
gaps as it inserts slots. -/
namespace Retarget.CSharp

open Exchange

section Counts

variable (f : Node → Nat) (node : Node)

theorem membersAt_of_sequenceAt (name : String) (nodes : List Node) (found : node.sequenceAt name = .ok nodes) :
    node.membersAt ⟨name, []⟩ = nodes := by
  rw [Node.membersAt_single]
  rw [Node.sequenceAt] at found
  split at found <;> cases found <;> rename_i stored <;> rw [stored] <;> rfl

theorem countAt_of_sequenceAt (name : String) (nodes : List Node) (found : node.sequenceAt name = .ok nodes) :
    countAt f node ⟨name, []⟩ = (nodes.map f).sum := by
  rw [countAt, membersAt_of_sequenceAt node name nodes found]

theorem countAt_of_childAt (name : String) (child : Node) (found : node.childAt name = .ok child) :
    countAt f node ⟨name, []⟩ = f child := by
  rw [Node.childAt] at found
  split at found <;> cases found
  rename_i stored
  exact countAt_child f node name child stored

theorem countAt_deeper (child : Node) (first name : String) (found : node.childAt first = .ok child) :
    countAt f node ⟨first, [name]⟩ = countAt f child ⟨name, []⟩ := by
  rw [Node.childAt] at found
  split at found <;> cases found
  rename_i stored
  simp only [countAt, Node.membersAt, Node.resolve, Node.resolveFrom, stored]

/-- Only loops have iterators and sequences as single children. -/
theorem exists_loop_of_childAt (child : Node) (name : String) (part : name = "iterators" ∨ name = "sequences")
    (found : node.childAt name = .ok child) :
    ∃ iterators sequences body, node.kind = .forStatement iterators sequences body ∧
      (child = iterators ∨ child = sequences) := by
  obtain ⟨kind, type⟩ := node
  cases kind with
  | forStatement iterators sequences body =>
    refine ⟨iterators, sequences, body, rfl, ?_⟩
    rcases part with rfl | rfl <;> cases found
    · exact .inl rfl
    · exact .inr rfl
  | _ => rcases part with rfl | rfl <;> cases found

/-- What pairs count, each together with something constant. -/
theorem sum_zip (constant : Nat) (firsts seconds : List Node) (length : firsts.length = seconds.length) :
    ((firsts.zip seconds).map fun pair => f pair.1 + (f pair.2 + constant)).sum =
      firsts.length * constant + (firsts.map f).sum + (seconds.map f).sum := by
  induction firsts generalizing seconds with
  | nil =>
    obtain rfl : seconds = [] := List.length_eq_zero_iff.mp length.symm
    simp
  | cons first firsts ih =>
    cases seconds with
    | nil => cases length
    | cons second seconds =>
      simp only [List.zip_cons_cons, List.map_cons, List.sum_cons, List.length_cons, Nat.add_mul,
        ih seconds (Nat.succ.inj length)]
      omega

theorem length_of_zipParts (parts : ZipParts) (found : zipParts node = .ok parts) :
    parts.iterators.length = parts.sequences.length := by
  simp only [zipParts, bind_eq_ok_iff] at found
  obtain ⟨_, _, _, _, _, _, _, _, paired⟩ := found
  split at paired
  · split at paired <;> cases paired
    assumption
  · cases paired

end Counts

section Nodes

variable {ι : Type} (exchange : Exchange ι) (i : ι) {node : Node}

theorem not_isSlot_of_childAt (parts : node.PartsMatch) (child : Node) (name : String)
    (part : name = "iterators" ∨ name = "sequences") (found : node.childAt name = .ok child) :
    ¬exchange.IsSlot child := by
  obtain ⟨iterators, sequences, body, loop, which⟩ := exists_loop_of_childAt node child name part found
  obtain ⟨kind, type⟩ := node
  cases loop
  have apart := exchange.not_isSlot_of_together parts.1
  rcases which with rfl | rfl
  · exact apart.1
  · exact apart.2

theorem kind_tree_of_isSlot (slot : exchange.IsSlot node) :
    node.kind = exchange.leaf.kind exchange.old ∧ (exchange.tree i node).kind = exchange.leaf.kind (exchange.new i) := by
  refine ⟨exchange.leaf.kind_of_text? node.kind exchange.old slot, ?_⟩
  rw [tree, Node.kind_relabel]
  exact (congrArg _ (if_pos slot)).trans (exchange.leaf.map_kind ..)

variable (node) in
theorem binaryOperator?_tree : binaryOperator? (exchange.tree i node) = binaryOperator? node := by
  by_cases slot : exchange.IsSlot node
  · obtain ⟨own, put⟩ := kind_tree_of_isSlot exchange i slot
    rw [binaryOperator?, binaryOperator?, own, put]
    cases exchange.leaf <;> rfl
  · rw [binaryOperator?, binaryOperator?, exchange.kind_tree i slot]
    cases node.kind <;> rfl

theorem wrapsPrefixed_tree (inner : ¬exchange.IsSlot node) (operand : Node) :
    wrapsPrefixed (exchange.tree i node) (exchange.tree i operand) = wrapsPrefixed node operand := by
  rw [wrapsPrefixed, wrapsPrefixed, binaryOperator?_tree, exchange.kind_tree i inner]
  refine congrArg (_ || ·) ?_
  cases node.kind with
  | unaryOp op value =>
    by_cases slot : exchange.IsSlot operand
    · obtain ⟨own, put⟩ := kind_tree_of_isSlot exchange i slot
      rw [own, put]
      cases exchange.leaf <;> rfl
    · rw [exchange.kind_tree i slot]
      cases operand.kind <;> rfl
  | _ => rfl

theorem singleReturn?_tree (nodes : List Node) :
    singleReturn? (nodes.map (exchange.tree i)) = (singleReturn? nodes).map (exchange.tree i) := by
  match nodes with
  | [] => rfl
  | _ :: _ :: _ => rfl
  | [node] =>
    simp only [List.map_singleton, singleReturn?]
    by_cases slot : exchange.IsSlot node
    · obtain ⟨own, put⟩ := kind_tree_of_isSlot exchange i slot
      rw [own, put]
      cases exchange.leaf <;> rfl
    · rw [exchange.kind_tree i slot]
      cases node.kind <;> rfl

/-- A block that is a single return counts what it returns. -/
theorem count_of_singleReturn? (library : Library) (nodes : List Node) (value : Node)
    (single : singleReturn? nodes = some value) :
    (nodes.map (exchange.count library)).sum = exchange.count library value := by
  obtain ⟨⟨kind, type⟩, rfl, -⟩ := eq_singleton_of_singleReturn? nodes value single
  have returned (kind : Kind Node) (isReturn : kind = .implicitReturn value ∨ kind = .explicitReturn value) :
      exchange.count library ⟨kind, type⟩ = exchange.count library value := by
    rw [count, copies_of_ne]
    · rcases isReturn with rfl | rfl <;> simp [weigh, weights, Node.children, Kind.children]
    · intro same
      rcases isReturn with rfl | rfl <;> cases leaf : exchange.leaf <;> rw [leaf] at same <;> cases same
  rw [List.map_singleton, List.sum_singleton]
  cases kind with
  | implicitReturn other => exact returned _ (.inl (congrArg _ (Option.some.inj single)))
  | explicitReturn other => exact returned _ (.inr (congrArg _ (Option.some.inj single)))
  | _ => cases single

def ZipParts.map (f : Node → Node) (parts : ZipParts) : ZipParts :=
  ⟨f parts.iterator, parts.iterators.map f, f parts.sequence, parts.sequences.map f⟩

theorem zipParts_tree (inner : ¬exchange.IsSlot node) (parts : node.PartsMatch) :
    zipParts (exchange.tree i node) = ZipParts.map (exchange.tree i) <$> zipParts node := by
  rw [zipParts, zipParts, exchange.childAt_tree i inner, exchange.childAt_tree i inner]
  cases iterated : node.childAt "iterators" with
  | error cause => rfl
  | ok iterators =>
    have first := not_isSlot_of_childAt exchange parts iterators "iterators" (.inl rfl) iterated
    cases walked : node.childAt "sequences" with
    | error cause =>
      simp only [Functor.map, Except.map, bind, Except.bind, exchange.sequenceAt_tree i first]
      cases iterators.sequenceAt "iterators" <;> rfl
    | ok sequences =>
      have second := not_isSlot_of_childAt exchange parts sequences "sequences" (.inr rfl) walked
      simp only [Functor.map, Except.map, bind, Except.bind, exchange.sequenceAt_tree i first,
        exchange.sequenceAt_tree i second, Node.misshapen, exchange.tag_tree]
      cases iterators.sequenceAt "iterators" with
      | error cause => rfl
      | ok iterators =>
        cases sequences.sequenceAt "sequences" with
        | error cause => rfl
        | ok sequences =>
          cases iterators with
          | nil => rfl
          | cons iterator iterators =>
            cases sequences with
            | nil => rfl
            | cons sequence sequences =>
              simp only [List.map_cons, List.length_map]
              split <;> rfl

end Nodes

section Overrides

variable {ι : Type} {exchange : Exchange ι} {library : Library} {renderer : Renderer}
  (written : exchange.WrittenBy library renderer) {node : Node} (inner : ¬exchange.IsSlot node)
  (all : node.Everywhere Node.PartsMatch) (depth : Nat)
include written inner all

theorem params_weaves :
    exchange.Weaves (countAt (exchange.count library) node ⟨"params", []⟩) fun i =>
      params renderer (exchange.tree i node) depth := by
  simp only [params, exchange.sequenceAt_tree _ inner, bind_map_left, List.mapM_map, Function.comp_def,
    exchange.type_tree]
  refine .bind_left fun nodes found => ?_
  rw [countAt_of_sequenceAt _ node "params" nodes found]
  have pieces := Alike.mapM (WovenString exchange.word) (fun i param => do
    let type ← renderer.renderType param.type
    let name ← renderer.render (exchange.tree i param) depth
    return type ++ " " ++ name) (fun param => List.replicate (exchange.count library param) ()) nodes
    fun param member => .bind_left fun type _ =>
      (written param depth (all.sequenceAt "params" nodes found param member)).bind fun name woven => .ok (by
        simpa using woven.between (type ++ " ") "")
  rw [flatMap_replicate] at pieces
  exact pieces.bind fun texts rows => .ok (rows.intercalate ", ")

theorem definitionsOf_weaves (tag : Tag) :
    exchange.Weaves (Insertion.count library (exchange.count library) node (.definitions tag)) fun i =>
      definitionsOf tag renderer (exchange.tree i node) depth := by
  simp only [definitionsOf, exchange.sequenceAt_tree _ inner, bind_map_left, List.filter_map, Function.comp_def,
    exchange.tag_tree, List.mapM_map]
  refine .bind_left fun nodes found => ?_
  have pieces := Alike.mapM (WovenString exchange.word) (fun i definition =>
    renderer.render (exchange.tree i definition) depth)
    (fun definition => List.replicate (exchange.count library definition) ()) (nodes.filter (·.tag == tag))
    fun definition member =>
      written definition depth (all.sequenceAt "definitions" nodes found definition (List.mem_filter.mp member).1)
  rw [flatMap_replicate] at pieces
  rw [Insertion.count, membersAt_of_sequenceAt node "definitions" nodes found]
  exact pieces.bind fun texts rows => .ok (rows.intercalate _)

theorem itemVariable_weaves :
    exchange.Weaves (countAt (exchange.count library) node ⟨"iterators", ["key"]⟩) fun i =>
      itemVariable renderer (exchange.tree i node) depth := by
  simp only [itemVariable, exchange.childAt_tree _ inner, bind_map_left]
  refine .bind_left fun iterators found => ?_
  have apart := not_isSlot_of_childAt exchange all.self iterators "iterators" (.inl rfl) found
  simp only [exchange.childAt_tree _ apart, bind_map_left]
  refine .bind_left fun key isKey => ?_
  rw [countAt_deeper _ node iterators "iterators" "key" found, countAt_of_childAt _ iterators "key" key isKey]
  exact (written key depth ((all.childAt "iterators" iterators found).childAt "key" key isKey)).bind
    fun text woven => .ok (woven.between "_" "Item")

omit written inner all in
theorem parenthesize_weaves (wrap : Bool) {gaps : List Unit} {text : ι → String}
    (woven : WovenString exchange.word gaps text) :
    WovenString exchange.word gaps fun i => parenthesize wrap (text i) := by
  cases wrap with
  | false => exact woven
  | true => exact woven.between "(" ")"

theorem operand_weaves (side : Side) :
    exchange.Weaves (countAt (exchange.count library) node ⟨side.name, []⟩) fun i =>
      operand side renderer (exchange.tree i node) depth := by
  simp only [operand, exchange.childAt_tree _ inner, bind_map_left, wrapsOperand, binaryOperator?_tree]
  refine .bind_left fun value found => ?_
  rw [countAt_of_childAt _ node side.name value found]
  exact (written value depth (all.childAt side.name value found)).bind fun text woven => .ok (parenthesize_weaves _ woven)

theorem unaryOperand_weaves :
    exchange.Weaves (countAt (exchange.count library) node ⟨"value", []⟩) fun i =>
      unaryOperand renderer (exchange.tree i node) depth := by
  simp only [unaryOperand, exchange.childAt_tree _ inner, bind_map_left, wrapsPrefixed_tree _ _ inner]
  refine .bind_left fun value found => ?_
  rw [countAt_of_childAt _ node "value" value found]
  exact (written value depth (all.childAt "value" value found)).bind fun text woven => .ok (parenthesize_weaves _ woven)

theorem anonymousBody_weaves :
    exchange.Weaves (countAt (exchange.count library) node ⟨"block", []⟩) fun i =>
      anonymousBody renderer (exchange.tree i node) depth := by
  simp only [anonymousBody, exchange.sequenceAt_tree _ inner, bind_map_left]
  refine .bind_left fun block found => ?_
  rw [countAt_of_sequenceAt _ node "block" block found]
  have blocks := all.sequenceAt "block" block found
  simp only [singleReturn?_tree]
  cases single : singleReturn? block with
  | some value =>
    obtain ⟨inner, rfl, returned, _⟩ := eq_singleton_of_singleReturn? block value single
    rw [count_of_singleReturn? exchange library _ value single]
    simp only [Option.map_some]
    refine (written value depth ((blocks inner List.mem_cons_self).child value returned)).bind fun text woven => .ok ?_
    exact (wovenString_const exchange.word " ").append woven
  | none =>
    simp only [Option.map_none, List.isEmpty_map]
    split
    · rename_i empty
      rw [List.isEmpty_iff.mp empty]
      exact weaves_const (.ok _)
    · refine (written.renderBlock block blocks (depth + 1) .statements).bind fun body woven => .ok ?_
      have opened := (wovenString_const exchange.word
        ("\n" ++ renderer.indent depth ++ "\x7b\n" ++ renderer.indent (depth + 1))).append woven
      have ended := (opened.append (wovenString_const _ "\n")).append (wovenString_const _ (renderer.indent depth))
      have closed := ended.append (wovenString_const _ "\x7d")
      simp only [List.nil_append, List.append_nil] at closed
      exact closed

theorem zipCounter_weaves :
    exchange.Weaves (Insertion.count library (exchange.count library) node .firstIterator) fun i =>
      zipCounter renderer (exchange.tree i node) depth := by
  simp only [zipCounter, zipParts_tree _ _ inner all.self, bind_map_left]
  refine .bind_left fun parts found => ?_
  rw [Insertion.count, found]
  have first := (everywhere_zipParts all parts found).1 parts.iterator List.mem_cons_self
  exact (written parts.iterator depth first).bind fun text woven => .ok (woven.between "_" "Index")

theorem firstSequence_weaves :
    exchange.Weaves (Insertion.count library (exchange.count library) node .firstSequence) fun i =>
      firstSequence renderer (exchange.tree i node) depth := by
  simp only [firstSequence, zipParts_tree _ _ inner all.self, bind_map_left]
  refine .bind_left fun parts found => ?_
  rw [Insertion.count, found]
  exact written parts.sequence depth ((everywhere_zipParts all parts found).2 parts.sequence List.mem_cons_self)

omit written all in
theorem base_weaves (renderer : Renderer) :
    exchange.Weaves 0 fun i => base renderer (exchange.tree i node) depth := by
  simp only [base, exchange.textAt_tree _ inner]
  exact weaves_const _

omit written all in
theorem stringLiteral_weaves (renderer : Renderer) :
    exchange.Weaves 0 fun i => stringLiteral renderer (exchange.tree i node) depth := by
  simp only [stringLiteral, exchange.textAt_tree _ inner]
  exact weaves_const _

omit written all in
theorem verbatimString_weaves (renderer : Renderer) :
    exchange.Weaves 0 fun i => verbatimString renderer (exchange.tree i node) depth := by
  simp only [verbatimString, exchange.textAt_tree _ inner]
  exact weaves_const _

end Overrides

section Calls

variable {ι : Type} {exchange : Exchange ι} {library : Library} {renderer : Renderer} {node : Node}
  (inner : ¬exchange.IsSlot node) (depth : Nat)
  (expands : ∀ template depth, readsOnly node.tag template = true →
    exchange.Weaves (countIn library (exchange.count library) node template) fun i =>
      renderer.expand template (exchange.tree i node) depth)

theorem readsOnly_of_insertsOperands (tag : Tag) (template : Template) (operands : insertsOperands template = true) :
    readsOnly tag template = true := by
  refine List.all_eq_true.mpr fun segment member => ?_
  have known := List.all_eq_true.mp operands segment member
  rw [Bool.or_eq_true, Bool.or_eq_true] at known
  have single (path : Path) (name : String) (same : (path == ⟨name, []⟩) = true) : isReadable tag path = true := by
    rw [beq_iff_eq.mp same]
    rfl
  cases segment with
  | text => rfl
  | directive directive =>
    cases directive with
    | placeholder path | join path mode =>
      rcases known with (receiver | args) | text
      · exact single path "receiver" receiver
      · exact single path "args" args
      · cases text
    | _ => rcases known with (receiver | args) | text <;> contradiction

include expands in
/-- A library call is written by a template that inserts its operands only. -/
theorem libraryCall_weaves (entry : Option LibraryEntry) (name : String)
    (operation : Imports.operation? library node = entry)
    (operands : ∀ found, entry = some found → insertsOperands found.template = true) :
    exchange.Weaves (Insertion.count library (exchange.count library) node .operation) fun i =>
      libraryCall renderer entry name (exchange.tree i node) depth := by
  cases entry with
  | none => exact .error _
  | some entry =>
    have inserts := operands entry rfl
    refine (expands entry.template depth (readsOnly_of_insertsOperands _ _ inserts)).congr ?_
    rw [countIn_of_insertsOperands library _ node entry.template inserts, Insertion.count, callWrites, callWrites,
      operation]

variable (same : renderer.target.library = library)
include inner expands same

theorem standardCall_weaves (isCall : node.tag = .standardCall)
    (operands : ∀ space name found, library.function? space name = some found →
      insertsOperands found.template = true) :
    exchange.Weaves (Insertion.count library (exchange.count library) node .operation) fun i =>
      standardCall renderer (exchange.tree i node) depth := by
  simp only [standardCall, exchange.textAt_tree _ inner, same]
  obtain ⟨kind, type⟩ := node
  cases kind with
  | standardCall space function args =>
    exact libraryCall_weaves depth expands _ _ rfl fun found known => operands space function found known
  | _ => cases isCall

theorem standardMethodCall_weaves (isCall : node.tag = .standardMethodCall)
    (operands : ∀ receiver name found, library.method? receiver name = some found →
      insertsOperands found.template = true) :
    exchange.Weaves (Insertion.count library (exchange.count library) node .operation) fun i =>
      standardMethodCall renderer (exchange.tree i node) depth := by
  simp only [standardMethodCall, exchange.textAt_tree _ inner, exchange.childAt_tree _ inner, bind_map_left,
    exchange.type_tree, same]
  obtain ⟨kind, type⟩ := node
  cases kind with
  | standardMethodCall receiver message args =>
    exact libraryCall_weaves depth expands _ _ rfl fun found known => operands _ message found known
  | _ => cases isCall

end Calls

section LockStep

variable {ι : Type} {exchange : Exchange ι} {settings : LanguageSettings} {built : Profile}
  (basics : Basics settings built) {declared : List String} {fuel : Nat}

variable (exchange declared fuel) in
/-- Nodes that are written by one template come to woven texts if its segments do. -/
theorem render_weaves_of_segments (template : Template) (node : ι → Node) (tag : Tag) (tagged : ∀ i, (node i).tag = tag)
    (entry : built.entries.get? tag = some (.template template)) (gaps : Segment → List Unit)
    (segments : ∀ less < fuel, ∀ line ∈ template.lines, ∀ segment ∈ line.segments, ∀ depth,
      Alike (WovenString exchange.word (gaps segment)) fun i =>
        (Rules.rendererAt built declared less).segment built.overrides (node i) depth segment) (depth : Nat) :
    Alike (WovenString exchange.word ((template.lines.flatMap Line.segments).flatMap gaps)) fun i =>
      (Rules.rendererAt built declared fuel).render (node i) depth := by
  have found : (Rules.rendererAt built declared fuel).target.entry? tag = some (.template template) := entry
  simp only [Renderer.render, tagged, found]
  cases fuel with
  | zero => exact .error _
  | succ fuel =>
    exact Renderer.step_alike exchange.word (fun i _ => exchange.visible i) built.overrides
      (fun _ => Rules.rendererAt built declared fuel) _ (fun _ => rfl) node template gaps depth
      fun line listed segment member => segments fuel (Nat.lt_succ_self fuel) line listed segment member _

include basics

theorem localVar_weaves {gaps : List Unit} {name : ι → String} (woven : WovenString exchange.word gaps name)
    (type : SemType) (depth : Nat) :
    Alike (WovenString exchange.word gaps) fun i =>
      (Rules.rendererAt built declared fuel).render (.localVar (name i) type) depth := by
  have written := render_weaves_of_segments exchange declared fuel
    (attributeTemplate "name") (fun i => .localVar (name i) type) .localVar (fun _ => rfl) (entry_localVar basics)
    (fun _ => gaps) (fun less _ => by
      simp only [attributeTemplate, List.forall_mem_cons]
      refine ⟨⟨fun inner => ?_, List.forall_mem_nil _⟩, List.forall_mem_nil _⟩
      have placed (i : ι) := Renderer.segment_placeholder built.overrides (Rules.rendererAt built declared less)
        (.localVar (name i) type) inner "name" _ rfl
      simp only [placed]
      exact .ok woven) depth
  simpa [attributeTemplate] using written

variable {library : Library} (written : ∀ less ≤ fuel, exchange.WrittenBy library (Rules.rendererAt built declared less))
include written

/-- The element of a sequence at a counter. -/
theorem index_weaves (sequence : Node) (all : sequence.Everywhere Node.PartsMatch) {gaps : List Unit}
    {name : ι → String} (woven : WovenString exchange.word gaps name) (own type : SemType) (depth : Nat) :
    Alike (WovenString exchange.word (List.replicate (exchange.count library sequence) () ++ gaps)) fun i =>
      (Rules.rendererAt built declared fuel).render (.index (exchange.tree i sequence) (.localVar (name i) own) type)
        depth := by
  have whole := render_weaves_of_segments exchange declared fuel indexTemplate
    (fun i => .index (exchange.tree i sequence) (.localVar (name i) own) type) .index (fun _ => rfl)
    (entry_index basics)
    (fun segment => if segment.writes "sequence" then List.replicate (exchange.count library sequence) ()
      else if segment.writes "index" then gaps else [])
    (fun less smaller => by
      simp only [indexTemplate, List.forall_mem_cons]
      refine ⟨⟨fun inner => ?_, fun _ => weaves_const _, fun inner => ?_, fun _ => weaves_const _,
        List.forall_mem_nil _⟩, List.forall_mem_nil _⟩
      · have placed (i : ι) := Renderer.segment_placeholder built.overrides (Rules.rendererAt built declared less)
          (.index (exchange.tree i sequence) (.localVar (name i) own) type) inner "sequence" _ rfl
        simp only [placed]
        exact written less (Nat.le_of_lt smaller) sequence inner all
      · have placed (i : ι) := Renderer.segment_placeholder built.overrides (Rules.rendererAt built declared less)
          (.index (exchange.tree i sequence) (.localVar (name i) own) type) inner "index" _ rfl
        simp only [placed]
        exact localVar_weaves basics woven own inner) depth
  simpa [indexTemplate, Segment.writes] using whole

variable {node : Node} (inner : ¬exchange.IsSlot node) (all : node.Everywhere Node.PartsMatch) (depth : Nat)
include inner all

theorem zipIterators_weaves :
    exchange.Weaves (Insertion.count library (exchange.count library) node .declarations) fun i =>
      zipIterators (Rules.rendererAt built declared fuel) (exchange.tree i node) depth := by
  have same := written fuel (Nat.le_refl fuel)
  have counted := zipCounter_weaves same inner all depth
  simp only [zipIterators, zipParts_tree _ _ inner all.self, bind_map_left]
  refine .bind_left fun parts found => ?_
  obtain ⟨iterators, sequences⟩ := everywhere_zipParts all parts found
  refine counted.bind fun counter woven => ?_
  -- The counter is woven itself, and written again for each pair of an iterator and a sequence.
  simp only [ZipParts.map, ← List.map_cons, List.zip_map, List.mapM_map]
  have lines := Alike.mapM (WovenString exchange.word) (fun i pair => do
    let name ← (Rules.rendererAt built declared fuel).render (exchange.tree i pair.1) depth
    let element ← (Rules.rendererAt built declared fuel).render
      (.index (exchange.tree i pair.2) (.localVar (counter i) (.named "Int")) (exchange.tree i pair.1).type) depth
    return "var " ++ name ++ " = " ++ element ++ ";")
    (fun pair => List.replicate (exchange.count library pair.1 + (exchange.count library pair.2 +
      Insertion.count library (exchange.count library) node .firstIterator)) ())
    ((parts.iterator :: parts.iterators).zip (parts.sequence :: parts.sequences)) fun pair member => by
      obtain ⟨ofIterators, ofSequences⟩ := List.of_mem_zip member
      refine (same pair.1 depth (iterators _ ofIterators)).bind fun name named => ?_
      simp only [exchange.type_tree]
      refine (index_weaves basics written pair.2 (sequences _ ofSequences) woven _ _ depth).bind
        fun element written => .ok ?_
      have declared := ((named.between "var " " = ").append written).append (wovenString_const _ ";")
      simp only [List.append_nil, ← List.replicate_add] at declared
      exact declared
  have sizes : (parts.iterator :: parts.iterators).length = (parts.sequence :: parts.sequences).length :=
    congrArg Nat.succ (length_of_zipParts node parts found)
  rw [flatMap_replicate, sum_zip _ _ _ _ sizes, Insertion.count, found] at lines
  rw [Insertion.count, found]
  exact lines.bind fun texts rows => .ok (rows.intercalate _)

end LockStep

/-- Every override inserts slots as it is counted to. -/
theorem overrides_weave {ι : Type} {exchange : Exchange ι} {settings : LanguageSettings} {built : Profile}
    (basics : Basics settings built) (inserts : built.toTarget.Holds fun found => insertsAsWeighed found = true)
    {declared : List String} {fuel : Nat}
    (written : ∀ less ≤ fuel, exchange.WrittenBy built.library (Rules.rendererAt built declared less)) {node : Node}
    (inner : ¬exchange.IsSlot node) (all : node.Everywhere Node.PartsMatch)
    (expands : ∀ template depth, readsOnly node.tag template = true →
      exchange.Weaves (countIn built.library (exchange.count built.library) node template) fun i =>
        (Rules.rendererAt built declared fuel).expand template (exchange.tree i node) depth) (depth : Nat) :
    ∀ rule ∈ rules.overrides, readsSegment node.tag (.directive (.override rule.name)) = true →
      exchange.Weaves (countOf built.library (exchange.count built.library) node (.directive (.override rule.name)))
        fun i => rule.function (Rules.rendererAt built declared fuel) (exchange.tree i node) depth := by
  have same := written fuel (Nat.le_refl fuel)
  simp only [rules, List.forall_mem_cons]
  refine ⟨?_, ?_, ?_, ?_, ?_, ?_, ?_, ?_, ?_, ?_, ?_, ?_, ?_, ?_, ?_, ?_, List.forall_mem_nil _⟩
  all_goals intro reads
  · exact params_weaves same inner all depth
  · exact anonymousBody_weaves same inner all depth
  · exact base_weaves inner depth _
  · exact definitionsOf_weaves same inner all depth .classDefinition
  · exact definitionsOf_weaves same inner all depth .functionDefinition
  · exact itemVariable_weaves same inner all depth
  · exact zipCounter_weaves same inner all depth
  · exact firstSequence_weaves same inner all depth
  · exact zipIterators_weaves basics written inner all depth
  · exact stringLiteral_weaves inner depth _
  · exact verbatimString_weaves inner depth _
  · exact standardCall_weaves inner depth expands rfl (by simpa [readsSegment] using reads) inserts.functions
  · exact standardMethodCall_weaves inner depth expands rfl (by simpa [readsSegment] using reads) inserts.methods
  · exact operand_weaves same inner all depth .left
  · exact operand_weaves same inner all depth .right
  · exact unaryOperand_weaves same inner all depth

end Retarget.CSharp
