import Retarget.Proofs.BalancedTrees
import Retarget.Proofs.OverrideShifts
import Retarget.Proofs.Totality

/-! Balanced overrides. What the overrides and the tables of the C# target write is balanced, so that everything is that
its profile renders, under any settings. -/
namespace Retarget.CSharp

theorem completes_of_balanced {name : String} (other : name ≠ "verbatim_string") {text : String}
    (balanced : BalancedText text) : ∃ pieces, Completes (.override name) text pieces := by
  obtain ⟨pieces, shows⟩ := balanced
  refine ⟨pieces, ?_⟩
  rw [Completes, contextBehind, if_neg other]
  exact shows

theorem balanced_enclosed (front back : String) {text : String} (balancedFront : BalancedText front)
    (balancedBack : BalancedText back) (balanced : BalancedText text) : BalancedText (front ++ text ++ back) :=
  .append_texts _ _ (.append_texts _ _ balancedFront balanced) balancedBack

theorem balanced_group (bracket : Bracket) {text : String} (balanced : BalancedText text) :
    BalancedText (String.singleton bracket.opening ++ text ++ String.singleton bracket.closing) := by
  rw [BalancedText, String.toList_append, String.toList_append, String.toList_singleton, String.toList_singleton]
  exact ⟨_, Shows.group bracket balanced⟩

theorem parenthesize_balanced (wrap : Bool) {text : String} (balanced : BalancedText text) :
    BalancedText (parenthesize wrap text) := by
  cases wrap with
  | false => exact balanced
  | true => exact balanced_group .round balanced

section Overrides

variable {renderer : Renderer} (balances : Balances renderer) {node : Node} (balanced : node.Everywhere BalancedNames)
  (depth : Nat)
include balances balanced

theorem params_balanced : Ensures BalancedText (params renderer node depth) := by
  refine .bind fun nodes found => .bind fun rendered mapped => .ok ?_
  have all := balanced.sequenceAt "params" nodes found
  have apart : BalancedText ", " := ⟨_, rfl⟩
  refine Balanced.intercalate apart rendered (forall_mem_of_mapM mapped fun param among => ?_)
  refine Ensures.bind fun type typed => .bind fun name named => .ok ?_
  exact .append_texts _ _ (.append_texts _ _ (balances.types _ type typed) ⟨_, rfl⟩)
    (balances.render (all param among) depth name named)

theorem anonymousBody_balanced : Ensures BalancedText (anonymousBody renderer node depth) := by
  refine .bind fun block found => ?_
  have all := balanced.sequenceAt "block" block found
  split
  · rename_i value single
    obtain ⟨inner, rfl, returned, _⟩ := eq_singleton_of_singleReturn? block value single
    refine .bind fun text rendered => .ok ?_
    have value := balances.render ((all inner List.mem_cons_self).child value returned) depth text rendered
    exact .append_texts " " text ⟨_, rfl⟩ value
  · split
    · exact .ok ⟨_, rfl⟩
    · refine .bind fun body rendered => .ok ?_
      have lineBreak (depth : Nat) := balanced_lineBreak renderer.target.indent depth
      have inner := balances.renderBlock (depth + 1) block all .statements (lineBreak (depth + 1)) body rendered
      have lines := balanced_enclosed _ _ (lineBreak (depth + 1)) (lineBreak depth) inner
      have whole := Balanced.append_texts _ _ (lineBreak depth) (balanced_group .curly lines)
      have brace : "\x7b\n" = "\x7b" ++ "\n" := rfl
      simpa [BalancedText, brace, Renderer.indent, Bracket.opening, Bracket.closing, -String.reduceAppend] using whole

omit balances in
theorem base_balanced : Ensures BalancedText (base renderer node depth) := by
  refine .bind fun text found => .ok ?_
  have named := balanced.self text (Node.mem_names_of_textAt "base" text (by decide) found)
  exact .append_texts " : " text ⟨_, rfl⟩ named

theorem definitionsOf_balanced (tag : Tag) : Ensures BalancedText (definitionsOf tag renderer node depth) := by
  refine .bind fun nodes found => .bind fun rendered mapped => .ok ?_
  have all := balanced.sequenceAt "definitions" nodes found
  refine Balanced.intercalate (balanced_blankLine _ depth) rendered ?_
  exact forall_mem_of_mapM mapped fun inner among => balances.render (all inner (List.mem_filter.mp among).1) depth

theorem operand_balanced (side : Side) : Ensures BalancedText (operand side renderer node depth) :=
  .bind fun value found => .bind fun text rendered => .ok <|
    parenthesize_balanced _ (balances.render (balanced.childAt side.name value found) depth text rendered)

theorem unaryOperand_balanced : Ensures BalancedText (unaryOperand renderer node depth) :=
  .bind fun value found => .bind fun text rendered => .ok <|
    parenthesize_balanced _ (balances.render (balanced.childAt "value" value found) depth text rendered)

theorem itemVariable_balanced : Ensures BalancedText (itemVariable renderer node depth) := by
  refine .bind fun iterators found => .bind fun key isKey => .bind fun text rendered => .ok ?_
  have ofKey := (balanced.childAt "iterators" iterators found).childAt "key" key isKey
  exact balanced_enclosed "_" "Item" ⟨_, rfl⟩ ⟨_, rfl⟩ (balances.render ofKey depth text rendered)

theorem zipCounter_balanced : Ensures BalancedText (zipCounter renderer node depth) := by
  refine .bind fun parts found => .bind fun text rendered => .ok ?_
  have ofIterator := (everywhere_zipParts balanced parts found).1 parts.iterator List.mem_cons_self
  exact balanced_enclosed "_" "Index" ⟨_, rfl⟩ ⟨_, rfl⟩ (balances.render ofIterator depth text rendered)

theorem firstSequence_balanced : Ensures BalancedText (firstSequence renderer node depth) :=
  .bind fun parts found =>
    balances.render ((everywhere_zipParts balanced parts found).2 parts.sequence List.mem_cons_self) depth

theorem zipIterators_balanced : Ensures BalancedText (zipIterators renderer node depth) := by
  refine .bind fun parts found => .bind fun counter counted => .bind fun lines mapped => .ok ?_
  obtain ⟨iterators, sequences⟩ := everywhere_zipParts balanced parts found
  have ofCounter := zipCounter_balanced balances balanced depth counter counted
  refine Balanced.intercalate (balanced_lineBreak _ depth) lines (forall_mem_of_mapM mapped ?_)
  rintro ⟨iterator, sequence⟩ among
  obtain ⟨ofIterators, ofSequences⟩ := List.of_mem_zip among
  refine Ensures.bind fun name named => .bind fun element rendered => .ok ?_
  have ofName := balances.render (iterators iterator ofIterators) depth name named
  have elements := everywhere_index sequence counter (.named "Int") iterator.type (List.forall_mem_nil _)
    (List.forall_mem_singleton.mpr ofCounter) (sequences sequence ofSequences)
  have ofElement := balances.render elements depth element rendered
  have declaration := balanced_enclosed "var " " = " ⟨_, rfl⟩ ⟨_, rfl⟩ ofName
  exact .append_texts _ ";" (.append_texts _ _ declaration ofElement) ⟨_, rfl⟩

omit balances balanced in
theorem stringLiteral_balanced : Ensures BalancedText (stringLiteral renderer node depth) := by
  refine .bind fun text found => .ok ?_
  rw [BalancedText, String.toList_ofList]
  exact ⟨_, Shows.quote text.toList⟩

omit balances balanced in
theorem verbatimString_completes :
    Ensures (∃ pieces, Completes (.override "verbatim_string") · pieces) (verbatimString renderer node depth) := by
  refine .bind fun text found => .ok ?_
  obtain ⟨pieces, scanned⟩ := scan_quoteVerbatim text.toList
  refine ⟨pieces, ?_⟩
  rw [Completes, String.toList_ofList]
  exact scanned

theorem libraryCall_balanced (entry : Option LibraryEntry) (name : String) (ground : Ground) (holds : ground.Holds node)
    (passes : ∀ found, entry = some found → isBalanced ground found.template = true) :
    Ensures BalancedText (libraryCall renderer entry name node depth) := by
  cases entry with
  | none => exact .error _
  | some entry => exact balances.expand entry.template ground node depth balanced holds (passes entry rfl)

theorem standardCall_balanced (isCall : node.tag = .standardCall) :
    Ensures BalancedText (standardCall renderer node depth) :=
  .bind fun space _ => .bind fun function _ =>
    libraryCall_balanced balances balanced depth _ _ (.ofTag .standardCall) ⟨isCall, nofun⟩
      (balances.tables.functions space function)

theorem standardMethodCall_balanced (isCall : node.tag = .standardMethodCall) :
    Ensures BalancedText (standardMethodCall renderer node depth) :=
  .bind fun _ _ => .bind fun message _ =>
    libraryCall_balanced balances balanced depth _ _ (.ofTag .standardMethodCall) ⟨isCall, nofun⟩
      (balances.tables.methods _ message)

end Overrides

theorem overrides_keepBalance (profile : Profile) (declared : List String) :
    ∀ rule ∈ rules.overrides, KeepsBalance profile declared rule.name rule.function := by
  have written (name : String) (override : Override) (other : name ≠ "verbatim_string")
      (balanced : ∀ renderer, Balances renderer → ∀ ground node depth, ground.Holds node →
        keepsBrackets ground (.override name) = true → node.Everywhere BalancedNames →
        Ensures BalancedText (override renderer node depth)) : KeepsBalance profile declared name override :=
    fun fuel balances ground node depth holds keeps names text came => completes_of_balanced other <|
      balanced _ (balances fuel (Nat.le_refl fuel)) ground node depth holds keeps names text came
  simp only [rules, List.forall_mem_cons]
  refine ⟨written _ _ (by decide) ?_, written _ _ (by decide) ?_, written _ _ (by decide) ?_,
    written _ _ (by decide) ?_, written _ _ (by decide) ?_, written _ _ (by decide) ?_, written _ _ (by decide) ?_,
    written _ _ (by decide) ?_, written _ _ (by decide) ?_, written _ _ (by decide) ?_, ?_,
    written _ _ (by decide) ?_, written _ _ (by decide) ?_, written _ _ (by decide) ?_, written _ _ (by decide) ?_,
    written _ _ (by decide) ?_, List.forall_mem_nil _⟩
  · exact fun _ balances _ _ depth _ _ names => params_balanced balances names depth
  · exact fun _ balances _ _ depth _ _ names => anonymousBody_balanced balances names depth
  · exact fun _ _ _ _ depth _ _ names => base_balanced names depth
  · exact fun _ balances _ _ depth _ _ names => definitionsOf_balanced balances names depth .classDefinition
  · exact fun _ balances _ _ depth _ _ names => definitionsOf_balanced balances names depth .functionDefinition
  · exact fun _ balances _ _ depth _ _ names => itemVariable_balanced balances names depth
  · exact fun _ balances _ _ depth _ _ names => zipCounter_balanced balances names depth
  · exact fun _ balances _ _ depth _ _ names => firstSequence_balanced balances names depth
  · exact fun _ balances _ _ depth _ _ names => zipIterators_balanced balances names depth
  · exact fun _ _ _ _ depth _ _ _ => stringLiteral_balanced depth
  · exact fun _ _ _ _ depth _ _ _ => verbatimString_completes depth
  · exact fun _ balances _ _ depth holds keeps names =>
      standardCall_balanced balances names depth (holds.tag.trans (beq_iff_eq.mp keeps).symm)
  · exact fun _ balances _ _ depth holds keeps names =>
      standardMethodCall_balanced balances names depth (holds.tag.trans (beq_iff_eq.mp keeps).symm)
  · exact fun _ balances _ _ depth _ _ names => operand_balanced balances names depth .left
  · exact fun _ balances _ _ depth _ _ names => operand_balanced balances names depth .right
  · exact fun _ balances _ _ depth _ _ names => unaryOperand_balanced balances names depth

section Types

instance (text : String) : Decidable (TypeText text) :=
  decidable_of_iff (Balanced text.toList ∧ text.toList.all startsNoLiteral = true)
    ⟨fun ⟨balanced, chars⟩ => ⟨balanced, chars⟩, fun ofType => ⟨ofType.balanced, ofType.chars⟩⟩

theorem typeText_toString_nat (value : Nat) : TypeText (toString value) := .plain (numeral_toString_nat value).plain

/-- Types are spelled by texts of types, if declared names are. -/
theorem typeText_render {declared : List String} (names : ∀ name ∈ declared, TypeText name) (type : SemType) :
    Ensures TypeText (type.render types declared) := by
  have listed : ∀ entry ∈ types.entries, ∀ text ∈ entry.2.texts, TypeText text := by decide
  refine SemType.forall_render typeText_toString_nat names (fun name spelling found components inserted => ?_) type
  exact TypeText.apply spelling components (listed _ (types.mem_entries_of_get? name spelling found)) inserted

end Types

section Tables

set_option maxRecDepth 8000 in
theorem templates_balanced : ∀ registration ∈ templates, registration.Passes (Parsed.passes isBalanced) := by
  repeat
    refine List.forall_mem_cons.mpr ⟨?_, ?_⟩
    · first
      | exact Registration.passes_template _ _ (by decide)
      | exact Registration.passes_optional _ _ _ _ (by decide)
      | exact Registration.passes_switch _ _ [(_, _)] _ (by decide)
      | exact Registration.passes_switch _ _ [(_, _), (_, _), (_, _)] _ (by decide)
  exact List.forall_mem_nil _

theorem libraryFunctions_balanced :
    ∀ registration ∈ libraryFunctions, registration.Passes (Parsed.passes isBalanced) := by
  repeat
    refine List.forall_mem_cons.mpr ⟨?_, ?_⟩
    · exact Registration.passes_function _ _ _ _ (by decide)
  exact List.forall_mem_nil _

theorem libraryMethods_balanced :
    ∀ registration ∈ libraryMethods, registration.Passes (Parsed.passes isBalanced) := by
  repeat
    refine List.forall_mem_cons.mpr ⟨?_, ?_⟩
    · exact Registration.passes_method _ _ _ _ (by decide)
  exact List.forall_mem_nil _

theorem typeDependencies_balanced :
    ∀ registration ∈ typeDependencies, registration.Passes (Parsed.passes isBalanced) := by
  repeat refine List.forall_mem_cons.mpr ⟨⟨⟨_, rfl, rfl⟩⟩, ?_⟩
  exact List.forall_mem_nil _

theorem registrations_balanced (settings : LanguageSettings) :
    ∀ registration ∈ registrations settings, registration.Passes (Parsed.passes isBalanced) :=
  registrations_pass settings (fun found general => by cases found <;> first | rfl | cases general)
    typeDependencies_balanced libraryFunctions_balanced libraryMethods_balanced templates_balanced

end Tables

/-- Whatever the C# profile renders is balanced, if names are. -/
theorem profile_balances {settings : LanguageSettings} {built : Profile} (builds : profile settings = .ok built)
    (basics : Basics settings built) {declared : List String} (names : ∀ name ∈ declared, TypeText name) (fuel : Nat) :
    Balances (Rules.rendererAt built declared fuel) := by
  refine rendererAt_balances ?_ (fun type => ?_) ?_ (fun name override found => ?_) fuel
  · exact Profile.holds_of_build builds fun registration among =>
      (registrations_balanced settings registration among).check_eq
  · rw [basics.types]
    exact fun text rendered => (typeText_render names type text rendered).balanced
  · rw [basics.terminator]
    exact ⟨_, rfl⟩
  · obtain ⟨rule, listed, rfl, rfl⟩ := basics.noOthers name override found
    exact overrides_keepBalance built declared rule listed

end Retarget.CSharp
