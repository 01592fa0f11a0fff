import Retarget.Proofs.LiteralReading
import Retarget.Proofs.WovenTrees

/-! Literals in generated text. A string is written as a regular literal and a pattern as a verbatim one, at every
depth, and what is nested around them leaves them as they are: templates, blocks and margins are the same for every
value. A regular literal denotes its value if this has none of three ends of lines, for which there is no escape; a
verbatim literal always denotes its value. -/
namespace Retarget.CSharp

theorem isAllBlank_cons (c : Char) (rest : List Char) (visible : Text.isBlank c = false) :
    Text.isAllBlank (c :: rest) = false := by
  rw [Text.isAllBlank, List.all_cons, visible]
  rfl

/-- Literals can be seen. -/
theorem written_string_visible (value : String) : Text.isAllBlank (written .string value).toList = false := by
  rw [written, String.toList_ofList]
  exact isAllBlank_cons '"' _ (by decide)

theorem toList_written_regex (value : String) :
    (written .regex value).toList = "new Regex(".toList ++ quoteVerbatim value.toList ++ [')'] := by
  simp only [written, String.toList_append, String.toList_ofList]
  exact congrArg _ (by decide)

theorem written_regex_visible (value : String) : Text.isAllBlank (written .regex value).toList = false := by
  rw [toList_written_regex, List.append_assoc]
  exact isAllBlank_cons 'n' _ (by decide)

theorem Profile.render_leaf {settings : LanguageSettings} {built : Profile} (basics : Basics settings built)
    (declared : List String) (leaf : Leaf) (text : String) (type : SemType) (depth : Nat)
    (visible : Text.isAllBlank (written leaf text).toList = false) :
    built.render declared ⟨leaf.kind text, type⟩ depth = .ok (written leaf text) := by
  obtain ⟨fuel, enough⟩ := built.exists_nesting_eq (Node.mk (leaf.kind text) type).size
  have rendered := CSharp.render_leaf basics declared fuel depth leaf text type visible
  rw [← enough] at rendered
  exact rendered

/-- A tree without library calls is rendered if its loops match and its types are known. -/
theorem exists_render_plain {settings : LanguageSettings} {built : Profile} (builds : profile settings = .ok built)
    (tree : Node) (isPart : tree.tag.isPart = false) (loops : ∀ node ∈ tree.walk, node.PartsMatch)
    (plain : ∀ node ∈ tree.walk, node.callsKnown .empty = true)
    (known : ∀ node ∈ tree.walk, ∀ type ∈ node.types, type.isKnown types [] = true) (depth : Nat) :
    ∃ text, built.render [] tree depth = .ok text := by
  obtain ⟨_, same, basics, fits⟩ := exists_profile settings
  cases builds.symm.trans same
  refine exists_render basics fits [] tree isPart loops (fun node member => ?_) known depth
  have none := plain node member
  obtain ⟨kind, type⟩ := node
  cases kind with
  | standardCall => cases none
  | standardMethodCall => cases none
  | _ => rfl

/-- A string is written as a literal that is read as its value, whatever follows; only if the value has an end of a line
that has no escape, it is no literal. Nothing around it depends on the value. -/
theorem string_literals_denote_values :
    ∀ settings, ∃ built, profile settings = .ok built ∧ ∃ literal : String → List Char,
      (∀ value following, readLiteral (literal value ++ following) =
        if value.toList.any endsLineRaw then none else some (value.toList, following)) ∧
      (∀ declared value type depth,
        built.render declared ⟨.string value, type⟩ depth = .ok (String.ofList (literal value))) ∧
      ∀ declared value (tree : Node) depth text, tree.LoopsMatch → built.render declared tree depth = .ok text →
        ∃ pieces : List (List Char), pieces.length = copies built.library .string value tree + 1 ∧
          ∀ other, built.render declared (tree.relabel (Leaf.string.put value other)) depth =
            .ok (String.ofList ((literal other).intercalate pieces)) := by
  intro settings
  obtain ⟨built, builds, basics, _⟩ := exists_profile settings
  refine ⟨built, builds, fun value => quote value.toList, fun value following => readLiteral_quote _ following,
    fun declared value type depth => ?_, fun declared value tree depth text loops rendered => ?_⟩
  · exact Profile.render_leaf basics declared .string value type depth (written_string_visible value)
  · obtain ⟨pieces, length, exchanged⟩ := render_exchanged builds declared .string value tree loops.2 depth
      (written_string_visible value) text rendered
    refine ⟨pieces, length, fun other => (exchanged other (written_string_visible other)).trans ?_⟩
    rw [written, String.toList_ofList]

/-- A loop around something. -/
def inLoop (argument : Node) : Node :=
  .whileStatement (.localVar "going" (.named "Boolean"))
    [.call (.localVar "handle" (.named "Function")) [argument] .void]

/-- A message in quotes, with an end of a line. -/
def greeting : Node := inLoop ⟨.string "say \"hi\"\n", .named "String"⟩

theorem greeting_is_read_back : greeting.LoopsMatch ∧ ∃ built text literal pieces, profile {} = .ok built ∧
    built.render [] greeting 1 = .ok text ∧ text = String.ofList (literal.intercalate pieces) ∧
    pieces.length = 2 ∧ readLiteral literal = some ("say \"hi\"\n".toList, []) := by
  have loops : greeting.LoopsMatch := ⟨rfl, by decide +kernel⟩
  obtain ⟨built, builds, literal, reads, _, nested⟩ := string_literals_denote_values {}
  obtain ⟨text, rendered⟩ := exists_render_plain builds greeting rfl loops.2 (by decide +kernel) (by decide +kernel) 1
  obtain ⟨pieces, length, exchanged⟩ := nested [] "say \"hi\"\n" greeting 1 text loops rendered
  have same := exchanged "say \"hi\"\n"
  have read := reads "say \"hi\"\n" []
  rw [Leaf.put_self, rendered] at same
  rw [List.append_nil] at read
  exact ⟨loops, built, text, _, pieces, builds, rendered, Except.ok.inj same, length, read⟩

/-- The separator of lines has no escape, so that a string with it is no literal. -/
theorem line_separator_is_no_literal : ∃ built, profile {} = .ok built ∧
    built.render [] ⟨.string "\u2028", .named "String"⟩ 0 = .ok "\"\u2028\"" ∧
    readLiteral "\"\u2028\"".toList = none := by
  obtain ⟨built, builds, basics, _⟩ := exists_profile {}
  refine ⟨built, builds, ?_, ?_⟩
  · exact Profile.render_leaf basics [] .string "\u2028" _ 0 (written_string_visible "\u2028")
  · decide

/-- A pattern is written as a construction from a literal that is read as its value, up to the parenthesis behind it.
Nothing around it depends on the value, and nothing is put into a value of several lines. -/
theorem pattern_literals_denote_values :
    ∀ settings, ∃ built, profile settings = .ok built ∧ ∃ literal : String → List Char,
      (∀ value following, readVerbatim (literal value ++ ')' :: following) =
        some (value.toList, ')' :: following)) ∧
      (∀ declared value type depth,
        built.render declared ⟨.regex value, type⟩ depth = .ok ("new Regex(" ++ String.ofList (literal value) ++ ")")) ∧
      ∀ declared value (tree : Node) depth text, tree.LoopsMatch → built.render declared tree depth = .ok text →
        ∃ pieces : List (List Char), pieces.length = copies built.library .regex value tree + 1 ∧
          ∀ other, built.render declared (tree.relabel (Leaf.regex.put value other)) depth =
            .ok (String.ofList (("new Regex(".toList ++ literal other ++ [')']).intercalate pieces)) := by
  intro settings
  obtain ⟨built, builds, basics, _⟩ := exists_profile settings
  refine ⟨built, builds, fun value => quoteVerbatim value.toList, fun value following => ?_,
    fun declared value type depth => ?_, fun declared value tree depth text loops rendered => ?_⟩
  · exact readVerbatim_quoteVerbatim value.toList _ (by simp)
  · exact Profile.render_leaf basics declared .regex value type depth (written_regex_visible value)
  · obtain ⟨pieces, length, exchanged⟩ := render_exchanged builds declared .regex value tree loops.2 depth
      (written_regex_visible value) text rendered
    refine ⟨pieces, length, fun other => (exchanged other (written_regex_visible other)).trans ?_⟩
    rw [toList_written_regex]

/-- A pattern of two lines, with quotes at its ends. -/
def twoLines : Node := inLoop ⟨.regex "\"a\"\n  b\"\"", .named "Regexp"⟩

theorem twoLines_is_read_back : twoLines.LoopsMatch ∧ ∃ built text literal pieces, profile {} = .ok built ∧
    built.render [] twoLines 1 = .ok text ∧
    text = String.ofList (("new Regex(".toList ++ literal ++ [')']).intercalate pieces) ∧ pieces.length = 2 ∧
    readVerbatim (literal ++ [')']) = some ("\"a\"\n  b\"\"".toList, [')']) := by
  have loops : twoLines.LoopsMatch := ⟨rfl, by decide +kernel⟩
  obtain ⟨built, builds, literal, reads, _, nested⟩ := pattern_literals_denote_values {}
  obtain ⟨text, rendered⟩ := exists_render_plain builds twoLines rfl loops.2 (by decide +kernel) (by decide +kernel) 1
  obtain ⟨pieces, length, exchanged⟩ := nested [] "\"a\"\n  b\"\"" twoLines 1 text loops rendered
  have same := exchanged "\"a\"\n  b\"\""
  rw [Leaf.put_self, rendered] at same
  exact ⟨loops, built, text, _, pieces, builds, rendered, Except.ok.inj same, length, reads _ []⟩

end Retarget.CSharp
