import Mathlib.Data.List.Infix
import Mathlib.Data.List.TakeDrop
import Retarget.Template.Parse
import Retarget.Proofs.Building
import Retarget.Proofs.Pieces

/-! Template spelling. A template is spelled line by line, four blanks a level, and every directive in one
way. Canonical templates are those that say all that their spelling says. Here directives are read back from
how they are spelled, and every directive that is read is canonical. -/
namespace Retarget

section Spelling

def Path.spell (path : Path) : List Char := ['.'].intercalate (path.segments.map String.toList)

def JoinMode.spell : JoinMode → List Char
  | .separator text => "join ".toList ++ '\'' :: (text.toList ++ ['\''])
  | .lines => "lines".toList
  | .statements => "stmts".toList
  | .paragraphs => "paragraphs".toList

/-- What stands between the brackets of a directive. -/
def Directive.spell : Directive → List Char
  | .placeholder path => path.spell
  | .join path mode => path.spell ++ ':' :: mode.spell
  | .type path => '@' :: path.spell
  | .optional name => '.' :: name.toList
  | .override name => '#' :: name.toList

def Segment.spell : Segment → List Char
  | .text value => value.toList
  | .directive body => '%' :: '<' :: (body.spell ++ ['>'])

def Line.spell (line : Line) : List Char :=
  List.replicate (sourceIndent * line.level) ' ' ++ line.segments.flatMap Segment.spell

def Template.spell (template : Template) : String :=
  String.ofList (['\n'].intercalate (template.lines.map Line.spell))

end Spelling

section Canonical

/-- Neither a line feed nor a carriage return is among the characters. -/
def OnOneLine (chars : List Char) : Prop := '\n' ∉ chars ∧ '\r' ∉ chars

theorem OnOneLine.mono {part whole : List Char} (clean : OnOneLine whole) (within : part ⊆ whole) : OnOneLine part :=
  ⟨fun feed => clean.1 (within feed), fun ret => clean.2 (within ret)⟩

/-- Text closes its quotes, and every bracket in it is quoted. Whether a quote was opened before it is
given. -/
def ClosesFrom (quoted : Bool) (text : List Char) : Prop :=
  text.count '\'' % 2 = quoted.toNat ∧
    ∀ before after, text = before ++ '>' :: after → before.count '\'' % 2 ≠ quoted.toNat

def Path.Canonical (path : Path) : Prop := ∀ part ∈ path.segments, isIdentifier part.toList = true

def JoinMode.Canonical : JoinMode → Prop
  | .separator text => OnOneLine text.toList ∧ ClosesFrom false ('\'' :: (text.toList ++ ['\'']))
  | _ => True

def Directive.Canonical : Directive → Prop
  | .placeholder path => path.Canonical
  | .join path mode => path.Canonical ∧ mode.Canonical
  | .type path => path.Canonical
  | .optional name => isIdentifier name.toList = true
  | .override name => isIdentifier name.toList = true

def NoOpening (text : List Char) : Prop := ¬ ['%', '<'] <:+: text

def Segment.Canonical : Segment → Prop
  | .text value => value.toList ≠ [] ∧ NoOpening value.toList ∧ OnOneLine value.toList
  | .directive body => body.Canonical

/-- Text segments do not stand side by side. -/
def Apart (segments : List Segment) : Prop :=
  segments.IsChain fun first second => first.isDirective = true ∨ second.isDirective = true

/-- A line with content, as it is read. -/
structure Line.Canonical (line : Line) : Prop where
  segments : ∀ segment ∈ line.segments, segment.Canonical
  apart : Apart line.segments
  flush : ∀ value, line.segments.head? = some (.text value) → value.toList.head? ≠ some ' '
  visible : Text.isAllBlank line.spell = false

/-- A template as it is read: it begins and ends with content, stands at the margin and leaves blank lines
bare. -/
structure Template.Canonical (template : Template) : Prop where
  first : ∀ line, template.lines.head? = some line → line.isBlank = false
  last : ∀ line, template.lines.getLast? = some line → line.isBlank = false
  lowest : template.lines ≠ [] → ∃ line ∈ template.lines, line.isBlank = false ∧ line.level = 0
  bare : ∀ line ∈ template.lines, line.isBlank = true → line.level = 0
  lines : ∀ line ∈ template.lines, line.isBlank = false → line.Canonical

end Canonical

section Quotes

theorem closesFrom_nil (quoted : Bool) : ClosesFrom quoted [] ↔ quoted = false := by
  cases quoted <;> simp [ClosesFrom]

theorem closesFrom_cons (quoted : Bool) (c : Char) (rest : List Char) :
    ClosesFrom quoted (c :: rest) ↔
      ¬ (c = '>' ∧ quoted = false) ∧ ClosesFrom (if c = '\'' then !quoted else quoted) rest := by
  have parity (count : Nat) : (count + if c = '\'' then 1 else 0) % 2 = quoted.toNat ↔
      count % 2 = (if c = '\'' then !quoted else quoted).toNat := by
    by_cases quote : c = '\'' <;> cases quoted <;> simp [quote] <;> omega
  have counted (text : List Char) : (c :: text).count '\'' % 2 = quoted.toNat ↔
      text.count '\'' % 2 = (if c = '\'' then !quoted else quoted).toNat := by
    simp only [List.count_cons, beq_iff_eq, parity]
  simp only [ClosesFrom, counted]
  constructor
  · rintro ⟨closed, covered⟩
    refine ⟨?_, closed, fun before after split => ?_⟩
    · rintro ⟨rfl, rfl⟩
      exact covered [] rest rfl rfl
    · exact mt (counted before).mpr (covered (c :: before) after (by rw [split, List.cons_append]))
  · rintro ⟨other, closed, covered⟩
    refine ⟨closed, fun before after split => ?_⟩
    cases before with
    | nil =>
      cases split
      cases quoted <;> simp_all
    | cons b before =>
      obtain ⟨rfl, inner⟩ := List.cons_eq_cons.mp split
      exact mt (counted before).mp (covered before after inner)

/-- Text without quotes and brackets in front changes nothing. -/
theorem closesFrom_append_left (front rest : List Char) (quote : '\'' ∉ front) (bracket : '>' ∉ front) :
    ClosesFrom false (front ++ rest) ↔ ClosesFrom false rest := by
  induction front with
  | nil => rfl
  | cons c front ih =>
    simp only [List.mem_cons, not_or] at quote bracket
    simp [closesFrom_cons, Ne.symm quote.1, Ne.symm bracket.1, ih quote.2 bracket.2]

theorem closesFrom_append_right (text rest : List Char) (quoted : Bool) (quote : '\'' ∉ rest)
    (closed : ClosesFrom quoted (text ++ rest)) : ClosesFrom quoted text := by
  refine ⟨?_, fun before after split => ?_⟩
  · simpa [List.count_eq_zero_of_not_mem quote] using closed.1
  · exact closed.2 before (after ++ rest) (by simp [split])

end Quotes

section Names

theorem notMem_of_isIdentifier (name : List Char) (identifier : isIdentifier name = true) (c : Char)
    (other : isIdentifierChar c = false) : c ∉ name := by
  rw [isIdentifier, Bool.and_eq_true, List.all_eq_true] at identifier
  intro member
  simp [identifier.2 c member] at other

namespace Path

theorem parse?_eq_some_iff (source : List Char) (path : Path) :
    parse? source = some path ↔ path.Canonical ∧ source = path.spell := by
  have texts (parts : List (List Char)) : (parts.map String.ofList).map String.toList = parts := by
    simp [Function.comp_def]
  rw [parse?, Canonical, spell]
  constructor
  · intro parsed
    split at parsed
    · rename_i identifiers
      split at parsed
      · cases parsed
      · rename_i first rest parts
        cases parsed
        rw [segments, ← parts, texts, Text.intercalate_splitOn]
        simpa [List.all_eq_true] using identifiers
    · cases parsed
  · rintro ⟨identifiers, rfl⟩
    have split : Text.splitOn '.' (['.'].intercalate (path.segments.map String.toList)) =
        path.segments.map String.toList := by
      refine Text.splitOn_intercalate '.' _ ?_ (by simp [segments])
      simp only [List.forall_mem_map]
      exact fun part listed => notMem_of_isIdentifier _ (identifiers part listed) '.' (by decide)
    have all : (path.segments.map String.toList).all isIdentifier = true := by
      simpa [List.all_eq_true] using identifiers
    simp only [split, all]
    simp [segments]

theorem mem_spell (path : Path) (canonical : path.Canonical) (c : Char) (member : c ∈ path.spell) :
    isIdentifierChar c = true ∨ c = '.' := by
  rcases Text.mem_intercalate '.' c _ member with same | ⟨part, listed, within⟩
  · exact .inr same
  · obtain ⟨name, among, rfl⟩ := List.mem_map.mp listed
    have identifier := canonical name among
    rw [isIdentifier, Bool.and_eq_true, List.all_eq_true] at identifier
    exact .inl (identifier.2 c within)

theorem notMem_spell (path : Path) (canonical : path.Canonical) (c : Char) (other : isIdentifierChar c = false)
    (dot : c ≠ '.') : c ∉ path.spell := by
  intro member
  rcases mem_spell path canonical c member with identifier | same
  · simp [identifier] at other
  · exact dot same

theorem exists_first (path : Path) (canonical : path.Canonical) :
    ∃ c rest, path.spell = c :: rest ∧ isIdentifierChar c = true := by
  have identifier := canonical path.first List.mem_cons_self
  rw [isIdentifier, Bool.and_eq_true, List.all_eq_true] at identifier
  cases name : path.first.toList with
  | nil => simp [name] at identifier
  | cons c more =>
    have first := identifier.2 c (by simp [name])
    cases rest : path.rest <;> simp [spell, segments, name, rest, List.intercalate_cons_cons, first]

end Path

end Names

section Directives

/-- The scan stays inside a directive while it reads the spelling. -/
theorem closesFrom_of_plain (text : List Char) (quote : '\'' ∉ text) (bracket : '>' ∉ text) :
    ClosesFrom false text := by
  simpa [closesFrom_nil] using (closesFrom_append_left text [] quote bracket).mpr ((closesFrom_nil false).mpr rfl)

namespace JoinMode

/-- A separator stands between quotes, with blanks around them. -/
theorem separator?_eq_some_iff (source : List Char) (mode : JoinMode) :
    separator? source = some mode ↔ ∃ quoted text, source = "join ".toList ++ quoted ∧
      Text.trim quoted = '\'' :: (text ++ ['\'']) ∧ mode = .separator (String.ofList text) := by
  simp only [separator?, Option.bind_eq_bind, Option.bind_eq_some_iff, Text.dropPrefix?_eq_some_iff,
    Option.ite_none_right_eq_some, Option.some.injEq]
  constructor
  · rintro ⟨quoted, rfl, opened, trimmed, last, rfl⟩
    refine ⟨quoted, opened.dropLast, rfl, ?_, rfl⟩
    rw [trimmed, List.dropLast_append_getLast? _ last]
    rfl
  · rintro ⟨quoted, text, rfl, trimmed, rfl⟩
    exact ⟨quoted, rfl, text ++ ['\''], trimmed, by simp, by simp⟩

theorem spell_separator (text : String) :
    spell (.separator text) = "join ".toList ++ '\'' :: (text.toList ++ ['\'']) := rfl

theorem parse?_spell (mode : JoinMode) : parse? mode.spell = some mode := by
  cases mode with
  | separator text =>
    have trimmed : Text.trim ('\'' :: (text.toList ++ ['\''])) = '\'' :: (text.toList ++ ['\'']) := by
      refine Text.trim_eq_self _ ?_ ?_
      · rintro c same
        cases same
        decide
      · rw [← List.cons_append, List.getLast?_concat]
        rintro c same
        cases same
        decide
    have read := (separator?_eq_some_iff _ _).mpr ⟨_, text.toList, spell_separator text, trimmed, rfl⟩
    have other (word : List Char) (start : word.head? ≠ some 'j') : spell (.separator text) ≠ word := by
      rintro rfl
      rw [spell_separator] at start
      exact start rfl
    rw [parse?, if_neg (other _ (by decide)), if_neg (other _ (by decide)), if_neg (other _ (by decide)), read,
      String.ofList_toList]
  | lines => rfl
  | statements => rfl
  | paragraphs => rfl

theorem canonical_of_parse? (source : List Char) (mode : JoinMode) (parsed : parse? source = some mode)
    (clean : OnOneLine source) (closed : ClosesFrom false source) : mode.Canonical := by
  rw [parse?] at parsed
  split at parsed
  · cases parsed
    trivial
  split at parsed
  · cases parsed
    trivial
  split at parsed
  · cases parsed
    trivial
  · obtain ⟨quoted, text, rfl, trimmed, rfl⟩ := (separator?_eq_some_iff _ _).mp parsed
    obtain ⟨left, right, split, blankLeft, blankRight⟩ := Text.exists_trim quoted
    rw [trimmed] at split
    subst split
    have bare (blank : List Char) (all : Text.isAllBlank blank = true) (c : Char) (ink : Text.isBlank c = false) :
        c ∉ blank := by
      intro member
      simp [List.all_eq_true.mp all c member] at ink
    constructor
    · have within : text ⊆ "join ".toList ++ (left ++ ('\'' :: (text ++ ['\'']) ++ right)) := by
        intro c member
        simp [member]
      rw [String.toList_ofList]
      exact clean.mono within
    · rw [closesFrom_append_left _ _ (by decide) (by decide),
        closesFrom_append_left _ _ (bare left blankLeft _ (by decide)) (bare left blankLeft _ (by decide))] at closed
      rw [String.toList_ofList]
      exact closesFrom_append_right _ right false (bare right blankRight _ (by decide)) closed

theorem onOneLine_spell (mode : JoinMode) (canonical : mode.Canonical) : OnOneLine mode.spell := by
  cases mode with
  | separator text =>
    rw [spell_separator]
    have clean : OnOneLine text.toList := canonical.1
    refine ⟨?_, ?_⟩
    · simp [clean.1]
    · simp [clean.2]
  | lines => exact ⟨by decide, by decide⟩
  | statements => exact ⟨by decide, by decide⟩
  | paragraphs => exact ⟨by decide, by decide⟩

theorem closesFrom_spell (mode : JoinMode) (canonical : mode.Canonical) : ClosesFrom false mode.spell := by
  cases mode with
  | separator text => exact (closesFrom_append_left _ _ (by decide) (by decide)).mpr canonical.2
  | lines => exact closesFrom_of_plain _ (by decide) (by decide)
  | statements => exact closesFrom_of_plain _ (by decide) (by decide)
  | paragraphs => exact closesFrom_of_plain _ (by decide) (by decide)

end JoinMode

namespace Directive

/-- Directives that start with a name: a placeholder or a join. -/
theorem parse?_of_name (c : Char) (rest : List Char) (identifier : isIdentifierChar c = true) :
    parse? (c :: rest) = match (c :: rest).span (· != ':') with
      | (path, []) => placeholder <$> Path.parse? path
      | (path, _ :: mode) => do return join (← Path.parse? path) (← JoinMode.parse? mode) := by
  have other (d : Char) (mark : isIdentifierChar d = false) : c ≠ d := by
    rintro rfl
    simp [identifier] at mark
  rewrite [parse?]
  · rfl
  · exact fun _ same => other '.' (by decide) (List.cons.inj same).1
  · exact fun _ same => other '#' (by decide) (List.cons.inj same).1
  · exact fun _ same => other '@' (by decide) (List.cons.inj same).1

theorem span_path (path : Path) (canonical : path.Canonical) (rest : List Char)
    (ends : rest = [] ∨ rest.head? = some ':') :
    (path.spell ++ rest).span (· != ':') = (path.spell, rest) := by
  have inside : ∀ c ∈ path.spell, (c != ':') = true := by
    intro c member
    rw [bne_iff_ne]
    rintro rfl
    exact Path.notMem_spell path canonical ':' (by decide) (by decide) member
  rw [List.span_eq_takeWhile_dropWhile, List.takeWhile_append_of_pos inside, List.dropWhile_append_of_pos inside]
  cases rest <;> simp_all

theorem parse?_spell (directive : Directive) (canonical : directive.Canonical) :
    parse? directive.spell = some directive := by
  have read (path : Path) (canonical : path.Canonical) : Path.parse? path.spell = some path :=
    (Path.parse?_eq_some_iff _ _).mpr ⟨canonical, rfl⟩
  cases directive with
  | placeholder path =>
    obtain ⟨c, rest, first, identifier⟩ := Path.exists_first path canonical
    have split := span_path path canonical [] (.inl rfl)
    rw [List.append_nil] at split
    rw [spell, first, parse?_of_name c rest identifier, ← first, split]
    simp [read path canonical]
  | join path mode =>
    obtain ⟨c, rest, first, identifier⟩ := Path.exists_first path canonical.1
    have split := span_path path canonical.1 (':' :: mode.spell) (.inr rfl)
    rw [spell]
    rw [first, List.cons_append] at split ⊢
    rw [parse?_of_name c _ identifier, split, ← first]
    simp [read path canonical.1, JoinMode.parse?_spell mode]
  | type path => simp [spell, parse?, read path canonical]
  | optional name =>
    have identifier : isIdentifier name.toList = true := canonical
    simp [spell, parse?, name?, identifier]
  | override name =>
    have identifier : isIdentifier name.toList = true := canonical
    simp [spell, parse?, name?, identifier]

theorem eq_of_span (body path : List Char) (c : Char) (mode : List Char)
    (split : body.span (· != ':') = (path, c :: mode)) : c = ':' ∧ body = path ++ c :: mode := by
  rw [List.span_eq_takeWhile_dropWhile, Prod.mk.injEq] at split
  constructor
  · have stop := List.head?_dropWhile_not (· != ':') body
    simpa [split.2] using stop
  · rw [← split.1, ← split.2, List.takeWhile_append_dropWhile]

theorem canonical_of_parse? (body : List Char) (directive : Directive) (parsed : parse? body = some directive)
    (clean : OnOneLine body) (closed : ClosesFrom false body) : directive.Canonical := by
  have named (name : List Char) (wrap : String → Directive) (parsed : wrap <$> name? name = some directive) :
      ∃ found, wrap found = directive ∧ isIdentifier found.toList = true := by
    simp only [name?, Option.map_eq_map, Option.map_eq_some_iff, Option.ite_none_right_eq_some,
      Option.some.injEq] at parsed
    obtain ⟨found, ⟨identifier, rfl⟩, same⟩ := parsed
    exact ⟨_, same, by simpa using identifier⟩
  have placed (path : List Char) (wrap : Path → Directive) (parsed : wrap <$> Path.parse? path = some directive) :
      ∃ found, wrap found = directive ∧ found.Canonical := by
    simp only [Option.map_eq_map, Option.map_eq_some_iff, Path.parse?_eq_some_iff] at parsed
    obtain ⟨found, ⟨canonical, _⟩, same⟩ := parsed
    exact ⟨found, same, canonical⟩
  rw [parse?.eq_def] at parsed
  split at parsed
  · obtain ⟨name, rfl, identifier⟩ := named _ _ parsed
    exact identifier
  · obtain ⟨name, rfl, identifier⟩ := named _ _ parsed
    exact identifier
  · obtain ⟨path, rfl, canonical⟩ := placed _ _ parsed
    exact canonical
  · split at parsed
    · obtain ⟨path, rfl, canonical⟩ := placed _ _ parsed
      exact canonical
    · rename_i path c mode split
      obtain ⟨rfl, rfl⟩ := eq_of_span body path c mode split
      simp only [Option.bind_eq_bind, Option.bind_eq_some_iff, Option.pure_def, Option.some.injEq,
        Path.parse?_eq_some_iff] at parsed
      obtain ⟨place, ⟨canonical, rfl⟩, way, parsed, rfl⟩ := parsed
      refine ⟨canonical, JoinMode.canonical_of_parse? mode way parsed ?_ ?_⟩
      · exact clean.mono (by simp)
      · have quote := Path.notMem_spell place canonical '\'' (by decide) (by decide)
        have bracket := Path.notMem_spell place canonical '>' (by decide) (by decide)
        rw [closesFrom_append_left _ _ quote bracket, closesFrom_cons] at closed
        exact closed.2

theorem onOneLine_spell (directive : Directive) (canonical : directive.Canonical) : OnOneLine directive.spell := by
  have placed (path : Path) (canonical : path.Canonical) : OnOneLine path.spell :=
    ⟨Path.notMem_spell path canonical _ (by decide) (by decide),
      Path.notMem_spell path canonical _ (by decide) (by decide)⟩
  have named (name : String) (identifier : isIdentifier name.toList = true) : OnOneLine name.toList :=
    ⟨notMem_of_isIdentifier _ identifier _ (by decide), notMem_of_isIdentifier _ identifier _ (by decide)⟩
  cases directive with
  | placeholder path => exact placed path canonical
  | join path mode =>
    have before := placed path canonical.1
    have after := JoinMode.onOneLine_spell mode canonical.2
    exact ⟨by simp [spell, before.1, after.1], by simp [spell, before.2, after.2]⟩
  | type path =>
    have inner := placed path canonical
    exact ⟨by simp [spell, inner.1], by simp [spell, inner.2]⟩
  | optional name =>
    have inner := named name canonical
    exact ⟨by simp [spell, inner.1], by simp [spell, inner.2]⟩
  | override name =>
    have inner := named name canonical
    exact ⟨by simp [spell, inner.1], by simp [spell, inner.2]⟩

theorem closesFrom_spell (directive : Directive) (canonical : directive.Canonical) :
    ClosesFrom false directive.spell := by
  have placed (path : Path) (canonical : path.Canonical) : '\'' ∉ path.spell ∧ '>' ∉ path.spell :=
    ⟨Path.notMem_spell path canonical _ (by decide) (by decide),
      Path.notMem_spell path canonical _ (by decide) (by decide)⟩
  have named (name : String) (identifier : isIdentifier name.toList = true) : '\'' ∉ name.toList ∧ '>' ∉ name.toList :=
    ⟨notMem_of_isIdentifier _ identifier _ (by decide), notMem_of_isIdentifier _ identifier _ (by decide)⟩
  cases directive with
  | placeholder path => exact closesFrom_of_plain _ (placed path canonical).1 (placed path canonical).2
  | join path mode =>
    obtain ⟨quote, bracket⟩ := placed path canonical.1
    have after := JoinMode.closesFrom_spell mode canonical.2
    rw [spell, closesFrom_append_left _ _ quote bracket, closesFrom_cons]
    exact ⟨by simp, after⟩
  | type path =>
    obtain ⟨quote, bracket⟩ := placed path canonical
    exact closesFrom_of_plain _ (by simp [spell, quote]) (by simp [spell, bracket])
  | optional name =>
    obtain ⟨quote, bracket⟩ := named name canonical
    exact closesFrom_of_plain _ (by simp [spell, quote]) (by simp [spell, bracket])
  | override name =>
    obtain ⟨quote, bracket⟩ := named name canonical
    exact closesFrom_of_plain _ (by simp [spell, quote]) (by simp [spell, bracket])

end Directive

end Directives

end Retarget
