import Mathlib.Data.List.Chain
import Retarget.Proofs.TemplateSpelling

/-! Template sources. The segments of a line are read back from how they are spelled, then lines at the
margin, then templates; what is read from a source is canonical. So parsing a template inverts spelling it. -/
namespace Retarget

section Scanning

variable (owner line : String)

theorem noOpening_cons (c : Char) (rest : List Char) :
    NoOpening (c :: rest) ↔ ¬ (c = '%' ∧ rest.head? = some '<') ∧ NoOpening rest := by
  simp only [NoOpening, List.infix_cons_iff, not_or, List.cons_prefix_cons, @eq_comm _ '%' c]
  cases rest <;> simp [@eq_comm _ '<']

/-- The text up to a directive or the end of the line. -/
theorem scanSegments_text (read value rest : List Char) (plain : NoOpening value)
    (ends : rest = [] ∨ ∃ more, rest = '%' :: '<' :: more) :
    scanSegments owner line (.text read) (value ++ rest) =
      Segment.consText (value.reverse ++ read) <$> scanSegments owner line (.text []) rest := by
  induction value generalizing read with
  | nil =>
    rcases ends with rfl | ⟨more, rfl⟩
    · rfl
    · simp only [List.nil_append, List.reverse_nil, scanSegments]
      cases scanSegments owner line (.directive [] false) more <;> rfl
  | cons c value ih =>
    rw [noOpening_cons] at plain
    have step : scanSegments owner line (.text read) (c :: (value ++ rest)) =
        scanSegments owner line (.text (c :: read)) (value ++ rest) := by
      rw [scanSegments]
      rintro more rfl opening
      cases value with
      | nil => rcases ends with rfl | ⟨others, rfl⟩ <;> simp at opening
      | cons d value => simp_all
    rw [List.cons_append, step, ih _ plain.2, List.reverse_cons, List.append_assoc]
    rfl

theorem scanSegments_directive (read body rest : List Char) (quoted : Bool) (closed : ClosesFrom quoted body) :
    scanSegments owner line (.directive read quoted) (body ++ '>' :: rest) =
      match Directive.parse? (read.reverse ++ body) with
      | none => .error (.invalidDirective owner (String.ofList (read.reverse ++ body)))
      | some directive => (.directive directive :: ·) <$> scanSegments owner line (.text []) rest := by
  induction body generalizing read quoted with
  | nil =>
    rw [closesFrom_nil] at closed
    rewrite [List.nil_append, List.append_nil, scanSegments, if_pos ⟨rfl, closed⟩]
    cases Directive.parse? read.reverse <;> rfl
  | cons c body ih =>
    rw [closesFrom_cons] at closed
    rw [List.cons_append, scanSegments, if_neg closed.1, ih _ _ closed.2]
    simp

/-- Text that was read, and what was read after it. -/
theorem exists_text_of_scanSegments (read source : List Char) (segments : List Segment)
    (scanned : scanSegments owner line (.text read) source = .ok segments) :
    ∃ value rest more, NoOpening value ∧ source = value ++ rest ∧ (rest = [] ∨ ∃ after, rest = '%' :: '<' :: after) ∧
      scanSegments owner line (.text []) rest = .ok more ∧
      segments = Segment.consText (value.reverse ++ read) more := by
  induction source generalizing read with
  | nil =>
    cases scanned
    exact ⟨[], [], [], by simp [NoOpening], rfl, .inl rfl, rfl, rfl⟩
  | cons c source ih =>
    by_cases opening : c = '%' ∧ source.head? = some '<'
    · obtain ⟨rfl, after, rfl⟩ : c = '%' ∧ ∃ after, source = '<' :: after := by
        cases source <;> simp_all
      rw [scanSegments] at scanned
      obtain ⟨more, rest, rfl⟩ := (map_eq_ok_iff _ _ _).mp scanned
      refine ⟨[], _, more, by simp [NoOpening], rfl, .inr ⟨after, rfl⟩, ?_, rfl⟩
      rw [scanSegments, rest]
      rfl
    · rw [scanSegments] at scanned
      · obtain ⟨value, rest, more, plain, rfl, ends, inner, rfl⟩ := ih _ scanned
        refine ⟨c :: value, rest, more, ?_, rfl, ends, inner, by simp⟩
        refine (noOpening_cons c value).mpr ⟨fun both => opening ⟨both.1, ?_⟩, plain⟩
        simp [List.head?_append, both.2]
      · rintro after rfl rfl
        simp at opening

/-- A directive that was read, and what was read after it. -/
theorem exists_directive_of_scanSegments (read source : List Char) (quoted : Bool) (segments : List Segment)
    (scanned : scanSegments owner line (.directive read quoted) source = .ok segments) :
    ∃ body rest directive more, source = body ++ '>' :: rest ∧ ClosesFrom quoted body ∧
      Directive.parse? (read.reverse ++ body) = some directive ∧
      scanSegments owner line (.text []) rest = .ok more ∧ segments = .directive directive :: more := by
  induction source generalizing read quoted with
  | nil => cases scanned
  | cons c source ih =>
    rw [scanSegments] at scanned
    split at scanned
    · rename_i closing
      obtain ⟨rfl, rfl⟩ := closing
      split at scanned
      · cases scanned
      · rename_i directive parsed
        obtain ⟨more, rest, rfl⟩ := (map_eq_ok_iff _ _ _).mp scanned
        exact ⟨[], source, directive, more, rfl, (closesFrom_nil _).mpr rfl, by simpa using parsed, rest, rfl⟩
    · rename_i inside
      obtain ⟨body, rest, directive, more, rfl, closed, parsed, inner, rfl⟩ := ih _ _ scanned
      exact ⟨c :: body, rest, directive, more, rfl, (closesFrom_cons _ _ _).mpr ⟨inside, closed⟩, by simpa using parsed,
        inner, rfl⟩

end Scanning

section Segments

variable (owner line : String)

theorem spell_ends (segments : List Segment) (apart : ∀ value, segments.head? ≠ some (.text value)) :
    segments.flatMap Segment.spell = [] ∨ ∃ more, segments.flatMap Segment.spell = '%' :: '<' :: more := by
  cases segments with
  | nil => exact .inl rfl
  | cons segment rest =>
    cases segment with
    | text value => exact absurd rfl (apart value)
    | directive body => exact .inr ⟨_, rfl⟩

/-- Canonical segments are read back from how they are spelled. -/
theorem scanSegments_spell (segments : List Segment) (canonical : ∀ segment ∈ segments, segment.Canonical)
    (apart : Apart segments) :
    scanSegments owner line (.text []) (segments.flatMap Segment.spell) = .ok segments := by
  induction segments with
  | nil => rfl
  | cons segment rest ih =>
    simp only [List.forall_mem_cons] at canonical
    rw [Apart, List.isChain_cons] at apart
    have following := ih canonical.2 apart.2
    cases segment with
    | text value =>
      obtain ⟨inked, plain, clean⟩ := canonical.1
      have ends : ∀ other, rest.head? ≠ some (.text other) := by
        intro other first
        simpa [Segment.isDirective] using apart.1 _ first
      rw [List.flatMap_cons, Segment.spell, scanSegments_text owner line [] _ _ plain (spell_ends rest ends), following]
      simp [Segment.consText, inked]
    | directive body =>
      have closed := Directive.closesFrom_spell body canonical.1
      have read := scanSegments_directive owner line [] body.spell (rest.flatMap Segment.spell) false closed
      rw [List.reverse_nil, List.nil_append, Directive.parse?_spell body canonical.1, following] at read
      have spelled : (Segment.directive body :: rest).flatMap Segment.spell =
          '%' :: '<' :: (body.spell ++ '>' :: rest.flatMap Segment.spell) := by
        simp [Segment.spell]
      rw [spelled, scanSegments, read]
      rfl

/-- What reading the segments of a line gives: they are canonical and apart, a text at the start is where the
line starts, and blank segments come from a blank line only. -/
structure ReadsAs (source : List Char) (segments : List Segment) : Prop where
  canonical : ∀ segment ∈ segments, segment.Canonical
  apart : Apart segments
  start : ∀ value, segments.head? = some (.text value) → value.toList <+: source
  ink : Text.isAllBlank (segments.flatMap Segment.spell) = Text.isAllBlank source

theorem readsAs_text (value : List Char) (plain : NoOpening value) (clean : OnOneLine value) :
    ReadsAs value (Segment.consText value.reverse []) := by
  cases value with
  | nil => exact ⟨by simp [Segment.consText], .nil, by simp [Segment.consText], rfl⟩
  | cons c rest =>
    have segments : Segment.consText (c :: rest).reverse [] = [.text (String.ofList (c :: rest))] := by
      simp [Segment.consText]
    rw [segments]
    refine ⟨?_, .singleton _, ?_, ?_⟩
    · simpa [Segment.Canonical] using ⟨plain, clean⟩
    · rintro other same
      cases same
      simp
    · simp [Segment.spell]

theorem readsAs_directive (value body rest : List Char) (directive : Directive) (more : List Segment)
    (plain : NoOpening value) (clean : OnOneLine value) (canonical : directive.Canonical) (reads : ReadsAs rest more) :
    ReadsAs (value ++ '%' :: '<' :: (body ++ '>' :: rest))
      (Segment.consText value.reverse (.directive directive :: more)) := by
  have apart : Apart (.directive directive :: more) :=
    List.isChain_cons.mpr ⟨fun _ _ => .inl rfl, reads.apart⟩
  have percent : Text.isBlank '%' = false := by decide
  cases value with
  | nil =>
    refine ⟨?_, apart, ?_, ?_⟩
    · simpa [Segment.consText] using ⟨canonical, reads.canonical⟩
    · simp [Segment.consText]
    · simp [Segment.consText, Text.isAllBlank, Segment.spell, percent]
  | cons c text =>
    have segments : Segment.consText (c :: text).reverse (.directive directive :: more) =
        .text (String.ofList (c :: text)) :: .directive directive :: more := by
      simp [Segment.consText]
    rw [segments]
    refine ⟨?_, List.isChain_cons_cons.mpr ⟨.inr rfl, apart⟩, ?_, ?_⟩
    · simp only [List.forall_mem_cons]
      exact ⟨⟨by simp, by simpa using plain, by simpa using clean⟩, canonical, reads.canonical⟩
    · rintro other same
      cases same
      simp
    · simp [Text.isAllBlank, Segment.spell, percent]

theorem readsAs_of_scanSegments (source : List Char) (segments : List Segment) (clean : OnOneLine source)
    (scanned : scanSegments owner line (.text []) source = .ok segments) : ReadsAs source segments := by
  obtain ⟨value, rest, more, plain, rfl, ends, following, rfl⟩ := exists_text_of_scanSegments owner line _ _ _ scanned
  rw [List.append_nil]
  have cleanText : OnOneLine value := clean.mono (by simp)
  rcases ends with rfl | ⟨after, rfl⟩
  · cases following
    rw [List.append_nil]
    exact readsAs_text value plain cleanText
  · rw [scanSegments] at following
    obtain ⟨inner, opened, same⟩ := (map_eq_ok_iff _ _ _).mp following
    obtain ⟨body, rest, directive, others, rfl, closed, parsed, remaining, rfl⟩ :=
      exists_directive_of_scanSegments owner line _ _ _ _ opened
    cases same
    have cleanBody : OnOneLine body := clean.mono fun c member => by simp [member]
    have cleanRest : OnOneLine rest := clean.mono fun c member => by simp [member]
    exact readsAs_directive value body rest directive others plain cleanText
      (Directive.canonical_of_parse? body directive parsed cleanBody closed)
      (readsAs_of_scanSegments rest others cleanRest remaining)
termination_by source.length

end Segments

section Lines

theorem isBlank_iff (line : Line) : line.isBlank = true ↔ line.segments = [] := by
  rw [Line.isBlank, List.isEmpty_iff]

theorem leadingSpaces_replicate (count : Nat) (content : List Char) (flush : content.head? ≠ some ' ') :
    leadingSpaces (List.replicate count ' ' ++ content) = count := by
  have none : content.takeWhile (· == ' ') = [] := by
    cases content <;> simp_all
  rw [leadingSpaces, List.takeWhile_append_of_pos (by simp), none]
  simp

theorem drop_leadingSpaces (source : List Char) :
    source.drop (leadingSpaces source) = source.dropWhile (· == ' ') := by
  have split : source.takeWhile (· == ' ') ++ source.dropWhile (· == ' ') = source := List.takeWhile_append_dropWhile
  calc source.drop (leadingSpaces source)
      = (source.takeWhile (· == ' ') ++ source.dropWhile (· == ' ')).drop (leadingSpaces source) := by rw [split]
    _ = source.dropWhile (· == ' ') := by rw [leadingSpaces, List.drop_left]

theorem isAllBlank_dropWhile (source : List Char) :
    Text.isAllBlank (source.dropWhile (· == ' ')) = Text.isAllBlank source := by
  induction source with
  | nil => rfl
  | cons c rest ih =>
    by_cases space : c = ' '
    · have blank : Text.isBlank ' ' = true := by decide
      simpa [space, Text.isAllBlank, blank] using ih
    · simp [space]

namespace Line

theorem flush_segments (line : Line) (canonical : line.Canonical) :
    (line.segments.flatMap Segment.spell).head? ≠ some ' ' := by
  cases listed : line.segments with
  | nil => simp
  | cons segment rest =>
    cases segment with
    | text value =>
      have flush := canonical.flush value (by rw [listed]; rfl)
      have inked := (canonical.segments (.text value) (by simp [listed])).1
      cases chars : value.toList with
      | nil => exact absurd chars inked
      | cons c more => simpa [Segment.spell, chars] using flush
    | directive body => simp [Segment.spell]

theorem leadingSpaces_spell (line : Line) (canonical : line.Canonical) :
    leadingSpaces line.spell = sourceIndent * line.level :=
  leadingSpaces_replicate _ _ (flush_segments line canonical)

/-- A canonical line at the margin is read back. -/
theorem parse_spell (owner : String) (line : Line) (canonical : line.Canonical) :
    parse owner 0 line.spell = .ok line := by
  have visible : ¬ Text.isAllBlank line.spell = true := by simp [canonical.visible]
  have content : line.spell.drop (sourceIndent * line.level) = line.segments.flatMap Segment.spell := by
    simp [spell]
  rw [parse, if_neg visible]
  have read (source : String) := scanSegments_spell owner source line.segments canonical.segments canonical.apart
  simp only [leadingSpaces_spell line canonical, content, read]
  simp [sourceIndent]

theorem parse_bare (owner : String) (margin : Nat) (line : Line) (blank : line.isBlank = true)
    (level : line.level = 0) : parse owner margin line.spell = .ok line := by
  obtain ⟨depth, segments⟩ := line
  simp only [isBlank, List.isEmpty_iff] at blank level
  subst blank level
  rfl

/-- What is read from a line that is not blank. -/
theorem of_parse (owner : String) (margin : Nat) (source : List Char) (line : Line) (clean : OnOneLine source)
    (inked : Text.isAllBlank source = false) (parsed : parse owner margin source = .ok line) :
    line.level = (leadingSpaces source - margin) / sourceIndent ∧ line.isBlank = false ∧ line.Canonical := by
  rw [parse, if_neg (by simp [inked])] at parsed
  obtain ⟨segments, scanned, rfl⟩ := (map_eq_ok_iff _ _ _).mp parsed
  rw [drop_leadingSpaces] at scanned
  have within : source.dropWhile (· == ' ') ⊆ source := (List.dropWhile_suffix _).subset
  have reads := readsAs_of_scanSegments owner _ _ segments (clean.mono within) scanned
  have ink : Text.isAllBlank (segments.flatMap Segment.spell) = false := by
    rw [reads.ink, isAllBlank_dropWhile, inked]
  refine ⟨rfl, ?_, reads.canonical, reads.apart, ?_, ?_⟩
  · cases segments with
    | nil => simp [Text.isAllBlank] at ink
    | cons segment rest => rfl
  · intro value first space
    obtain ⟨rest, content⟩ := reads.start value first
    have flush := List.head?_dropWhile_not (· == ' ') source
    rw [← content, List.head?_append, space] at flush
    simp at flush
  · have spaces : Text.isBlank ' ' = true := by decide
    rw [← ink]
    simp [spell, Text.isAllBlank, spaces]

theorem isBlank_of_parse (owner : String) (margin : Nat) (source : List Char) (line : Line) (clean : OnOneLine source)
    (parsed : parse owner margin source = .ok line) : line.isBlank = Text.isAllBlank source := by
  cases ink : Text.isAllBlank source with
  | true =>
    rw [parse, if_pos ink] at parsed
    cases parsed
    rfl
  | false => exact (of_parse owner margin source line clean ink parsed).2.1

end Line

end Lines

section Margins

/-- The margin is the least indentation of the lines that are not blank. -/
theorem margin_spec (lines : List (List Char)) (some : ∃ line ∈ lines, Text.isAllBlank line = false) :
    (∃ line ∈ lines, Text.isAllBlank line = false ∧ leadingSpaces line = margin lines) ∧
      ∀ line ∈ lines, Text.isAllBlank line = false → margin lines ≤ leadingSpaces line := by
  obtain ⟨inked, listed, ink⟩ := some
  have among (line : List Char) (listed : line ∈ lines) (ink : Text.isAllBlank line = false) :
      leadingSpaces line ∈ (lines.filter (!Text.isAllBlank ·)).map leadingSpaces :=
    List.mem_map_of_mem (List.mem_filter.mpr ⟨listed, by simp [ink]⟩)
  cases least : ((lines.filter (!Text.isAllBlank ·)).map leadingSpaces).min? with
  | none =>
    have none := among inked listed ink
    rw [List.min?_eq_none_iff.mp least] at none
    cases none
  | some width =>
    have same : margin lines = width := by rw [margin, least]; rfl
    obtain ⟨attained, lowest⟩ := List.min?_eq_some_iff.mp least
    rw [same]
    refine ⟨?_, fun line listed ink => lowest _ (among line listed ink)⟩
    obtain ⟨line, kept, width⟩ := List.mem_map.mp attained
    obtain ⟨listed, ink⟩ := List.mem_filter.mp kept
    exact ⟨line, listed, by simpa using ink, width⟩

end Margins

theorem Segment.onOneLine_spell (segment : Segment) (canonical : segment.Canonical) : OnOneLine segment.spell := by
  cases segment with
  | text value => exact canonical.2.2
  | directive body =>
    have inner := Directive.onOneLine_spell body canonical
    exact ⟨by simp [spell, inner.1], by simp [spell, inner.2]⟩

namespace Template

section Spelled

variable (template : Template) (canonical : template.Canonical)

include canonical in
theorem isAllBlank_spell (line : Line) (listed : line ∈ template.lines) :
    Text.isAllBlank line.spell = line.isBlank := by
  cases blank : line.isBlank with
  | true =>
    have bare := canonical.bare line listed blank
    rw [isBlank_iff] at blank
    simp [Line.spell, bare, blank, Text.isAllBlank]
  | false => exact (canonical.lines line listed blank).visible

include canonical in
theorem onOneLine_spell (line : Line) (listed : line ∈ template.lines) : OnOneLine line.spell := by
  cases blank : line.isBlank with
  | true =>
    have bare := canonical.bare line listed blank
    rw [isBlank_iff] at blank
    simp [Line.spell, bare, blank, OnOneLine]
  | false =>
    have segments (segment : Segment) (among : segment ∈ line.segments) : OnOneLine segment.spell :=
      segment.onOneLine_spell ((canonical.lines line listed blank).segments segment among)
    constructor
    · simpa [Line.spell] using fun segment among => (segments segment among).1
    · simpa [Line.spell] using fun segment among => (segments segment among).2

include canonical in
theorem sourceLines_spell : sourceLines template.spell.toList = template.lines.map Line.spell := by
  have first (text : List Char) (start : (template.lines.map Line.spell).head? = some text) :
      Text.isAllBlank text = false := by
    rw [List.head?_map, Option.map_eq_some_iff] at start
    obtain ⟨line, start, rfl⟩ := start
    rw [isAllBlank_spell template canonical line (List.mem_of_head? start), canonical.first line start]
  have last (text : List Char) (finish : (template.lines.map Line.spell).getLast? = some text) :
      Text.isAllBlank text = false := by
    rw [List.getLast?_map, Option.map_eq_some_iff] at finish
    obtain ⟨line, finish, rfl⟩ := finish
    rw [isAllBlank_spell template canonical line (List.mem_of_getLast? finish), canonical.last line finish]
  have lines : Text.lines template.spell.toList = template.lines.map Line.spell := by
    rw [spell, String.toList_ofList]
    refine Text.lines_intercalate _ ?_ fun finish => ?_
    · simp only [List.forall_mem_map]
      exact onOneLine_spell template canonical
    · have inked := last [] finish
      cases inked
  rw [sourceLines, lines]
  simp only [Text.dropWhile_eq_self _ _ first]
  rw [Text.dropWhile_eq_self, List.reverse_reverse]
  simpa using last

include canonical in
theorem margin_spell : margin (template.lines.map Line.spell) = 0 := by
  by_cases empty : template.lines = []
  · rw [empty]
    rfl
  · obtain ⟨line, listed, inked, level⟩ := canonical.lowest empty
    have visible := isAllBlank_spell template canonical line listed
    rw [inked] at visible
    have within := List.mem_map_of_mem (f := Line.spell) listed
    have least := (margin_spec _ ⟨_, within, visible⟩).2 _ within visible
    rw [Line.leadingSpaces_spell line (canonical.lines line listed inked), level] at least
    simpa using least

include canonical in
/-- Canonical templates are read back from how they are spelled. -/
theorem parse_spell (owner : String) : parse owner template.spell = .ok template := by
  have lines : (template.lines.map Line.spell).mapM (Line.parse owner 0) = .ok template.lines := by
    rw [mapM_eq_ok_iff, List.forall₂_map_left_iff, List.forall₂_same]
    intro line listed
    cases blank : line.isBlank with
    | true => exact Line.parse_bare owner 0 line blank (canonical.bare line listed blank)
    | false => exact Line.parse_spell owner line (canonical.lines line listed blank)
  rw [parse, sourceLines_spell template canonical]
  simp only [margin_spell template canonical, lines]
  rfl

end Spelled

section Read

theorem exists_head_of_forall₂ {R : α → β → Prop} {xs : List α} {ys : List β} (related : List.Forall₂ R xs ys) (x : α)
    (first : xs.head? = some x) : ∃ y, ys.head? = some y ∧ R x y := by
  cases related with
  | nil => cases first
  | cons head rest =>
    cases first
    exact ⟨_, rfl, head⟩

/-- The lines of a source begin and end with content. -/
theorem sourceLines_ends (source : List Char) :
    (∀ line, (sourceLines source).head? = some line → Text.isAllBlank line = false) ∧
      ∀ line, (sourceLines source).getLast? = some line → Text.isAllBlank line = false := by
  have start (lines : List (List Char)) (line : List Char)
      (first : (lines.dropWhile Text.isAllBlank).head? = some line) : Text.isAllBlank line = false := by
    have stop := List.head?_dropWhile_not Text.isAllBlank lines
    simpa [first] using stop
  rw [sourceLines]
  generalize trimmed : (Text.lines source).dropWhile Text.isAllBlank = lines
  constructor
  · intro line first
    refine start (Text.lines source) line ?_
    obtain ⟨dropped, split⟩ := List.dropWhile_suffix (l := lines.reverse) Text.isAllBlank
    have joined : (lines.reverse.dropWhile Text.isAllBlank).reverse ++ dropped.reverse = lines := by
      rw [← List.reverse_append, split, List.reverse_reverse]
    rw [trimmed, ← joined, List.head?_append, first]
    rfl
  · intro line last
    exact start lines.reverse line (by simpa using last)

theorem mem_lines_of_mem_sourceLines (source line : List Char) (listed : line ∈ sourceLines source) :
    line ∈ Text.lines source := by
  rw [sourceLines, List.mem_reverse] at listed
  exact (List.dropWhile_suffix _).subset (List.mem_reverse.mp ((List.dropWhile_suffix _).subset listed))

theorem onOneLine_of_mem_sourceLines (source line : List Char) (clean : '\r' ∉ source)
    (listed : line ∈ sourceLines source) : OnOneLine line := by
  obtain ⟨feed, within⟩ := Text.of_mem_lines source line (mem_lines_of_mem_sourceLines source line listed)
  exact ⟨feed, fun ret => clean (within ret)⟩

/-- What is read from a source without carriage returns is canonical. -/
theorem canonical_of_parse (owner source : String) (template : Template) (clean : '\r' ∉ source.toList)
    (parsed : parse owner source = .ok template) : template.Canonical := by
  obtain ⟨lines, read, rfl⟩ := (map_eq_ok_iff _ _ _).mp parsed
  rw [mapM_eq_ok_iff] at read
  obtain ⟨start, finish⟩ := sourceLines_ends source.toList
  have oneLine (text : List Char) (listed : text ∈ sourceLines source.toList) : OnOneLine text :=
    onOneLine_of_mem_sourceLines source.toList text clean listed
  generalize sourceLines source.toList = texts at read start finish oneLine
  have origin (line : Line) (listed : line ∈ lines) :
      ∃ text ∈ texts, Line.parse owner (margin texts) text = .ok line := exists_of_forall₂ read.flip line listed
  have inked (text : List Char) (line : Line) (listed : text ∈ texts) (ink : Text.isAllBlank text = false)
      (parsed : Line.parse owner (margin texts) text = .ok line) : line.isBlank = false := by
    rw [Line.isBlank_of_parse owner _ text line (oneLine text listed) parsed, ink]
  constructor
  · intro line first
    obtain ⟨text, head, parsed⟩ := exists_head_of_forall₂ read.flip line first
    exact inked text line (List.mem_of_head? head) (start text head) parsed
  · intro line last
    rw [List.getLast?_eq_head?_reverse] at last
    obtain ⟨text, head, parsed⟩ := exists_head_of_forall₂ (List.rel_reverse read.flip) line last
    rw [← List.getLast?_eq_head?_reverse] at head
    exact inked text line (List.mem_of_getLast? head) (finish text head) parsed
  · intro some
    obtain ⟨text, listed, ink⟩ : ∃ text ∈ texts, Text.isAllBlank text = false := by
      cases read with
      | nil => exact absurd rfl some
      | cons parsed rest => exact ⟨_, List.mem_cons_self, start _ rfl⟩
    obtain ⟨⟨lowest, among, visible, width⟩, _⟩ := margin_spec texts ⟨text, listed, ink⟩
    obtain ⟨line, member, parsed⟩ := exists_of_forall₂ read lowest among
    obtain ⟨level, _, _⟩ := Line.of_parse owner _ lowest line (oneLine lowest among) visible parsed
    exact ⟨line, member, inked lowest line among visible parsed, by simp [level, width]⟩
  · intro line listed blank
    obtain ⟨text, among, parsed⟩ := origin line listed
    rw [Line.isBlank_of_parse owner _ text line (oneLine text among) parsed] at blank
    rw [Line.parse, if_pos blank] at parsed
    cases parsed
    rfl
  · intro line listed visible
    obtain ⟨text, among, parsed⟩ := origin line listed
    rw [Line.isBlank_of_parse owner _ text line (oneLine text among) parsed] at visible
    exact (Line.of_parse owner _ text line (oneLine text among) visible parsed).2.2

end Read

/-- Parsing inverts spelling on canonical templates, and it gives no others, as long as lines end in line feeds
alone. -/
theorem parsing_inverts_spelling (owner : String) :
    (∀ template : Template, template.Canonical → parse owner template.spell = .ok template) ∧
      ∀ source template, '\r' ∉ source.toList → parse owner source = .ok template → template.Canonical :=
  ⟨fun template canonical => parse_spell template canonical owner,
    fun source template clean parsed => canonical_of_parse owner source template clean parsed⟩

/-- Two percent signs, a quoted bracket, loose blanks and a margin: what is read is spelled in one way and read
again. -/
theorem loose_source_is_spelled_again :
    ∃ template, parse "block" "\n  if %%<test>:\n\n      %<block:join  ' > ' >\n  end %<#f>%<@a.b>\n" = .ok template ∧
      template.Canonical ∧ template.spell = "if %%<test>:\n\n    %<block:join ' > '>\nend %<#f>%<@a.b>" ∧
      parse "block" template.spell = .ok template := by
  have read : parse "block" "\n  if %%<test>:\n\n      %<block:join  ' > ' >\n  end %<#f>%<@a.b>\n" =
      .ok ⟨[⟨0, [.text "if %", .directive (.placeholder ⟨"test", []⟩), .text ":"]⟩, ⟨0, []⟩,
        ⟨1, [.directive (.join ⟨"block", []⟩ (.separator " > "))]⟩,
        ⟨0, [.text "end ", .directive (.override "f"), .directive (.type ⟨"a", ["b"]⟩)]⟩]⟩ := by rfl
  have canonical := (parsing_inverts_spelling "block").2 _ _ (by decide) read
  exact ⟨_, read, canonical, rfl, (parsing_inverts_spelling "block").1 _ canonical⟩

end Template

end Retarget
