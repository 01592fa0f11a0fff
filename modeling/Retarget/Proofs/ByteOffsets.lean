import Retarget.Proofs.TemplateSources

/-! Byte offsets. A template is read at byte offsets: a line is cut behind its indentation, at the start and the end of
each directive, and margins are taken from indentations. Here each cut fails within a character or past the end, and
each difference fails below zero. Read like that, templates are the same, so nothing ever fails. -/
namespace Retarget

namespace Text

/-- The size of a text in UTF-8. -/
def byteSize : List Char → Nat
  | [] => 0
  | c :: rest => c.utf8Size + byteSize rest

/-- What stands before a byte offset and behind it, unless the offset is within a character or past the end. -/
def cutAt? : Nat → List Char → Option (List Char × List Char)
  | 0, text => some ([], text)
  | _ + 1, [] => none
  | offset + 1, c :: rest =>
    if c.utf8Size ≤ offset + 1 then (cutAt? (offset + 1 - c.utf8Size) rest).map fun (front, back) => (c :: front, back)
    else none

def difference? (first second : Nat) : Option Nat := if second ≤ first then some (first - second) else none

@[simp]
theorem byteSize_append (first second : List Char) : byteSize (first ++ second) = byteSize first + byteSize second := by
  induction first with
  | nil => simp [byteSize]
  | cons c rest ih => simp [byteSize, ih, Nat.add_assoc]

/-- Between characters a text can be cut. -/
theorem cutAt?_byteSize (front back : List Char) : cutAt? (byteSize front) (front ++ back) = some (front, back) := by
  induction front with
  | nil => cases back <;> rfl
  | cons c front ih =>
    have positive := c.utf8Size_pos
    obtain ⟨before, offset⟩ : ∃ before, byteSize (c :: front) = before + 1 :=
      ⟨byteSize (c :: front) - 1, by rw [byteSize]; omega⟩
    have behind : before + 1 - c.utf8Size = byteSize front := by rw [← offset, byteSize]; omega
    have within : c.utf8Size ≤ before + 1 := by rw [← offset, byteSize]; omega
    rw [offset, List.cons_append, cutAt?, if_pos within, behind, ih]
    rfl

/-- A cut takes a text apart. -/
theorem append_of_cutAt? (offset : Nat) (text front back : List Char) (cut : cutAt? offset text = some (front, back)) :
    text = front ++ back ∧ byteSize front = offset := by
  induction text generalizing offset front with
  | nil =>
    cases offset with
    | zero =>
      cases cut
      exact ⟨rfl, rfl⟩
    | succ offset => cases cut
  | cons c rest ih =>
    cases offset with
    | zero =>
      cases cut
      exact ⟨rfl, rfl⟩
    | succ offset =>
      rw [cutAt?, Option.ite_none_right_eq_some] at cut
      obtain ⟨within, cut⟩ := cut
      obtain ⟨⟨inner, rest⟩, cut, same⟩ := Option.map_eq_some_iff.mp cut
      cases same
      obtain ⟨rfl, size⟩ := ih _ _ cut
      exact ⟨rfl, by rw [byteSize]; omega⟩

theorem length_lt_of_cutAt? (offset : Nat) (text front back : List Char) (positive : 0 < offset)
    (cut : cutAt? offset text = some (front, back)) : back.length < text.length := by
  obtain ⟨rfl, size⟩ := append_of_cutAt? offset text front back cut
  cases front with
  | nil =>
    rw [byteSize] at size
    omega
  | cons c front =>
    rw [List.length_append, List.length_cons]
    omega

end Text

section Cutting

open Text

/-- The offset of the first directive. -/
def openingAt? : List Char → Option Nat
  | [] => none
  | c :: rest => if c = '%' ∧ rest.head? = some '<' then some 0 else (openingAt? rest).map (c.utf8Size + ·)

/-- The offset of the bracket that closes a directive; its quotes may be open. -/
def closingAt? (quoted : Bool) : List Char → Option Nat
  | [] => none
  | c :: rest =>
    if c = '>' ∧ quoted = false then some 0
    else (closingAt? (if c = '\'' then !quoted else quoted) rest).map (c.utf8Size + ·)

/-- The segments of the rest of a line, cut out at offsets. -/
def cutSegments (owner line : String) (rest : List Char) : ExceptT TemplateError Option (List Segment) :=
  match openingAt? rest with
  | none => pure (Segment.consText rest.reverse [])
  | some opening => do
    let (before, _) ← cutAt? opening rest
    let (_, opened) ← cutAt? (opening + 2) rest
    match closingAt? false opened with
    | none => throw (.unterminated owner line)
    | some closing =>
      let (body, _) ← cutAt? closing opened
      match Directive.parse? body with
      | none => throw (.invalidDirective owner (String.ofList body))
      | some directive =>
        match _ : cutAt? (opening + 2 + closing + 1) rest with
        | none => ExceptT.mk none
        | some (_, later) =>
          let segments ← cutSegments owner line later
          return Segment.consText before.reverse (.directive directive :: segments)
termination_by rest.length
decreasing_by
  rename_i cut
  exact length_lt_of_cutAt? _ _ _ _ (Nat.succ_pos _) cut

/-- The bytes of the spaces that a line starts with. -/
def leadingBytes? (line : List Char) : Option Nat :=
  difference? (byteSize line) (byteSize (line.dropWhile (· == ' ')))

/-- The least indentation in bytes of the lines that are not blank. -/
def marginBytes? (lines : List (List Char)) : Option Nat :=
  (fun indents => indents.min?.getD 0) <$> (lines.filter (!isAllBlank ·)).mapM leadingBytes?

/-- The line of a source line, cut out behind its indentation. -/
def Line.cut (owner : String) (margin : Nat) (source : List Char) : ExceptT TemplateError Option Line := do
  if isAllBlank source then return ⟨0, []⟩
  let indent ← leadingBytes? source
  let width ← difference? indent margin
  let (_, content) ← cutAt? indent source
  let segments ← cutSegments owner (String.ofList content) content
  return ⟨width / sourceIndent, segments⟩

/-- The template of a source, read at byte offsets. -/
def Template.cut (owner source : String) : ExceptT TemplateError Option Template := do
  let lines := sourceLines source.toList
  let margin ← marginBytes? lines
  let parsed ← lines.mapM (Line.cut owner margin)
  return ⟨parsed⟩

theorem openingAt?_eq_none (rest : List Char) (none : openingAt? rest = none) : NoOpening rest := by
  induction rest with
  | nil => simp [NoOpening]
  | cons c rest ih =>
    rw [openingAt?] at none
    split at none
    · cases none
    · rename_i other
      exact (noOpening_cons c rest).mpr ⟨other, ih (Option.map_eq_none_iff.mp none)⟩

theorem exists_of_openingAt? (rest : List Char) (opening : Nat) (opens : openingAt? rest = some opening) :
    ∃ before opened, rest = before ++ '%' :: '<' :: opened ∧ byteSize before = opening ∧ NoOpening before := by
  induction rest generalizing opening with
  | nil => cases opens
  | cons c rest ih =>
    rw [openingAt?] at opens
    split at opens
    · rename_i here
      cases opens
      obtain ⟨rfl, next⟩ := here
      obtain ⟨opened, rfl⟩ := List.head?_eq_some_iff.mp next
      exact ⟨[], opened, rfl, rfl, by simp [NoOpening]⟩
    · rename_i other
      obtain ⟨inner, later, rfl⟩ := Option.map_eq_some_iff.mp opens
      obtain ⟨before, opened, rfl, size, plain⟩ := ih inner later
      refine ⟨c :: before, opened, rfl, by rw [byteSize, size], (noOpening_cons c before).mpr ⟨?_, plain⟩⟩
      rintro ⟨percent, next⟩
      exact other ⟨percent, by simp [List.head?_append, next]⟩

theorem scanSegments_of_closingAt?_eq_none (owner line : String) (read opened : List Char) (quoted : Bool)
    (unclosed : closingAt? quoted opened = none) :
    scanSegments owner line (.directive read quoted) opened = .error (.unterminated owner line) := by
  induction opened generalizing read quoted with
  | nil => rfl
  | cons c opened ih =>
    rw [closingAt?] at unclosed
    split at unclosed
    · cases unclosed
    · rename_i inside
      rw [scanSegments, if_neg inside]
      exact ih _ _ (Option.map_eq_none_iff.mp unclosed)

theorem exists_of_closingAt? (opened : List Char) (quoted : Bool) (closing : Nat)
    (closes : closingAt? quoted opened = some closing) :
    ∃ body later, opened = body ++ '>' :: later ∧ byteSize body = closing ∧ ClosesFrom quoted body := by
  induction opened generalizing quoted closing with
  | nil => cases closes
  | cons c opened ih =>
    rw [closingAt?] at closes
    split at closes
    · rename_i here
      cases closes
      obtain ⟨rfl, rfl⟩ := here
      exact ⟨[], opened, rfl, rfl, (closesFrom_nil false).mpr rfl⟩
    · rename_i inside
      obtain ⟨inner, behind, rfl⟩ := Option.map_eq_some_iff.mp closes
      obtain ⟨body, later, rfl, size, closed⟩ := ih _ inner behind
      exact ⟨c :: body, later, rfl, by rw [byteSize, size], (closesFrom_cons quoted c body).mpr ⟨inside, closed⟩⟩

theorem cutAt?_opening (before opened : List Char) :
    cutAt? (byteSize before + 2) (before ++ '%' :: '<' :: opened) = some (before ++ ['%', '<'], opened) := by
  have cut := cutAt?_byteSize (before ++ ['%', '<']) opened
  rw [byteSize_append, List.append_assoc] at cut
  exact cut

theorem cutAt?_closing (before body later : List Char) :
    cutAt? (byteSize before + 2 + byteSize body + 1) (before ++ '%' :: '<' :: (body ++ '>' :: later)) =
      some (before ++ '%' :: '<' :: (body ++ ['>']), later) := by
  have offset : byteSize (before ++ '%' :: '<' :: (body ++ ['>'])) = byteSize before + 2 + byteSize body + 1 := by
    have sizes : '%'.utf8Size = 1 ∧ '<'.utf8Size = 1 ∧ '>'.utf8Size = 1 := by decide
    simp only [byteSize_append, byteSize, sizes]
    omega
  have cut := cutAt?_byteSize (before ++ '%' :: '<' :: (body ++ ['>'])) later
  rw [offset] at cut
  simpa only [List.append_assoc, List.cons_append, List.nil_append] using cut

theorem liftM_some_bind (value : α) (next : α → ExceptT TemplateError Option β) :
    (liftM (some value) : ExceptT TemplateError Option α) >>= next = next value := rfl

theorem run_bind {first : ExceptT TemplateError Option α} {next : α → ExceptT TemplateError Option β}
    {result : Except TemplateError α} {after : α → Except TemplateError β} (runs : first.run = some result)
    (continues : ∀ value, (next value).run = some (after value)) : (first >>= next).run = some (result >>= after) := by
  rw [ExceptT.run_bind, runs]
  cases result with
  | error reason => rfl
  | ok value => exact continues value

theorem run_bind_pure {first : ExceptT TemplateError Option α} {result : Except TemplateError α}
    (runs : first.run = some result) (f : α → β) : (do return f (← first)).run = some (f <$> result) := by
  have ends (value : α) : (pure (f value) : ExceptT TemplateError Option β).run = some (.ok (f value)) := rfl
  rw [run_bind runs ends]
  cases result <;> rfl

/-- Segments are cut out as they are scanned. -/
theorem run_cutSegments (owner line : String) (rest : List Char) :
    (cutSegments owner line rest).run = some (scanSegments owner line (.text []) rest) := by
  induction size : rest.length using Nat.strongRecOn generalizing rest with
  | ind size ih =>
    rw [cutSegments]
    cases opens : openingAt? rest with
    | none =>
      have scanned := scanSegments_text owner line [] rest [] (openingAt?_eq_none rest opens) (.inl rfl)
      rw [List.append_nil, List.append_nil] at scanned
      rw [scanned]
      rfl
    | some opening =>
      obtain ⟨before, opened, rfl, rfl, plain⟩ := exists_of_openingAt? rest opening opens
      rw [scanSegments_text owner line [] before _ plain (.inr ⟨opened, rfl⟩), scanSegments]
      simp only [cutAt?_byteSize, cutAt?_opening, liftM_some_bind]
      cases closes : closingAt? false opened with
      | none =>
        rw [scanSegments_of_closingAt?_eq_none owner line [] opened false closes]
        rfl
      | some closing =>
        obtain ⟨body, later, rfl, rfl, closed⟩ := exists_of_closingAt? opened false closing closes
        rw [scanSegments_directive owner line [] body later false closed]
        simp only [cutAt?_byteSize, liftM_some_bind, List.reverse_nil, List.nil_append]
        cases Directive.parse? body with
        | none => rfl
        | some directive =>
          -- The recursion is under a match on the cut, which is known.
          simp only
          split
          · rename_i failed
            cases (cutAt?_closing before body later).symm.trans failed
          · rename_i cut
            cases (cutAt?_closing before body later).symm.trans cut
            have following := ih later.length (by simp at size; omega) later rfl
            rw [run_bind_pure following, List.append_nil]
            cases scanSegments owner line (.text []) later <;> rfl

theorem byteSize_leadingSpaces (line : List Char) : byteSize (line.takeWhile (· == ' ')) = leadingSpaces line := by
  have spaces (count : Nat) : byteSize (List.replicate count ' ') = count := by
    induction count with
    | zero => rfl
    | succ count ih => rw [List.replicate_succ, byteSize, ih, show ' '.utf8Size = 1 from by decide, Nat.add_comm]
  have start : line.takeWhile (· == ' ') = List.replicate (leadingSpaces line) ' ' :=
    List.eq_replicate_iff.mpr ⟨rfl, fun c member => by simpa using List.mem_takeWhile_imp member⟩
  rw [start, spaces]

theorem leadingBytes?_eq (line : List Char) : leadingBytes? line = some (leadingSpaces line) := by
  have size : byteSize line = leadingSpaces line + byteSize (line.dropWhile (· == ' ')) := by
    calc byteSize line
        = byteSize (line.takeWhile (· == ' ') ++ line.dropWhile (· == ' ')) := by rw [List.takeWhile_append_dropWhile]
      _ = leadingSpaces line + byteSize (line.dropWhile (· == ' ')) := by
        rw [byteSize_append, byteSize_leadingSpaces]
  rw [leadingBytes?, difference?, if_pos (by omega), size, Nat.add_sub_cancel_right]

theorem cutAt?_leadingSpaces (line : List Char) :
    cutAt? (leadingSpaces line) line = some (line.takeWhile (· == ' '), line.drop (leadingSpaces line)) := by
  have cut := cutAt?_byteSize (line.takeWhile (· == ' ')) (line.dropWhile (· == ' '))
  rw [byteSize_leadingSpaces, List.takeWhile_append_dropWhile] at cut
  rw [cut, drop_leadingSpaces]

theorem marginBytes?_eq (lines : List (List Char)) : marginBytes? lines = some (margin lines) := by
  have indents (lines : List (List Char)) : lines.mapM leadingBytes? = some (lines.map leadingSpaces) := by
    induction lines with
    | nil => rfl
    | cons line lines ih => rw [List.mapM_cons, leadingBytes?_eq, ih]; rfl
  rw [marginBytes?, indents]
  rfl

/-- A line is cut out as it is parsed, if the margin is no larger than its indentation. -/
theorem Line.run_cut (owner : String) (margin : Nat) (source : List Char)
    (within : isAllBlank source = false → margin ≤ leadingSpaces source) :
    (Line.cut owner margin source).run = some (Line.parse owner margin source) := by
  rw [Line.cut, Line.parse]
  split
  · rfl
  · rename_i inked
    have width : difference? (leadingSpaces source) margin = some (leadingSpaces source - margin) :=
      if_pos (within (by simpa using inked))
    simp only [leadingBytes?_eq, width, cutAt?_leadingSpaces, liftM_some_bind]
    exact run_bind_pure (run_cutSegments ..) _

theorem run_mapM {f : α → ExceptT TemplateError Option β} {g : α → Except TemplateError β} (xs : List α)
    (runs : ∀ x ∈ xs, (f x).run = some (g x)) : (xs.mapM f).run = some (xs.mapM g) := by
  induction xs with
  | nil => rfl
  | cons x xs ih =>
    obtain ⟨first, later⟩ := List.forall_mem_cons.mp runs
    rw [List.mapM_cons, List.mapM_cons]
    exact run_bind first fun value => run_bind (ih later) fun values => rfl

/-- A template is read at byte offsets without fail. -/
theorem Template.run_cut (owner source : String) :
    (Template.cut owner source).run = some (Template.parse owner source) := by
  have within (line : List Char) (listed : line ∈ sourceLines source.toList) (inked : isAllBlank line = false) :
      margin (sourceLines source.toList) ≤ leadingSpaces line :=
    (margin_spec _ ⟨line, listed, inked⟩).2 line listed inked
  simp only [Template.cut, marginBytes?_eq, liftM_some_bind]
  exact run_bind_pure (run_mapM _ fun line listed => Line.run_cut owner _ line (within line listed)) Template.mk

end Cutting
end Retarget
