import Mathlib.Data.List.Induction
import Mathlib.Data.List.TakeWhile
import Retarget.Text

/-! Pieces of texts. Splitting and joining at a character are inverse to each other, so lines come back from
a text of lines that do not end in a carriage return. -/
namespace Retarget.Text

theorem splitOn_eq (separator : Char) (text : List Char) : splitOn separator text = text.splitOn separator := by
  induction text with
  | nil => rfl
  | cons c rest ih =>
    rw [splitOn, ih, List.splitOn_eq_splitOnP, List.splitOn_eq_splitOnP, List.splitOnP_cons_eq_if_modifyHead]
    cases pieces : rest.splitOnP (· == separator) with
    | nil => exact absurd pieces (List.splitOnP_ne_nil _ _)
    | cons piece pieces => simp

theorem splitOn_intercalate (separator : Char) (pieces : List (List Char))
    (clean : ∀ piece ∈ pieces, separator ∉ piece) (some : pieces ≠ []) :
    splitOn separator ([separator].intercalate pieces) = pieces := by
  rw [splitOn_eq]
  exact List.splitOn_intercalate separator clean some

theorem intercalate_splitOn (separator : Char) (text : List Char) :
    [separator].intercalate (splitOn separator text) = text := by
  rw [splitOn_eq]
  exact List.intercalate_splitOn separator

theorem splitOn_cons_self (separator : Char) (rest : List Char) :
    splitOn separator (separator :: rest) = [] :: splitOn separator rest := by
  rw [splitOn]
  cases pieces : splitOn separator rest with
  | nil => simp [splitOn_eq, List.splitOn_ne_nil] at pieces
  | cons piece pieces => simp

theorem splitOn_cons_other (separator c : Char) (other : c ≠ separator) (rest : List Char) :
    ∃ piece pieces, splitOn separator rest = piece :: pieces ∧
      splitOn separator (c :: rest) = (c :: piece) :: pieces := by
  rw [splitOn]
  cases split : splitOn separator rest with
  | nil => simp [splitOn_eq, List.splitOn_ne_nil] at split
  | cons piece pieces => exact ⟨piece, pieces, rfl, if_neg other⟩

/-- A piece has no separator, and its characters are those of the text. -/
theorem of_mem_splitOn (separator : Char) (text piece : List Char) (member : piece ∈ splitOn separator text) :
    separator ∉ piece ∧ piece ⊆ text := by
  induction text generalizing piece with
  | nil =>
    rw [splitOn, List.mem_singleton] at member
    simp [member]
  | cons c rest ih =>
    by_cases same : c = separator
    · subst same
      rw [splitOn_cons_self] at member
      rcases List.mem_cons.mp member with rfl | later
      · simp
      · exact ⟨(ih piece later).1, List.subset_cons_of_subset _ (ih piece later).2⟩
    · obtain ⟨first, pieces, split, whole⟩ := splitOn_cons_other separator c same rest
      rw [whole] at member
      rw [split] at ih
      rcases List.mem_cons.mp member with rfl | later
      · have within := ih first List.mem_cons_self
        refine ⟨by simp [within.1, Ne.symm same], ?_⟩
        exact List.cons_subset_cons _ within.2
      · have within := ih piece (List.mem_cons_of_mem _ later)
        exact ⟨within.1, List.subset_cons_of_subset _ within.2⟩

theorem mem_intercalate (separator c : Char) (pieces : List (List Char)) (member : c ∈ [separator].intercalate pieces) :
    c = separator ∨ ∃ piece ∈ pieces, c ∈ piece := by
  induction pieces with
  | nil => simp [List.intercalate] at member
  | cons piece pieces ih =>
    cases pieces with
    | nil => exact .inr ⟨piece, List.mem_cons_self, by simpa using member⟩
    | cons next pieces =>
      rw [List.intercalate_cons_cons, List.mem_append, List.mem_append, List.mem_singleton] at member
      rcases member with (here | same) | later
      · exact .inr ⟨piece, List.mem_cons_self, here⟩
      · exact .inl same
      · rcases ih later with same | ⟨other, listed, within⟩
        · exact .inl same
        · exact .inr ⟨other, List.mem_cons_of_mem _ listed, within⟩

section Lines

theorem dropReturn_eq_self (line : List Char) (bare : '\r' ∉ line) : dropReturn line = line := by
  rw [dropReturn, if_neg]
  exact fun last => bare (List.mem_of_getLast? last)

/-- Lines are read back if no carriage return is in them and the last is not empty. -/
theorem lines_intercalate (texts : List (List Char)) (clean : ∀ text ∈ texts, '\n' ∉ text ∧ '\r' ∉ text)
    (ends : texts.getLast? ≠ some []) : lines (['\n'].intercalate texts) = texts := by
  induction texts using List.reverseRecOn with
  | nil => rfl
  | append_singleton texts last =>
    have kept : texts.map dropReturn = texts := by
      calc texts.map dropReturn = texts.map id :=
            List.map_congr_left fun line listed =>
              dropReturn_eq_self line (clean line (List.mem_append_left _ listed)).2
        _ = texts := List.map_id texts
    rw [lines, splitOn_intercalate _ _ (fun text listed => (clean text listed).1) (by simp)]
    have inked : last ≠ [] := by simpa using ends
    simp [kept, inked]

theorem of_mem_lines (text line : List Char) (member : line ∈ lines text) : '\n' ∉ line ∧ line ⊆ text := by
  have piece (other : List Char) (listed : other ∈ splitOn '\n' text) := of_mem_splitOn '\n' text other listed
  simp only [lines, List.mem_append, List.mem_map, List.mem_filter, Option.mem_toList] at member
  rcases member with ⟨other, listed, rfl⟩ | ⟨last, _⟩
  · obtain ⟨clean, within⟩ := piece other (List.dropLast_subset _ listed)
    have shorter : dropReturn other ⊆ other := by
      rw [dropReturn]
      split
      · exact List.dropLast_subset _
      · exact List.Subset.refl _
    exact ⟨fun feed => clean (shorter feed), List.Subset.trans shorter within⟩
  · exact piece line (List.mem_of_getLast? last)

end Lines

section Trimming

theorem dropWhile_eq_self (p : α → Bool) (items : List α) (start : ∀ item, items.head? = some item → p item = false) :
    items.dropWhile p = items := by
  cases items with
  | nil => rfl
  | cons item rest => simp [start item rfl]

theorem trimEnd_eq_self (text : List Char) (finish : ∀ c, text.getLast? = some c → isBlank c = false) :
    trimEnd text = text := by
  rw [trimEnd, dropWhile_eq_self, List.reverse_reverse]
  simpa using finish

theorem trim_eq_self (text : List Char) (start : ∀ c, text.head? = some c → isBlank c = false)
    (finish : ∀ c, text.getLast? = some c → isBlank c = false) : trim text = text := by
  rw [trim, trimStart, dropWhile_eq_self _ _ start, trimEnd_eq_self _ finish]

theorem exists_trim (text : List Char) :
    ∃ left right, text = left ++ (trim text ++ right) ∧ isAllBlank left = true ∧ isAllBlank right = true := by
  refine ⟨text.takeWhile isBlank, ((trimStart text).reverse.takeWhile isBlank).reverse, ?_, ?_, ?_⟩
  · rw [trim, trimEnd, ← List.reverse_append, List.takeWhile_append_dropWhile, List.reverse_reverse, trimStart,
      List.takeWhile_append_dropWhile]
  · simp [isAllBlank, List.all_takeWhile]
  · simp [isAllBlank, List.all_takeWhile]

end Trimming

theorem dropPrefix?_eq_some_iff (start text rest : List Char) :
    dropPrefix? start text = some rest ↔ text = start ++ rest := by
  simp only [dropPrefix?, List.isPrefixOf_iff_prefix, Option.ite_none_right_eq_some, Option.some.injEq]
  constructor
  · rintro ⟨⟨more, rfl⟩, rfl⟩
    simp
  · rintro rfl
    simp

end Retarget.Text
