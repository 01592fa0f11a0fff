import Retarget.Proofs.CasedCharacters

/-! Leading underscores of names. Casing keeps them and adds none: a cased name starts with an underscore only if the
name does, so that what stands behind the underscore is cased by itself. A hyphen in front of a name is dropped, which
may bring to the front what stands behind it. -/
namespace Retarget

namespace Text

/-- A text that starts with something else than an underscore. -/
def Bare (text : List Char) : Prop := ∃ c rest, text = c :: rest ∧ c ≠ '_'

theorem Bare.append {text : List Char} (bare : Bare text) (back : List Char) : Bare (text ++ back) := by
  obtain ⟨c, rest, rfl, other⟩ := bare
  exact ⟨c, rest ++ back, rfl, other⟩

theorem uncased_underscore : Uncased [0x5f] := by constructor <;> decide

/-- The image of a character is something else than an underscore, if the character is. -/
theorem bare_image {c : Char} (other : c ≠ '_') {images : List Char} (filled : images ≠ [])
    (apart : c.toNat ∉ [0x5f] → ∀ image ∈ images, image.toNat ∉ [0x5f]) : Bare images := by
  have own : c.toNat ∉ [0x5f] := by
    rw [List.mem_singleton]
    exact fun same => other (Char.toNat_inj.mp same)
  obtain ⟨image, rest, rfl⟩ := List.exists_cons_of_ne_nil filled
  refine ⟨image, rest, rfl, ?_⟩
  rintro rfl
  exact absurd (apart own _ List.mem_cons_self) (by decide)

theorem lowerChar_ne_nil (c : Char) : lowerChar c ≠ [] := by
  unfold lowerChar
  dsimp only
  split_ifs <;> first | exact List.cons_ne_nil _ _ | (split <;> exact List.cons_ne_nil _ _)

theorem upperChar_ne_nil (c : Char) : upperChar c ≠ [] := by
  have filled : ∀ entry ∈ uppercaseSequences, entry.2 ≠ [] := by decide
  unfold upperChar
  dsimp only
  split_ifs
  · exact List.cons_ne_nil _ _
  · split
    · rename_i sequence found
      obtain ⟨before, after, entries, _⟩ := List.lookup_eq_some_iff.mp found
      have listed : (c.toNat, sequence) ∈ uppercaseSequences := by
        rw [entries]
        exact List.mem_append_right _ List.mem_cons_self
      exact mt List.map_eq_nil_iff.mp (filled _ listed)
    · exact List.cons_ne_nil _ _
    · exact List.cons_ne_nil _ _

theorem bare_lower {text : List Char} (bare : Bare text) : Bare (lower text) := by
  obtain ⟨c, rest, rfl, other⟩ := bare
  rw [lower, lowerFrom]
  refine Bare.append ?_ _
  split
  · split <;> exact ⟨_, [], rfl, by decide⟩
  · exact bare_image other (lowerChar_ne_nil c) (lowerChar_notMem uncased_underscore c)

theorem bare_upper {text : List Char} (bare : Bare text) : Bare (upper text) := by
  obtain ⟨c, rest, rfl, other⟩ := bare
  rw [upper, List.flatMap_cons]
  exact (bare_image other (upperChar_ne_nil c) (upperChar_notMem uncased_underscore c)).append _

/-- The first cluster of a text starts as the text does. -/
theorem exists_clusters_cons (c : Char) (rest : List Char) :
    ∃ first more, clusters (c :: rest) = (c :: first) :: more := by
  rw [clusters]
  split
  · split
    · exact ⟨_, _, rfl⟩
    · exact ⟨_, _, rfl⟩
  · exact ⟨_, _, rfl⟩

theorem bare_capitalize {text : List Char} (bare : Bare text) : Bare (capitalize text) := by
  obtain ⟨c, rest, rfl, other⟩ := bare
  obtain ⟨first, more, found⟩ := exists_clusters_cons c rest
  rw [capitalize, found]
  exact (bare_upper ⟨c, first, rfl, other⟩).append _

/-- The first word goes on from what there is of it. -/
theorem exists_first_word (byCase : Bool) (previous : Option (List Char)) (word : List Char)
    (clusters : List (List Char)) :
    ∃ rest others, wordsFrom byCase previous word clusters = (word ++ rest) :: others := by
  induction clusters generalizing previous word with
  | nil => exact ⟨[], [], by rw [wordsFrom, List.append_nil]⟩
  | cons cluster clusters ih =>
    rw [wordsFrom]
    split_ifs
    · exact ⟨[], _, by rw [List.append_nil]⟩
    · exact ⟨[], _, by rw [List.append_nil]⟩
    · obtain ⟨rest, others, same⟩ := ih (some cluster) (word ++ cluster)
      exact ⟨cluster ++ rest, others, by rw [same, List.append_assoc]⟩

/-- The first word of a text that starts with no separator starts as the text does. -/
theorem exists_words_cons (byCase : Bool) {text : List Char} (bare : Bare text) (noHyphen : text.head? ≠ some '-') :
    ∃ first others, words byCase text = first :: others ∧ Bare first := by
  obtain ⟨c, rest, rfl, other⟩ := bare
  obtain ⟨cluster, more, found⟩ := exists_clusters_cons c rest
  have noSeparator : isSeparator (c :: cluster) = false := by
    have hyphen : c ≠ '-' := fun same => noHyphen (congrArg some same)
    simp [isSeparator, other, hyphen]
  have kept (others : List (List Char)) (rest : List Char) : ∃ first more,
      (((c :: cluster) ++ rest) :: others).filter (· ≠ []) = first :: more ∧ Bare first :=
    ⟨_, _, by rw [List.cons_append, List.filter_cons, if_pos (decide_eq_true (List.cons_ne_nil _ _))], c, _, rfl, other⟩
  rw [words, found, wordsFrom, noSeparator, if_neg Bool.false_ne_true]
  split_ifs
  · obtain ⟨rest, others, same⟩ := exists_first_word byCase (some (c :: cluster)) (c :: cluster) more
    rw [same, List.filter_cons, if_neg (by decide)]
    exact kept others rest
  · obtain ⟨rest, others, same⟩ := exists_first_word byCase (some (c :: cluster)) ([] ++ (c :: cluster)) more
    rw [same]
    exact kept others rest

end Text

namespace NameCase

open Text

theorem apply_preserve (name : String) : preserve.apply name = name := by
  rw [apply]
  split_ifs
  · rfl
  · rw [convert, List.takeWhile_append_dropWhile, String.ofList_toList]

variable (convention : NameCase)

/-- Casing brings no underscore to the front. -/
theorem bare_convert {body : List Char} (bare : Bare body) (noHyphen : body.head? ≠ some '-') :
    Bare (convention.convert body) := by
  have mapped (f : Char → Char) (apart : ∀ c : Char, c.toNat ∉ [0x5f] → (f c).toNat ∉ [0x5f]) :
      Bare (mapFirst f body) := by
    obtain ⟨c, rest, rfl, other⟩ := bare
    have image : Bare [f c] := bare_image other (List.cons_ne_nil _ _) fun own =>
      List.forall_mem_singleton.mpr (apart c own)
    exact image.append rest
  cases convention with
  | preserve => exact bare
  | snake =>
    obtain ⟨first, others, split, starts⟩ := exists_words_cons true bare noHyphen
    rw [convert, joinSnake, split, List.map_cons]
    cases others.map lower with
    | nil => simpa using bare_lower starts
    | cons second rest =>
      rw [List.intercalate_cons_cons, List.append_assoc]
      exact (bare_lower starts).append _
  | camel =>
    rw [convert]
    split_ifs
    · obtain ⟨first, others, split, starts⟩ := exists_words_cons false bare noHyphen
      rw [split, joinCamel]
      exact (bare_lower starts).append _
    · exact mapped _ (toLower_notMem uncased_underscore)
  | pascal =>
    rw [convert]
    split_ifs
    · obtain ⟨first, others, split, starts⟩ := exists_words_cons false bare noHyphen
      rw [split, joinPascal, List.flatMap_cons]
      exact (bare_capitalize starts).append _
    · exact mapped _ (toUpper_notMem uncased_underscore)

theorem underscore_append (chars : List Char) : String.ofList ('_' :: chars) = "_" ++ String.ofList chars := by
  rw [← String.toList_inj, String.toList_append, String.toList_ofList]
  simp

theorem apply_underscore (name : String) : convention.apply ("_" ++ name) = "_" ++ convention.apply name := by
  have chars : ("_" ++ name).toList = '_' :: name.toList := by rw [String.toList_append]; rfl
  rw [apply, apply, chars]
  simp only [List.takeWhile_cons, List.dropWhile_cons, beq_self_eq_true, if_true, List.cons_append]
  split_ifs
  · rfl
  · exact underscore_append _

/-- A cased name starts with an underscore exactly if the name does, and the rest is cased by itself. -/
theorem apply_eq_underscore_iff {name : String} (noHyphen : name.toList.head? ≠ some '-') (rest : String) :
    convention.apply name = "_" ++ rest ↔ ∃ inner, name = "_" ++ inner ∧ convention.apply inner = rest := by
  constructor
  · intro cased
    cases chars : name.toList with
    | nil =>
      have empty : convention.apply name = name := by
        rw [apply, chars]
        rfl
      rw [empty] at cased
      have same := congrArg String.toList cased
      rw [chars, String.toList_append] at same
      cases same
    | cons c others =>
      by_cases underscore : c = '_'
      · have split : name = "_" ++ String.ofList others := by
          rw [← underscore_append, ← underscore, ← chars, String.ofList_toList]
        rw [split, apply_underscore] at cased
        exact ⟨_, split, by simpa using cased⟩
      · rw [chars] at noHyphen
        have outside : ¬(c == '_') = true := mt beq_iff_eq.mp underscore
        obtain ⟨d, more, converted, other⟩ := convention.bare_convert ⟨c, others, rfl, underscore⟩ noHyphen
        have same := congrArg String.toList cased
        rw [apply, chars, List.takeWhile_cons, List.dropWhile_cons, if_neg outside, if_neg outside, converted,
          if_neg (by simp), List.nil_append, String.toList_ofList, String.toList_append] at same
        exact absurd (List.cons.inj same).1 other
  · rintro ⟨inner, rfl, rfl⟩
    exact convention.apply_underscore inner

end NameCase

end Retarget
