import Mathlib.Data.List.TakeWhile
import Retarget.NameCase

/-! Casing of ASCII names. Cased words have no separators and their case is settled, so that casing a
name a second time changes nothing. -/
namespace Retarget
namespace Text

def isAscii (c : Char) : Bool := c.toNat < 0x80

/-- ASCII characters that separate no words. -/
def isPlain (c : Char) : Bool := isAscii c && c != '_' && c != '-'

/-- A property of ASCII characters can be checked one by one. -/
theorem forall_ascii {P : Char → Prop} (all : ∀ n : Fin 128, P (Char.ofNat n)) (c : Char)
    (ascii : isAscii c = true) : P c := by
  have same := all ⟨c.toNat, of_decide_eq_true ascii⟩
  rwa [Char.ofNat_toNat] at same

theorem isAscii_of_isPlain (c : Char) (plain : isPlain c = true) : isAscii c = true := by
  rw [isPlain, Bool.and_assoc, Bool.and_eq_true] at plain
  exact plain.1

theorem isPlain_toLower (c : Char) (plain : isPlain c = true) : isPlain c.toLower = true :=
  forall_ascii (P := fun c => isPlain c = true → isPlain c.toLower = true) (by decide) c
    (isAscii_of_isPlain c plain) plain

theorem isPlain_toUpper (c : Char) (plain : isPlain c = true) : isPlain c.toUpper = true :=
  forall_ascii (P := fun c => isPlain c = true → isPlain c.toUpper = true) (by decide) c
    (isAscii_of_isPlain c plain) plain

theorem toLower_toLower (c : Char) (ascii : isAscii c = true) : c.toLower.toLower = c.toLower :=
  forall_ascii (P := fun c => c.toLower.toLower = c.toLower) (by decide) c ascii

theorem toUpper_toUpper (c : Char) (ascii : isAscii c = true) : c.toUpper.toUpper = c.toUpper :=
  forall_ascii (P := fun c => c.toUpper.toUpper = c.toUpper) (by decide) c ascii

theorem clusters_of_ascii (text : List Char) (ascii : ∀ c ∈ text, isAscii c = true) :
    clusters text = text.map fun c => [c] := by
  induction text with
  | nil => rfl
  | cons c rest ih =>
    rw [List.forall_mem_cons] at ascii
    rw [clusters, ih ascii.2]
    cases rest with
    | nil => rfl
    | cons d rest =>
      have low : d.toNat < 0x80 ∧ c.toNat < 0x80 :=
        ⟨of_decide_eq_true (ascii.2 d List.mem_cons_self), of_decide_eq_true ascii.1⟩
      have apart : joins c d = false := by
        simp [joins, isMark, isLead, Nat.not_le.mpr low.1, Nat.not_le.mpr low.2]
      simp [apart]

theorem lowerFrom_of_ascii (text before : List Char) (ascii : ∀ c ∈ text, isAscii c = true) :
    lowerFrom before text = text.map Char.toLower := by
  induction text generalizing before with
  | nil => rfl
  | cons c rest ih =>
    rw [List.forall_mem_cons] at ascii
    have low : c.toNat < 0x80 := of_decide_eq_true ascii.1
    have other : c ≠ 'Σ' := by
      rintro rfl
      exact absurd low (by decide)
    rw [lowerFrom, ih _ ascii.2, if_neg other, lowerChar, if_pos low]
    rfl

theorem lower_of_ascii (text : List Char) (ascii : ∀ c ∈ text, isAscii c = true) :
    lower text = text.map Char.toLower := lowerFrom_of_ascii text [] ascii

theorem lower_of_plain (word : List Char) (plain : ∀ c ∈ word, isPlain c = true) :
    lower word = word.map Char.toLower :=
  lower_of_ascii word fun c member => isAscii_of_isPlain c (plain c member)

theorem map_toLower_map_toLower (word : List Char) (plain : ∀ c ∈ word, isPlain c = true) :
    (word.map Char.toLower).map Char.toLower = word.map Char.toLower := by
  rw [List.map_map]
  exact List.map_congr_left fun c member => toLower_toLower c (isAscii_of_isPlain c (plain c member))

theorem capitalize_of_ascii (c : Char) (rest : List Char) (ascii : ∀ d ∈ c :: rest, isAscii d = true) :
    capitalize (c :: rest) = c.toUpper :: rest.map Char.toLower := by
  rw [capitalize, clusters_of_ascii _ ascii]
  rw [List.forall_mem_cons] at ascii
  have low : c.toNat < 0x80 := of_decide_eq_true ascii.1
  have flat : (rest.map fun d => [d]).flatten = rest := by
    rw [← List.flatMap_def, List.flatMap_singleton']
  simp only [List.map_cons, flat, lower_of_ascii rest ascii.2, upper, List.flatMap_cons, upperChar, if_pos low]
  rfl

/-- The characters of a word come from the text, and none of them from a separator. -/
theorem mem_of_mem_wordsFrom (byCase : Bool) (previous : Option (List Char)) (word : List Char)
    (clusters : List (List Char)) (found : List Char) (member : found ∈ wordsFrom byCase previous word clusters)
    (c : Char) (within : c ∈ found) :
    c ∈ word ∨ ∃ cluster ∈ clusters, isSeparator cluster = false ∧ c ∈ cluster := by
  induction clusters generalizing previous word with
  | nil =>
    rw [wordsFrom, List.mem_singleton] at member
    exact .inl (member ▸ within)
  | cons cluster rest ih =>
    have later (word : List Char) (member : found ∈ wordsFrom byCase (some cluster) word rest) :
        c ∈ word ∨ ∃ other ∈ cluster :: rest, isSeparator other = false ∧ c ∈ other := by
      rcases ih _ _ member with inWord | ⟨other, among, rest⟩
      · exact .inl inWord
      · exact .inr ⟨other, List.mem_cons_of_mem _ among, rest⟩
    rw [wordsFrom] at member
    split at member
    · rcases List.mem_cons.mp member with rfl | member
      · exact .inl within
      · rcases later _ member with inWord | others
        · cases inWord
        · exact .inr others
    · rename_i ordinary
      have here (inCluster : c ∈ cluster) : ∃ other ∈ cluster :: rest, isSeparator other = false ∧ c ∈ other :=
        ⟨cluster, List.mem_cons_self, Bool.eq_false_iff.mpr ordinary, inCluster⟩
      split at member
      · rcases List.mem_cons.mp member with rfl | member
        · exact .inl within
        · rcases later _ member with inWord | others
          · exact .inr (here inWord)
          · exact .inr others
      · rcases later _ member with inWord | others
        · rcases List.mem_append.mp inWord with inWord | inCluster
          · exact .inl inWord
          · exact .inr (here inCluster)
        · exact .inr others

/-- A word of an ASCII name has a first character, and only plain ones. -/
def PlainWord (word : List Char) : Prop := word ≠ [] ∧ ∀ c ∈ word, isPlain c = true

theorem plainWord_of_mem_words (byCase : Bool) (text : List Char) (ascii : ∀ c ∈ text, isAscii c = true)
    (word : List Char) (member : word ∈ words byCase text) : PlainWord word := by
  rw [words, List.mem_filter, decide_eq_true_eq, clusters_of_ascii text ascii] at member
  refine ⟨member.2, fun c within => ?_⟩
  rcases mem_of_mem_wordsFrom _ _ _ _ word member.1 c within with none | ⟨cluster, among, ordinary, inCluster⟩
  · cases none
  · obtain ⟨d, inText, rfl⟩ := List.mem_map.mp among
    cases List.mem_singleton.mp inCluster
    have check : ∀ n : Fin 128, isSeparator [Char.ofNat n] = false → isPlain (Char.ofNat n) = true := by
      decide
    exact forall_ascii (P := fun c => isSeparator [c] = false → isPlain c = true) check c (ascii c inText) ordinary

/-- Characters that neither separate words nor start them. -/
def Settled (text : List Char) : Prop := ∀ c ∈ text, isSeparator [c] = false ∧ isCapital [c] = false

theorem settled_map_toLower (word : List Char) (plain : ∀ c ∈ word, isPlain c = true) :
    Settled (word.map Char.toLower) := by
  intro lowered member
  obtain ⟨c, within, rfl⟩ := List.mem_map.mp member
  have check : ∀ n : Fin 128, isPlain (Char.ofNat n) = true →
      isSeparator [(Char.ofNat n).toLower] = false ∧ isCapital [(Char.ofNat n).toLower] = false := by
    decide
  exact forall_ascii
    (P := fun c => isPlain c = true → isSeparator [c.toLower] = false ∧ isCapital [c.toLower] = false)
    check c (isAscii_of_isPlain c (plain c within)) (plain c within)

theorem wordsFrom_of_settled (byCase : Bool) (previous : Option (List Char)) (word text : List Char)
    (settled : Settled text) : wordsFrom byCase previous word (text.map fun c => [c]) = [word ++ text] := by
  induction text generalizing previous word with
  | nil => rw [List.map_nil, wordsFrom, List.append_nil]
  | cons c rest ih =>
    rw [Settled, List.forall_mem_cons] at settled
    simp [wordsFrom, startsWord, settled.1.1, settled.1.2, ih _ _ settled.2]

theorem wordsFrom_separated (byCase : Bool) (previous : Option (List Char)) (word text : List Char)
    (rest : List (List Char)) (settled : Settled text) :
    wordsFrom byCase previous word ((text.map fun c => [c]) ++ ['_'] :: rest) =
      (word ++ text) :: wordsFrom byCase (some ['_']) [] rest := by
  induction text generalizing previous word with
  | nil => simp [wordsFrom, isSeparator]
  | cons c text ih =>
    rw [Settled, List.forall_mem_cons] at settled
    simp [wordsFrom, startsWord, settled.1.1, settled.1.2, ih _ _ settled.2]

theorem intercalate_cons_cons (first second : List Char) (rest : List (List Char)) :
    ['_'].intercalate (first :: second :: rest) = first ++ '_' :: ['_'].intercalate (second :: rest) := by
  simp [List.intercalate]

theorem ascii_intercalate (found : List (List Char)) (ascii : ∀ word ∈ found, ∀ c ∈ word, isAscii c = true) :
    ∀ c ∈ ['_'].intercalate found, isAscii c = true := by
  induction found with
  | nil => exact List.forall_mem_nil _
  | cons first rest ih =>
    rw [List.forall_mem_cons] at ascii
    cases rest with
    | nil => simpa [List.intercalate] using ascii.1
    | cons second rest =>
      rw [intercalate_cons_cons, List.forall_mem_append, List.forall_mem_cons]
      exact ⟨ascii.1, by decide, ih ascii.2⟩

/-- Words that are settled are found again when they are joined. -/
theorem wordsFrom_intercalate (previous : Option (List Char)) (first : List Char) (rest : List (List Char))
    (settled : ∀ word ∈ first :: rest, Settled word) :
    wordsFrom true previous [] ((['_'].intercalate (first :: rest)).map fun c => [c]) = first :: rest := by
  induction rest generalizing previous first with
  | nil => simpa [List.intercalate] using wordsFrom_of_settled true previous [] first (settled first (by simp))
  | cons second rest ih =>
    rw [List.forall_mem_cons] at settled
    rw [intercalate_cons_cons, List.map_append, List.map_cons, wordsFrom_separated _ _ _ _ _ settled.1,
      ih _ second settled.2, List.nil_append]

end Text

namespace NameCase

open Text

theorem hasSeparator_of_plain (text : List Char) (plain : ∀ c ∈ text, isPlain c = true) :
    hasSeparator text = false := by
  rw [hasSeparator, List.any_eq_false]
  intro c member
  have separate := plain c member
  simp only [isPlain, Bool.and_eq_true, bne_iff_ne] at separate
  simp [separate.1.2, separate.2]

theorem plain_of_hasSeparator (text : List Char) (ascii : ∀ c ∈ text, isAscii c = true)
    (whole : hasSeparator text = false) (c : Char) (member : c ∈ text) : isPlain c = true := by
  have separate := List.any_eq_false.mp whole c member
  simp only [Bool.or_eq_true, beq_iff_eq, not_or] at separate
  simp [isPlain, ascii c member, separate.1, separate.2]

theorem plain_mapFirst (f : Char → Char) (kept : ∀ c, isPlain c = true → isPlain (f c) = true) (text : List Char)
    (plain : ∀ c ∈ text, isPlain c = true) : ∀ c ∈ mapFirst f text, isPlain c = true := by
  cases text with
  | nil => exact plain
  | cons first rest =>
    rw [List.forall_mem_cons] at plain
    exact List.forall_mem_cons.mpr ⟨kept first plain.1, plain.2⟩

theorem plain_lower (word : List Char) (plain : ∀ c ∈ word, isPlain c = true) : ∀ c ∈ lower word, isPlain c = true := by
  rw [lower_of_plain word plain, List.forall_mem_map]
  exact fun c member => isPlain_toLower c (plain c member)

theorem capitalize_of_plainWord (word : List Char) (plain : PlainWord word) :
    ∃ c rest, word = c :: rest ∧ capitalize word = c.toUpper :: rest.map Char.toLower := by
  obtain ⟨nonempty, plain⟩ := plain
  cases word with
  | nil => exact absurd rfl nonempty
  | cons c rest =>
    exact ⟨c, rest, rfl, capitalize_of_ascii c rest fun d member => isAscii_of_isPlain d (plain d member)⟩

theorem plain_capitalize (word : List Char) (plain : PlainWord word) : ∀ c ∈ capitalize word, isPlain c = true := by
  obtain ⟨c, rest, rfl, same⟩ := capitalize_of_plainWord word plain
  have separate := List.forall_mem_cons.mp plain.2
  rw [same, List.forall_mem_cons, List.forall_mem_map]
  exact ⟨isPlain_toUpper c separate.1, fun d member => isPlain_toLower d (separate.2 d member)⟩

theorem plain_joinPascal (found : List (List Char)) (plain : ∀ word ∈ found, PlainWord word) :
    ∀ c ∈ joinPascal found, isPlain c = true := by
  intro c member
  obtain ⟨word, among, within⟩ := List.mem_flatMap.mp member
  exact plain_capitalize word (plain word among) c within

theorem plain_joinCamel (found : List (List Char)) (plain : ∀ word ∈ found, PlainWord word) :
    ∀ c ∈ joinCamel found, isPlain c = true := by
  cases found with
  | nil => exact List.forall_mem_nil _
  | cons first rest =>
    rw [List.forall_mem_cons] at plain
    intro c member
    rcases List.mem_append.mp member with inFirst | inRest
    · exact plain_lower first plain.1.2 c inFirst
    · exact plain_joinPascal rest plain.2 c inRest

theorem mapFirst_joinCamel (found : List (List Char)) (plain : ∀ word ∈ found, PlainWord word) :
    mapFirst Char.toLower (joinCamel found) = joinCamel found := by
  cases found with
  | nil => rfl
  | cons first rest =>
    obtain ⟨nonempty, separate⟩ := plain first List.mem_cons_self
    cases first with
    | nil => exact absurd rfl nonempty
    | cons c chars =>
      rw [joinCamel, lower_of_plain _ separate, List.map_cons, List.cons_append, mapFirst,
        toLower_toLower c (isAscii_of_isPlain c (separate c List.mem_cons_self))]

theorem mapFirst_joinPascal (found : List (List Char)) (plain : ∀ word ∈ found, PlainWord word) :
    mapFirst Char.toUpper (joinPascal found) = joinPascal found := by
  cases found with
  | nil => rfl
  | cons first rest =>
    have separate := plain first List.mem_cons_self
    obtain ⟨c, chars, rfl, same⟩ := capitalize_of_plainWord first separate
    rw [joinPascal, List.flatMap_cons, same, List.cons_append, mapFirst,
      toUpper_toUpper c (isAscii_of_isPlain c (separate.2 c List.mem_cons_self))]

theorem mapFirst_mapFirst (f : Char → Char) (text : List Char) (settled : ∀ c ∈ text, f (f c) = f c) :
    mapFirst f (mapFirst f text) = mapFirst f text := by
  cases text with
  | nil => rfl
  | cons c rest => rw [mapFirst, mapFirst, settled c List.mem_cons_self]

theorem lower_lower (word : List Char) (plain : ∀ c ∈ word, isPlain c = true) : lower (lower word) = lower word := by
  rw [lower_of_plain _ (plain_lower word plain), lower_of_plain word plain, map_toLower_map_toLower word plain]

theorem ascii_joinSnake (found : List (List Char)) (plain : ∀ word ∈ found, PlainWord word) :
    ∀ c ∈ joinSnake found, isAscii c = true := by
  refine ascii_intercalate _ (List.forall_mem_map.mpr fun word member c within => ?_)
  exact isAscii_of_isPlain c (plain_lower word (plain word member).2 c within)

/-- Words in lower case that are joined have the same words. -/
theorem words_joinSnake (found : List (List Char)) (plain : ∀ word ∈ found, PlainWord word) :
    words true (joinSnake found) = found.map lower := by
  have lowered (word : List Char) (member : word ∈ found) : lower word = word.map Char.toLower :=
    lower_of_plain word (plain word member).2
  have settled : ∀ word ∈ found.map lower, Settled word := by
    rw [List.forall_mem_map]
    intro word member
    rw [lowered word member]
    exact settled_map_toLower word (plain word member).2
  have nonempty : ∀ word ∈ found.map lower, decide (word ≠ []) = true := by
    rw [List.forall_mem_map]
    intro word member
    simpa [lowered word member] using (plain word member).1
  rw [words, clusters_of_ascii _ (ascii_joinSnake found plain)]
  cases found with
  | nil => rfl
  | cons first rest =>
    rw [joinSnake, List.map_cons, wordsFrom_intercalate _ _ _ settled]
    exact List.filter_eq_self.mpr nonempty

section Convert

variable (body : List Char) (ascii : ∀ c ∈ body, isAscii c = true)
include ascii

theorem settled_camel : (∀ c ∈ camel.convert body, isPlain c = true) ∧
    mapFirst Char.toLower (camel.convert body) = camel.convert body := by
  have found := plainWord_of_mem_words false body ascii
  rw [convert]
  by_cases separated : hasSeparator body = true
  · rw [if_pos separated]
    exact ⟨plain_joinCamel _ found, mapFirst_joinCamel _ found⟩
  · have plain := plain_of_hasSeparator body ascii (Bool.eq_false_iff.mpr separated)
    rw [if_neg separated]
    exact ⟨plain_mapFirst _ isPlain_toLower body plain,
      mapFirst_mapFirst _ body fun c member => toLower_toLower c (ascii c member)⟩

theorem settled_pascal : (∀ c ∈ pascal.convert body, isPlain c = true) ∧
    mapFirst Char.toUpper (pascal.convert body) = pascal.convert body := by
  have found := plainWord_of_mem_words false body ascii
  rw [convert]
  by_cases separated : hasSeparator body = true
  · rw [if_pos separated]
    exact ⟨plain_joinPascal _ found, mapFirst_joinPascal _ found⟩
  · have plain := plain_of_hasSeparator body ascii (Bool.eq_false_iff.mpr separated)
    rw [if_neg separated]
    exact ⟨plain_mapFirst _ isPlain_toUpper body plain,
      mapFirst_mapFirst _ body fun c member => toUpper_toUpper c (ascii c member)⟩

theorem ascii_convert (convention : NameCase) : ∀ c ∈ convention.convert body, isAscii c = true := by
  cases convention with
  | preserve => exact ascii
  | snake => exact ascii_joinSnake _ (plainWord_of_mem_words true body ascii)
  | camel => exact fun c member => isAscii_of_isPlain c ((settled_camel body ascii).1 c member)
  | pascal => exact fun c member => isAscii_of_isPlain c ((settled_pascal body ascii).1 c member)

/-- A name is cased in full at once. -/
theorem convert_convert (convention : NameCase) :
    convention.convert (convention.convert body) = convention.convert body := by
  cases convention with
  | preserve => rfl
  | snake =>
    have found := plainWord_of_mem_words true body ascii
    have again := List.map_congr_left fun word member => lower_lower word (found word member).2
    rw [convert, convert, words_joinSnake _ found, joinSnake, List.map_map, joinSnake]
    exact congrArg _ again
  | camel =>
    obtain ⟨plain, settled⟩ := settled_camel body ascii
    exact (if_neg (Bool.eq_false_iff.mp (hasSeparator_of_plain _ plain))).trans settled
  | pascal =>
    obtain ⟨plain, settled⟩ := settled_pascal body ascii
    exact (if_neg (Bool.eq_false_iff.mp (hasSeparator_of_plain _ plain))).trans settled

/-- Casing adds no leading underscores. -/
theorem head_convert_ne (convention : NameCase) (bare : body.head? ≠ some '_') :
    (convention.convert body).head? ≠ some '_' := by
  have plain_head (text : List Char) (plain : ∀ c ∈ text, isPlain c = true) : text.head? ≠ some '_' := by
    intro same
    exact absurd (plain _ (List.mem_of_head? same)) (by decide)
  cases convention with
  | preserve => exact bare
  | snake =>
    have found := plainWord_of_mem_words true body ascii
    rw [convert]
    cases split : words true body with
    | nil => exact nofun
    | cons first rest =>
      obtain ⟨nonempty, plain⟩ := found first (split ▸ List.mem_cons_self)
      have lowered := plain_head _ (plain_lower first plain)
      have something : lower first ≠ [] := by
        rw [lower_of_plain first plain]
        simpa using nonempty
      cases rest with
      | nil => simpa [joinSnake, List.intercalate] using lowered
      | cons second rest =>
        rw [joinSnake, List.map_cons, List.map_cons, intercalate_cons_cons, List.head?_append,
          List.head?_eq_some_head something]
        rwa [List.head?_eq_some_head something] at lowered
  | camel => exact plain_head _ (settled_camel body ascii).1
  | pascal => exact plain_head _ (settled_pascal body ascii).1

end Convert

theorem span_of_head_ne (text : List Char) (bare : text.head? ≠ some '_') :
    text.takeWhile (· == '_') = [] ∧ text.dropWhile (· == '_') = text := by
  cases text with
  | nil => exact ⟨rfl, rfl⟩
  | cons c rest =>
    have other : (c == '_') = false := by simpa using bare
    rw [List.takeWhile_cons, List.dropWhile_cons, other]
    exact ⟨rfl, rfl⟩

theorem convert_nil (convention : NameCase) : convention.convert [] = [] := by
  cases convention <;> rfl

/-- A name in two parts: underscores in front, which casing keeps, and the body, which it converts. -/
theorem toList_apply (convention : NameCase) (name : String) :
    (convention.apply name).toList =
      name.toList.takeWhile (· == '_') ++ convention.convert (name.toList.dropWhile (· == '_')) := by
  rw [apply]
  split
  · rename_i empty
    have nothing : name.toList.dropWhile (· == '_') = [] := by simpa using empty
    have whole := List.takeWhile_append_dropWhile (p := (· == '_')) (l := name.toList)
    rw [nothing, List.append_nil] at whole
    rw [nothing, convert_nil, List.append_nil, whole]
  · rw [String.toList_ofList]

section Apply

variable (convention : NameCase) (name : String) (ascii : ∀ c ∈ name.toList, isAscii c = true)
include ascii

theorem ascii_body : ∀ c ∈ name.toList.dropWhile (· == '_'), isAscii c = true :=
  fun c member => ascii c ((List.dropWhile_sublist _).mem member)

/-- The parts of a cased name are the underscores of the name and its converted body. -/
theorem span_apply :
    (convention.apply name).toList.takeWhile (· == '_') = name.toList.takeWhile (· == '_') ∧
      (convention.apply name).toList.dropWhile (· == '_') =
        convention.convert (name.toList.dropWhile (· == '_')) := by
  have leading (c : Char) (member : c ∈ name.toList.takeWhile (· == '_')) : (c == '_') = true :=
    List.mem_takeWhile_imp (p := (· == '_')) member
  have bare : (name.toList.dropWhile (· == '_')).head? ≠ some '_' := by
    intro leads
    have stops := List.head?_dropWhile_not (· == '_') name.toList
    simp [leads] at stops
  obtain ⟨none, all⟩ := span_of_head_ne _ (head_convert_ne _ (ascii_body name ascii) convention bare)
  rw [toList_apply, List.takeWhile_append_of_pos leading, List.dropWhile_append_of_pos leading, none, all]
  exact ⟨List.append_nil _, rfl⟩

/-- Casing an ASCII name a second time changes nothing. -/
theorem apply_apply : convention.apply (convention.apply name) = convention.apply name := by
  obtain ⟨kept, converted⟩ := span_apply convention name ascii
  rw [← String.toList_inj, toList_apply, kept, converted, convert_convert _ (ascii_body name ascii), toList_apply]

end Apply

end NameCase
end Retarget
