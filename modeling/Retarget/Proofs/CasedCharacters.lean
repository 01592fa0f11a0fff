import Retarget.Proofs.Casing
import Retarget.Proofs.Pieces

/-! Characters that casing brings into no name: those that no mapping of case leads to. -/
namespace Retarget

namespace Text

/-- No code point of a run is mapped to one of these. -/
def Run.misses (codes : List Nat) (run : Run) : Bool :=
  codes.all fun code => (code : Int) - run.shift < run.first || run.last < (code : Int) - run.shift

/-- Code points that no mapping of case leads to. -/
structure Uncased (codes : List Nat) : Prop where
  lowercase : lowercaseRuns.all (Run.misses codes) = true
  uppercase : uppercaseRuns.all (Run.misses codes) = true
  sequences : ∀ entry ∈ uppercaseSequences, ∀ code ∈ entry.2, code ∉ codes
  letters : ∀ code ∈ codes, ¬(65 ≤ code ∧ code ≤ 90) ∧ ¬(97 ≤ code ∧ code ≤ 122)
  /-- Zero, the dot that goes with a small i, and both small sigmas. -/
  others : ∀ code ∈ [0, 0x307, 0x3c2, 0x3c3], code ∉ codes

variable {codes : List Nat} (uncased : Uncased codes)
include uncased

theorem toNat_ofNat_notMem (code : Nat) (apart : code ∉ codes) : (Char.ofNat code).toNat ∉ codes := by
  by_cases valid : code.isValidChar
  · rwa [Char.ofNat, dif_pos valid]
  · rw [Char.ofNat, dif_neg valid]
    exact uncased.others 0 (by decide)

theorem mapRuns?_notMem (runs : List Run) (misses : runs.all (Run.misses codes) = true) (code image : Nat)
    (mapped : mapRuns? runs code = some image) : image ∉ codes := by
  rw [mapRuns?, Option.map_eq_some_iff] at mapped
  obtain ⟨run, found, rfl⟩ := mapped
  intro listed
  have inRun := List.find?_some found
  have apart := List.all_eq_true.mp misses run (List.mem_of_find?_eq_some found)
  have missed := List.all_eq_true.mp apart _ listed
  have some : (code + run.shift).toNat ≠ 0 := by
    intro zero
    rw [zero] at listed
    exact uncased.others 0 (by decide) listed
  simp only [Bool.and_eq_true, Bool.or_eq_true, decide_eq_true_eq] at inRun missed
  omega

theorem toLower_notMem (c : Char) (apart : c.toNat ∉ codes) : c.toLower.toNat ∉ codes := by
  by_cases upper : c.val ≥ 'A'.val ∧ c.val ≤ 'Z'.val
  · intro listed
    have range : 65 ≤ c.toNat ∧ c.toNat ≤ 90 := by simpa [UInt32.le_iff_toNat_le] using upper
    have small : 97 ≤ c.toLower.toNat ∧ c.toLower.toNat ≤ 122 :=
      forall_ascii (P := fun c => 65 ≤ c.toNat ∧ c.toNat ≤ 90 → 97 ≤ c.toLower.toNat ∧ c.toLower.toNat ≤ 122)
        (by decide) c (decide_eq_true (by omega)) range
    exact (uncased.letters _ listed).2 small
  · have same : c.toLower = c := dif_neg upper
    rwa [same]

theorem toUpper_notMem (c : Char) (apart : c.toNat ∉ codes) : c.toUpper.toNat ∉ codes := by
  by_cases lower : c.val ≥ 'a'.val ∧ c.val ≤ 'z'.val
  · intro listed
    have range : 97 ≤ c.toNat ∧ c.toNat ≤ 122 := by simpa [UInt32.le_iff_toNat_le] using lower
    have capital : 65 ≤ c.toUpper.toNat ∧ c.toUpper.toNat ≤ 90 :=
      forall_ascii (P := fun c => 97 ≤ c.toNat ∧ c.toNat ≤ 122 → 65 ≤ c.toUpper.toNat ∧ c.toUpper.toNat ≤ 90)
        (by decide) c (decide_eq_true (by omega)) range
    exact (uncased.letters _ listed).1 capital
  · have same : c.toUpper = c := dif_neg lower
    rwa [same]

theorem lowerChar_notMem (c : Char) (apart : c.toNat ∉ codes) : ∀ image ∈ lowerChar c, image.toNat ∉ codes := by
  unfold lowerChar
  dsimp only
  split
  · rw [List.forall_mem_singleton]
    exact toLower_notMem uncased c apart
  · split
    · rw [List.forall_mem_cons, List.forall_mem_singleton]
      constructor
      · intro listed
        have letter := uncased.letters _ listed
        simp at letter
      · exact toNat_ofNat_notMem uncased _ (uncased.others _ (by decide))
    · split
      · rename_i image mapped
        rw [List.forall_mem_singleton]
        exact toNat_ofNat_notMem uncased _ (mapRuns?_notMem uncased _ uncased.lowercase _ image mapped)
      · rwa [List.forall_mem_singleton]

theorem upperChar_notMem (c : Char) (apart : c.toNat ∉ codes) : ∀ image ∈ upperChar c, image.toNat ∉ codes := by
  unfold upperChar
  dsimp only
  split
  · rw [List.forall_mem_singleton]
    exact toUpper_notMem uncased c apart
  · split
    · rename_i sequence found
      obtain ⟨before, after, entries, _⟩ := List.lookup_eq_some_iff.mp found
      have listed : (c.toNat, sequence) ∈ uppercaseSequences := by
        rw [entries]
        exact List.mem_append_right _ List.mem_cons_self
      rw [List.forall_mem_map]
      intro code member
      exact toNat_ofNat_notMem uncased code (uncased.sequences _ listed code member)
    · rename_i image _ mapped
      rw [List.forall_mem_singleton]
      exact toNat_ofNat_notMem uncased _ (mapRuns?_notMem uncased _ uncased.uppercase _ image mapped)
    · rwa [List.forall_mem_singleton]

variable {text : List Char}

theorem lowerFrom_notMem (before : List Char) (apart : ∀ c ∈ text, c.toNat ∉ codes) :
    ∀ c ∈ lowerFrom before text, c.toNat ∉ codes := by
  induction text generalizing before with
  | nil => exact nofun
  | cons c rest ih =>
    rw [List.forall_mem_cons] at apart
    rw [lowerFrom, List.forall_mem_append]
    refine ⟨?_, ih _ apart.2⟩
    split
    · split <;> (rw [List.forall_mem_singleton]; exact uncased.others _ (by decide))
    · exact lowerChar_notMem uncased c apart.1

theorem lower_notMem (apart : ∀ c ∈ text, c.toNat ∉ codes) : ∀ c ∈ lower text, c.toNat ∉ codes :=
  lowerFrom_notMem uncased [] apart

theorem upper_notMem (apart : ∀ c ∈ text, c.toNat ∉ codes) : ∀ c ∈ upper text, c.toNat ∉ codes := by
  rw [upper, List.forall_mem_flatMap]
  intro c member
  exact upperChar_notMem uncased c (apart c member)

theorem capitalize_notMem (apart : ∀ c ∈ text, c.toNat ∉ codes) :
    ∀ c ∈ capitalize text, c.toNat ∉ codes := by
  have parts := flatten_clusters text
  rw [capitalize]
  split
  · exact List.forall_mem_nil _
  · rename_i first rest split
    rw [split, List.flatten_cons] at parts
    rw [← parts, List.forall_mem_append] at apart
    rw [List.forall_mem_append]
    exact ⟨upper_notMem uncased apart.1, lower_notMem uncased apart.2⟩

omit uncased in
theorem words_notMem (byCase : Bool) (apart : ∀ c ∈ text, c.toNat ∉ codes) :
    ∀ word ∈ words byCase text, ∀ c ∈ word, c.toNat ∉ codes := by
  intro word member c within
  rw [words, List.mem_filter] at member
  rcases mem_of_mem_wordsFrom _ _ _ _ word member.1 c within with none | ⟨cluster, among, _, inCluster⟩
  · cases none
  · have inText : c ∈ (clusters text).flatten := List.mem_flatten.mpr ⟨cluster, among, inCluster⟩
    rw [flatten_clusters] at inText
    exact apart c inText

end Text

namespace NameCase

open Text (Uncased)

variable {codes : List Nat} (uncased : Uncased codes) (joint : 0x5f ∉ codes) (convention : NameCase)
include uncased joint

theorem convert_notMem {body : List Char} (apart : ∀ c ∈ body, c.toNat ∉ codes) :
    ∀ c ∈ convention.convert body, c.toNat ∉ codes := by
  have words (byCase : Bool) := Text.words_notMem byCase apart
  have joined (words : List (List Char)) (apart : ∀ word ∈ words, ∀ c ∈ word, c.toNat ∉ codes) :
      ∀ c ∈ joinPascal words, c.toNat ∉ codes := by
    rw [joinPascal, List.forall_mem_flatMap]
    intro word member
    exact Text.capitalize_notMem uncased (apart word member)
  have first (f : Char → Char) (mapped : ∀ c, c.toNat ∉ codes → (f c).toNat ∉ codes) :
      ∀ c ∈ mapFirst f body, c.toNat ∉ codes := by
    cases body with
    | nil => exact List.forall_mem_nil _
    | cons c rest =>
      rw [List.forall_mem_cons] at apart
      exact List.forall_mem_cons.mpr ⟨mapped c apart.1, apart.2⟩
  cases convention with
  | preserve => exact apart
  | snake =>
    intro c member
    rw [convert, joinSnake] at member
    rcases Text.mem_intercalate _ _ _ member with separator | ⟨word, listed, within⟩
    · rw [separator]
      exact joint
    · obtain ⟨original, among, rfl⟩ := List.mem_map.mp listed
      exact Text.lower_notMem uncased (words true original among) c within
  | camel =>
    rw [convert]
    split
    · have all := words false
      cases split : Text.words false body with
      | nil => exact List.forall_mem_nil _
      | cons word rest =>
        rw [split, List.forall_mem_cons] at all
        rw [joinCamel, List.forall_mem_append]
        exact ⟨Text.lower_notMem uncased all.1, joined rest all.2⟩
    · exact first _ (Text.toLower_notMem uncased)
  | pascal =>
    rw [convert]
    split
    · exact joined _ (words false)
    · exact first _ (Text.toUpper_notMem uncased)

/-- No convention brings such a character into a name, if it is not the underscore that joins words. -/
theorem apply_notMem (name : String) (apart : ∀ c ∈ name.toList, c.toNat ∉ codes) :
    ∀ c ∈ (convention.apply name).toList, c.toNat ∉ codes := by
  rw [apply]
  split
  · exact apart
  · rw [String.toList_ofList, List.forall_mem_append]
    refine ⟨fun c member => apart c (List.takeWhile_subset _ member), ?_⟩
    apply convention.convert_notMem uncased joint
    exact fun c member => apart c (List.dropWhile_subset _ member)

end NameCase

end Retarget
