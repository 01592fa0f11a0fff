import Retarget.Proofs.Casing

/-! Cased names. Under each convention some ASCII names are left as they are; every cased name is one of them.
Casing touches case and separators only: the underscores in front stay, and behind them the same letters and digits
follow in the same order. -/
namespace Retarget

namespace Text

/-- What names have in common that differ in case and separators. -/
def letters (text : List Char) : List Char := (text.filter fun c => c != '_' && c != '-').map Char.toLower

@[simp] theorem letters_append (front back : List Char) : letters (front ++ back) = letters front ++ letters back := by
  simp [letters]

theorem letters_of_plain (word : List Char) (plain : ∀ c ∈ word, isPlain c = true) :
    letters word = word.map Char.toLower := by
  have kept : (word.filter fun c => c != '_' && c != '-') = word := by
    refine List.filter_eq_self.mpr fun c member => ?_
    have separate := plain c member
    rw [isPlain, Bool.and_assoc, Bool.and_eq_true] at separate
    exact separate.2
  rw [letters, kept]

/-- Words lose nothing of a text but the separators, wherever they are cut. -/
theorem flatten_wordsFrom (byCase : Bool) (previous : Option (List Char)) (word : List Char)
    (clusters : List (List Char)) :
    (wordsFrom byCase previous word clusters).flatten =
      word ++ (clusters.filter fun cluster => !isSeparator cluster).flatten := by
  induction clusters generalizing previous word with
  | nil => simp [wordsFrom]
  | cons cluster rest ih =>
    rw [wordsFrom]
    by_cases separates : isSeparator cluster = true
    · simp [separates, ih]
    · by_cases starts : (byCase && startsWord previous cluster rest.head?) = true <;> simp [separates, starts, ih]

theorem flatten_words (byCase : Bool) (text : List Char) (ascii : ∀ c ∈ text, isAscii c = true) :
    (words byCase text).flatten = text.filter fun c => c != '_' && c != '-' := by
  rw [words, List.flatten_filter_ne_nil, flatten_wordsFrom, clusters_of_ascii text ascii, List.filter_map]
  have apart : (fun cluster => !isSeparator cluster) ∘ (fun c : Char => [c]) = fun c => c != '_' && c != '-' := by
    funext c
    simp [isSeparator, bne]
  rw [apart, ← List.flatMap_def, List.flatMap_singleton', List.nil_append]

end Text

namespace NameCase

open Text

section Letters

theorem letters_lower (word : List Char) (plain : ∀ c ∈ word, isPlain c = true) :
    letters (lower word) = word.map Char.toLower := by
  rw [letters_of_plain _ (plain_lower word plain), lower_of_plain word plain, map_toLower_map_toLower word plain]

theorem letters_capitalize (word : List Char) (plain : PlainWord word) :
    letters (capitalize word) = word.map Char.toLower := by
  rw [letters_of_plain _ (plain_capitalize word plain)]
  obtain ⟨c, rest, rfl, capitalized⟩ := capitalize_of_plainWord word plain
  obtain ⟨first, others⟩ := List.forall_mem_cons.mp plain.2
  have recased : c.toUpper.toLower = c.toLower :=
    forall_ascii (P := fun c => c.toUpper.toLower = c.toLower) (by decide) c (isAscii_of_isPlain c first)
  rw [capitalized, List.map_cons, recased, map_toLower_map_toLower rest others, List.map_cons]

variable (found : List (List Char)) (plain : ∀ word ∈ found, PlainWord word)
include plain

theorem letters_joinSnake : letters (joinSnake found) = found.flatten.map Char.toLower := by
  rw [joinSnake]
  induction found with
  | nil => rfl
  | cons first rest ih =>
    rw [List.forall_mem_cons] at plain
    have own := letters_lower first plain.1.2
    cases rest with
    | nil => simpa [List.intercalate] using own
    | cons second rest =>
      have separator (text : List Char) : letters ('_' :: text) = letters text := by simp [letters]
      have later := ih plain.2
      rw [List.map_cons] at later
      rw [List.map_cons, List.map_cons, intercalate_cons_cons, letters_append, separator, own, later,
        List.flatten_cons (L := second :: rest), List.map_append]

theorem letters_joinPascal : letters (joinPascal found) = found.flatten.map Char.toLower := by
  induction found with
  | nil => rfl
  | cons first rest ih =>
    rw [List.forall_mem_cons] at plain
    rw [joinPascal, List.flatMap_cons, letters_append, letters_capitalize first plain.1, List.flatten_cons,
      List.map_append]
    exact congrArg _ (ih plain.2)

theorem letters_joinCamel : letters (joinCamel found) = found.flatten.map Char.toLower := by
  cases found with
  | nil => rfl
  | cons first rest =>
    rw [List.forall_mem_cons] at plain
    rw [joinCamel, letters_append, letters_lower first plain.1.2, List.flatten_cons, List.map_append]
    exact congrArg _ (letters_joinPascal rest plain.2)

end Letters

section Bodies

variable (convention : NameCase) (body : List Char) (ascii : ∀ c ∈ body, isAscii c = true)
include ascii

theorem letters_mapFirst (f : Char → Char) (recased : ∀ c, isAscii c = true → letters [f c] = letters [c]) :
    letters (mapFirst f body) = letters body := by
  cases body with
  | nil => rfl
  | cons c rest =>
    have first := recased c (ascii c List.mem_cons_self)
    rw [mapFirst, ← List.singleton_append, ← List.singleton_append (x := c), letters_append, letters_append, first]

/-- Whatever a convention does to a body, its letters stay. -/
theorem letters_convert : letters (convention.convert body) = letters body := by
  have found (byCase : Bool) := plainWord_of_mem_words byCase body ascii
  have kept (byCase : Bool) : (words byCase body).flatten.map Char.toLower = letters body := by
    rw [flatten_words byCase body ascii, letters]
  cases convention with
  | preserve => rfl
  | snake => rw [convert, letters_joinSnake _ (found true), kept]
  | camel =>
    rw [convert]
    split
    · rw [letters_joinCamel _ (found false), kept]
    · exact letters_mapFirst body ascii _
        (forall_ascii (P := fun c => letters [c.toLower] = letters [c]) (by decide))
  | pascal =>
    rw [convert]
    split
    · rw [letters_joinPascal _ (found false), kept]
    · exact letters_mapFirst body ascii _
        (forall_ascii (P := fun c => letters [c.toUpper] = letters [c]) (by decide))

end Bodies

/-- Bodies of names as a convention wants them: in snake case words in lower case with an underscore between them, in
camel and pascal case no separators, and a first character that is no capital or no small letter. -/
def Cased : NameCase → List Char → Prop
  | preserve, _ => True
  | snake, body => ∃ found : List (List Char), body = ['_'].intercalate found ∧
      ∀ word ∈ found, PlainWord word ∧ ∀ c ∈ word, c.isUpper = false
  | camel, body => (∀ c ∈ body, isPlain c = true) ∧ ∀ c ∈ body.head?, c.isUpper = false
  | pascal, body => (∀ c ∈ body, isPlain c = true) ∧ ∀ c ∈ body.head?, c.isLower = false

theorem toLower_eq_self_iff (c : Char) (ascii : isAscii c = true) : c.toLower = c ↔ c.isUpper = false :=
  forall_ascii (P := fun c => c.toLower = c ↔ c.isUpper = false) (by decide) c ascii

theorem toUpper_eq_self_iff (c : Char) (ascii : isAscii c = true) : c.toUpper = c ↔ c.isLower = false :=
  forall_ascii (P := fun c => c.toUpper = c ↔ c.isLower = false) (by decide) c ascii

theorem isUpper_of_mem_lower (word : List Char) (plain : ∀ c ∈ word, isPlain c = true) :
    ∀ c ∈ lower word, c.isUpper = false := by
  rw [lower_of_plain word plain, List.forall_mem_map]
  intro c member
  exact forall_ascii (P := fun c => c.toLower.isUpper = false) (by decide) c (isAscii_of_isPlain c (plain c member))

theorem lower_eq_self (word : List Char) (plain : ∀ c ∈ word, isPlain c = true)
    (small : ∀ c ∈ word, c.isUpper = false) : lower word = word := by
  have fixed (c : Char) (member : c ∈ word) : c.toLower = id c :=
    (toLower_eq_self_iff c (isAscii_of_isPlain c (plain c member))).mpr (small c member)
  rw [lower_of_plain word plain, List.map_congr_left fixed, List.map_id]

section Fixed

variable (body : List Char) (ascii : ∀ c ∈ body, isAscii c = true)
include ascii

theorem mapFirst_eq_self_iff (f : Char → Char) (P : Char → Prop) (fixed : ∀ c, isAscii c = true → (f c = c ↔ P c)) :
    mapFirst f body = body ↔ ∀ c ∈ body.head?, P c := by
  cases body with
  | nil => simp [mapFirst]
  | cons c rest => simpa [mapFirst] using fixed c (ascii c List.mem_cons_self)

theorem convert_snake_eq_self_iff : snake.convert body = body ↔ snake.Cased body := by
  constructor
  · intro same
    refine ⟨(words true body).map lower, same.symm, List.forall_mem_map.mpr fun word member => ?_⟩
    obtain ⟨nonempty, plain⟩ := plainWord_of_mem_words true body ascii word member
    refine ⟨⟨?_, plain_lower word plain⟩, isUpper_of_mem_lower word plain⟩
    rw [lower_of_plain word plain]
    simpa using nonempty
  · rintro ⟨found, rfl, small⟩
    have fixed (word : List Char) (member : word ∈ found) : lower word = id word :=
      lower_eq_self word (small word member).1.2 (small word member).2
    have unchanged : found.map lower = found := by rw [List.map_congr_left fixed, List.map_id]
    have joined : joinSnake found = ['_'].intercalate found := by rw [joinSnake, unchanged]
    rw [convert, ← joined, words_joinSnake found fun word member => (small word member).1, unchanged]

/-- A convention that drops separators, and otherwise recases the first character, leaves the bodies without separators
whose first character has its case. -/
theorem convert_joined_eq_self_iff (convention : NameCase) (f : Char → Char) (P : Char → Prop)
    (fixed : ∀ c, isAscii c = true → (f c = c ↔ P c)) (joined : ∀ c ∈ convention.convert body, isPlain c = true)
    (whole : hasSeparator body = false → convention.convert body = mapFirst f body) :
    convention.convert body = body ↔ (∀ c ∈ body, isPlain c = true) ∧ ∀ c ∈ body.head?, P c := by
  by_cases plain : ∀ c ∈ body, isPlain c = true
  · rw [whole (hasSeparator_of_plain body plain), mapFirst_eq_self_iff body ascii f P fixed]
    exact (and_iff_right plain).symm
  · refine iff_of_false (fun same => plain ?_) fun cased => plain cased.1
    rwa [same] at joined

/-- A convention leaves a body as it is exactly if it is cased. -/
theorem convert_eq_self_iff (convention : NameCase) : convention.convert body = body ↔ convention.Cased body := by
  cases convention with
  | preserve => exact iff_of_true rfl trivial
  | snake => exact convert_snake_eq_self_iff body ascii
  | camel =>
    refine convert_joined_eq_self_iff body ascii camel _ _ toLower_eq_self_iff (settled_camel body ascii).1 ?_
    intro unseparated
    simp [convert, unseparated]
  | pascal =>
    refine convert_joined_eq_self_iff body ascii pascal _ _ toUpper_eq_self_iff (settled_pascal body ascii).1 ?_
    intro unseparated
    simp [convert, unseparated]

end Fixed

theorem apply_eq_self_iff (convention : NameCase) (name : String) (ascii : ∀ c ∈ name.toList, isAscii c = true) :
    convention.apply name = name ↔ convention.Cased (name.toList.dropWhile (· == '_')) := by
  have parts := List.takeWhile_append_dropWhile (p := (· == '_')) (l := name.toList)
  rw [← convert_eq_self_iff _ (ascii_body name ascii), ← String.toList_inj, toList_apply]
  constructor
  · intro same
    exact List.append_cancel_left (same.trans parts.symm)
  · intro same
    rw [same, parts]

/-- A cased name is as the convention wants it, and casing it again changes nothing. So it is with the names whose
body the convention wants as it is, and with no others. -/
theorem casing_settles_names (convention : NameCase) (name : String)
    (ascii : ∀ c ∈ name.toList, isAscii c = true) :
    convention.apply (convention.apply name) = convention.apply name ∧
      convention.Cased ((convention.apply name).toList.dropWhile (· == '_')) ∧
      (convention.apply name = name ↔ convention.Cased (name.toList.dropWhile (· == '_'))) := by
  have body := ascii_body name ascii
  refine ⟨apply_apply convention name ascii, ?_, apply_eq_self_iff convention name ascii⟩
  rw [(span_apply convention name ascii).2, ← convert_eq_self_iff _ (ascii_convert _ body convention)]
  exact convert_convert _ body convention

theorem parse_http_request_settled :
    snake.apply "__parseHTTP--request_" = "__parse_http_request" ∧
      snake.apply "__parse_http_request" = "__parse_http_request" ∧
      snake.Cased "parse_http_request".toList := by
  have cased : snake.apply "__parseHTTP--request_" = "__parse_http_request" := by decide
  obtain ⟨again, settled, -⟩ := casing_settles_names snake "__parseHTTP--request_" (by simp [isAscii])
  rw [cased] at again settled
  exact ⟨cased, again, settled⟩

theorem letters_apply (convention : NameCase) (name : String) (ascii : ∀ c ∈ name.toList, isAscii c = true) :
    letters (convention.apply name).toList = letters name.toList := by
  rw [toList_apply, letters_append, letters_convert convention _ (ascii_body name ascii), ← letters_append,
    List.takeWhile_append_dropWhile]

/-- Casing keeps the underscores in front of a name and all its letters, up to their case. So names that are cased
alike are the same up to case and separators. -/
theorem casing_keeps_letters (convention : NameCase) (name : String)
    (ascii : ∀ c ∈ name.toList, isAscii c = true) :
    (convention.apply name).toList.takeWhile (· == '_') = name.toList.takeWhile (· == '_') ∧
      letters (convention.apply name).toList = letters name.toList ∧
      ∀ other : String, (∀ c ∈ other.toList, isAscii c = true) → convention.apply other = convention.apply name →
        other.toList.takeWhile (· == '_') = name.toList.takeWhile (· == '_') ∧
          letters other.toList = letters name.toList := by
  have kept := (span_apply convention name ascii).1
  have same := letters_apply convention name ascii
  refine ⟨kept, same, fun other otherAscii merged => ⟨?_, ?_⟩⟩
  · rw [← kept, ← merged, (span_apply convention other otherAscii).1]
  · rw [← same, ← merged, letters_apply convention other otherAscii]

theorem get_http_value_letters :
    camel.apply "_get-HTTP_value" = "_getHttpValue" ∧ camel.apply "_GET_http-value_" = "_getHttpValue" ∧
      letters "_getHttpValue".toList = letters "_get-HTTP_value".toList ∧
      letters "_GET_http-value_".toList = letters "_get-HTTP_value".toList := by
  have cased : camel.apply "_get-HTTP_value" = "_getHttpValue" := by decide
  have other : camel.apply "_GET_http-value_" = "_getHttpValue" := by decide
  obtain ⟨-, kept, merged⟩ := casing_keeps_letters camel "_get-HTTP_value" (by simp [isAscii])
  rw [cased] at kept
  exact ⟨cased, other, kept, (merged "_GET_http-value_" (by simp [isAscii]) (other.trans cased.symm)).2⟩

end NameCase
end Retarget
