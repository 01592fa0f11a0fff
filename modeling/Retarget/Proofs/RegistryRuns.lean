import Mathlib.Data.List.TakeWhile
import Retarget.Language
import Retarget.Proofs.Traverse

/-! Runs of a registry. Whichever look-up comes first enters the built-in language; what a look-up answers is told here
from the calls before it alone, without the state of the registry. -/
namespace Retarget.Registry

/-- A call to a registry. -/
inductive Call where
  | register (language : Language)
  | byName (name : String)
  | byExtension (extension : String)
  | list

/-- What a call gives back. -/
inductive Answer where
  | registered
  | found (language : Option Language)
  | languages (all : List Language)

namespace Call

def run : Call → StateM Registry Answer
  | register language => do
    modify (Registry.register · language)
    return .registered
  | byName name => return .found (← byName? name)
  | byExtension extension => return .found (← byExtension? extension)
  | list => return .languages (← Registry.list)

def isLookUp : Call → Bool
  | register _ => false
  | _ => true

def language? : Call → Option Language
  | register language => some language
  | _ => none

/-- What a call gives back if these are the languages, in order. -/
def answer (all : List Language) : Call → Answer
  | register _ => .registered
  | byName name => .found (all.find? (·.name == name))
  | byExtension extension => .found (all.find? (·.extension == extension))
  | list => .languages all

end Call

/-- The languages that calls register, in order. -/
def registered (calls : List Call) : List Language := calls.filterMap Call.language?

/-- What a look-up behind some calls finds: the languages registered before the first look-up, the built-in one, and
those registered since. -/
def listing (calls : List Call) : List Language :=
  registered (calls.takeWhile (!·.isLookUp)) ++ .csharp :: registered (calls.dropWhile (!·.isLookUp))

/-- The registry behind some calls. -/
def standing (calls : List Call) : Registry :=
  if calls.any Call.isLookUp then ⟨listing calls, true⟩ else ⟨registered calls, false⟩

section Listing

variable {calls : List Call} (more : List Call)

theorem registered_append : registered (calls ++ more) = registered calls ++ registered more :=
  List.filterMap_append

theorem registered_lookUp (call : Call) (isLookUp : call.isLookUp = true) : registered [call] = [] := by
  cases call with
  | register language => cases isLookUp
  | _ => rfl

theorem listing_of_quiet (quiet : calls.any Call.isLookUp = false) : listing calls = registered calls ++ [.csharp] := by
  have all : ∀ call ∈ calls, (!call.isLookUp) = true := by simpa using quiet
  rw [listing, List.takeWhile_eq_self_iff.mpr all, List.dropWhile_eq_nil_iff.mpr all]
  rfl

theorem listing_split (quiet : calls.any Call.isLookUp = false) (call : Call) (isLookUp : call.isLookUp = true) :
    listing (calls ++ call :: more) = registered calls ++ .csharp :: registered more := by
  have all : ∀ call ∈ calls, (!call.isLookUp) = true := by simpa using quiet
  have stops : (!call.isLookUp) = false := by rw [isLookUp, Bool.not_true]
  have rest : registered (call :: more) = registered more := by
    rw [← List.singleton_append, registered_append, registered_lookUp call isLookUp, List.nil_append]
  rw [listing, List.takeWhile_append_of_pos all, List.dropWhile_append_of_pos all, List.takeWhile_cons,
    List.dropWhile_cons, stops, ← rest]
  simp

theorem exists_first_lookUp (opened : calls.any Call.isLookUp = true) :
    ∃ early first late,
      calls = early ++ first :: late ∧ early.any Call.isLookUp = false ∧ first.isLookUp = true := by
  induction calls with
  | nil => cases opened
  | cons call calls ih =>
    cases isLookUp : call.isLookUp with
    | true => exact ⟨[], call, calls, rfl, rfl, isLookUp⟩
    | false =>
      rw [List.any_cons, isLookUp, Bool.false_or] at opened
      obtain ⟨early, first, late, rfl, quiet, isFirst⟩ := ih opened
      exact ⟨call :: early, first, late, rfl, by rw [List.any_cons, isLookUp, quiet]; rfl, isFirst⟩

/-- Behind a look-up, languages are only added at the end. -/
theorem listing_append (opened : calls.any Call.isLookUp = true) :
    listing (calls ++ more) = listing calls ++ registered more := by
  obtain ⟨early, first, late, rfl, quiet, isLookUp⟩ := exists_first_lookUp opened
  rw [List.append_assoc, List.cons_append, listing_split _ quiet first isLookUp, listing_split _ quiet first isLookUp,
    registered_append, List.append_assoc, List.cons_append]

/-- What a look-up finds stays the front of what any later one finds. -/
theorem listing_extends (call : Call) (isLookUp : call.isLookUp = true) :
    listing calls <+: listing (calls ++ call :: more) := by
  cases opened : calls.any Call.isLookUp with
  | true =>
    rw [listing_append _ opened]
    exact List.prefix_append _ _
  | false =>
    rw [listing_split _ opened call isLookUp, listing_of_quiet opened, List.append_cons _ .csharp (registered more)]
    exact List.prefix_append _ _

end Listing

section Runs

theorem opening_standing (calls : List Call) : (standing calls).opening = ⟨listing calls, true⟩ := by
  rw [standing]
  split
  · rfl
  · rename_i quiet
    rw [listing_of_quiet (Bool.eq_false_iff.mpr quiet)]
    rfl

theorem standing_lookUp (calls : List Call) (call : Call) (isLookUp : call.isLookUp = true) :
    standing (calls ++ [call]) = ⟨listing calls, true⟩ := by
  have opens : (calls ++ [call]).any Call.isLookUp = true := by simp [isLookUp]
  rw [standing, if_pos opens]
  cases opened : calls.any Call.isLookUp with
  | true => rw [listing_append _ opened, registered_lookUp call isLookUp, List.append_nil]
  | false =>
    rw [listing_split _ opened call isLookUp, listing_of_quiet opened]
    rfl

theorem standing_register (calls : List Call) (language : Language) :
    standing (calls ++ [Call.register language]) = (standing calls).register language := by
  have same : (calls ++ [Call.register language]).any Call.isLookUp = calls.any Call.isLookUp := by
    rw [List.any_append]
    exact Bool.or_false _
  rw [standing, standing, same]
  split
  · rename_i opened
    rw [listing_append _ opened]
    rfl
  · rw [registered_append]
    rfl

theorem run_lookUp (registry : Registry) (call : Call) (isLookUp : call.isLookUp = true) :
    call.run.run registry = (call.answer registry.opening.languages, registry.opening) := by
  cases call with
  | register language => cases isLookUp
  | _ => rfl

/-- One call: it answers from the languages as they stand, and leaves the registry as the calls with it describe. -/
theorem run_call (calls : List Call) (call : Call) :
    call.run.run (standing calls) = (call.answer (listing calls), standing (calls ++ [call])) := by
  cases isLookUp : call.isLookUp with
  | true => rw [run_lookUp _ call isLookUp, standing_lookUp calls call isLookUp, opening_standing]
  | false =>
    cases call with
    | register language =>
      rw [standing_register]
      rfl
    | _ => cases isLookUp

/-- The state behind a run of calls. -/
theorem run_calls (earlier later : List Call) :
    ((later.mapM Call.run).run (standing earlier)).2 = standing (earlier ++ later) := by
  induction later generalizing earlier with
  | nil => rw [List.append_nil]; rfl
  | cons call later ih => rw [run_mapM_cons, run_call, ih, List.append_assoc]; rfl

/-- What calls give back, one after the other, on a fresh registry. -/
def answers (calls : List Call) : List Answer := ((calls.mapM Call.run).run .empty).1

/-- Every call of a run is answered from the calls before it. -/
theorem answers_at (before : List Call) (call : Call) (after : List Call) :
    (answers (before ++ call :: after))[before.length]? = some (call.answer (listing before)) := by
  have state : ((before.mapM Call.run).run .empty).2 = standing before := run_calls [] before
  rw [answers, run_mapM_append, run_mapM_cons, state, run_call]
  have behind := length_run_mapM Call.run before .empty
  rw [List.getElem?_append_right (Nat.le_of_eq behind), behind, Nat.sub_self]
  rfl

/-- A language that is found stays the answer when others are added behind those that were there. -/
theorem answer_of_prefix {fewer more : List Language} (grows : fewer <+: more) (call : Call) (language : Language)
    (found : call.answer fewer = .found (some language)) : call.answer more = .found (some language) := by
  obtain ⟨added, rfl⟩ := grows
  cases call with
  | register => cases found
  | list => cases found
  | byName name =>
    simp only [Call.answer, Answer.found.injEq] at found ⊢
    rw [List.find?_append, found, Option.some_or]
  | byExtension extension =>
    simp only [Call.answer, Answer.found.injEq] at found ⊢
    rw [List.find?_append, found, Option.some_or]

theorem isLookUp_of_found {all : List Language} (call : Call) (language : Option Language)
    (found : call.answer all = .found language) : call.isLookUp = true := by
  cases call with
  | register => cases found
  | _ => rfl

end Runs

/-- In any run on a fresh registry, every look-up answers from the languages registered before the first look-up, the
built-in one, and those registered since, in this order, the first of a name or extension counting. A language once
found is found again under its key. -/
theorem look_ups_are_stable (calls : List Call) :
    (∀ before call after, calls = before ++ call :: after →
      (answers calls)[before.length]? = some (call.answer (listing before))) ∧
    ∀ before call between after language, calls = before ++ call :: between ++ call :: after →
      (answers calls)[before.length]? = some (.found (some language)) →
      (answers calls)[(before ++ call :: between).length]? = some (.found (some language)) := by
  constructor
  · rintro before call after rfl
    exact answers_at before call after
  · rintro before call between after language rfl first
    have again := answers_at (before ++ call :: between) call after
    rw [List.append_assoc, List.cons_append] at first
    have found := Option.some.inj ((answers_at before call _).symm.trans first)
    have isLookUp := isLookUp_of_found call _ found
    rw [again, answer_of_prefix (listing_extends between call isLookUp) call language found]

/-- A language under the name of the built-in one, and the built-in one again. -/
def namesakes : List Call :=
  let own : Language := ⟨"csharp", "own", fun _ => Profile.build "csharp" "own" []⟩
  [.register own, .byName "csharp", .register .csharp, .byName "csharp", .list]

theorem first_namesake_stays :
    ∃ own : Language, own.extension = "own" ∧ (answers namesakes)[1]? = some (.found (some own)) ∧
      (answers namesakes)[3]? = some (.found (some own)) ∧
      (answers namesakes)[4]? = some (.languages [own, .csharp, .csharp]) := by
  obtain ⟨answered, stays⟩ := look_ups_are_stable namesakes
  have first := answered [.register _] (.byName "csharp") _ rfl
  have all := answered [.register _, .byName "csharp", .register .csharp, .byName "csharp"] .list [] rfl
  exact ⟨_, rfl, first, stays [.register _] (.byName "csharp") [.register .csharp] [.list] _ rfl first, all⟩

end Retarget.Registry
