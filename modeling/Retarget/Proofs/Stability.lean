import Retarget.Proofs.FixedMarks
import Retarget.Proofs.RenamedScopes
import Retarget.Proofs.SettledNames
import Retarget.Proofs.Totality

/-! Stability of the C# passes. Marks are made by the names before casing, and a second run makes them by
the names after it. The two agree exactly if casing never merges the name of an assignment with one that
is visible, nor separates them. -/
namespace Retarget

/-- Casing keeps what is mentioned first: behind the same events, an assignment finds its name visible
before casing exactly if it does afterwards. -/
def Naming.KeepsMentions (naming : Naming) (tree : Node) : Prop :=
  ∀ seed body, tree.HasScope seed body → ∀ before name marked after,
    eventsOf body = before ++ .assigns name marked :: after →
      ((∃ mention ∈ visible seed before, mention.name = name) ↔
        ∃ mention ∈ visible seed before, (mention.renamed naming (.ofTree tree)).name =
          naming.reference (.ofTree tree) name)

namespace Declaration

variable (naming : Naming) (names : DefinedNames)

/-- The events of a scope that is marked and then renamed. -/
theorem eventsOf_renamed_markBody (seed : List Mention) (body : List Node) :
    eventsOf ((markBody (.ofMentions seed) body).map (Node.renamed naming names)) =
      (Event.remarkAll (.ofMentions seed) (eventsOf body)).map (Event.renamed naming names) := by
  rw [eventsOf_map_renamed, eventsOf_markBody]

/-- The marks of a scope are right after casing exactly if casing keeps its mentions. -/
theorem firstMentions_renamed_iff (seed : List Mention) (body : List Node) :
    FirstMentions (seed.map (Mention.renamed naming names))
        (eventsOf ((markBody (.ofMentions seed) body).map (Node.renamed naming names))) ↔
      ∀ before name marked after, eventsOf body = before ++ .assigns name marked :: after →
        ((∃ mention ∈ visible seed before, mention.name = name) ↔
          ∃ mention ∈ visible seed before, (mention.renamed naming names).name = naming.reference names name) := by
  rw [firstMentions_iff, eventsOf_renamed_markBody]
  constructor
  · intro right before name marked after split
    have marks := right ((Event.remarkAll (.ofMentions seed) before).map (Event.renamed naming names))
      (naming.reference names name) (name ∉ Event.advance (.ofMentions seed) before) _
      (by rw [split, Event.remarkAll_cons_append, List.map_append, List.map_cons]; rfl)
    rw [visible_renamed, Event.visible_remarkAll, decide_eq_true_iff, Event.advance_ofMentions, Scope.mem_ofMentions,
      not_iff_not] at marks
    simpa using marks
  · intro kept before name marked after split
    obtain ⟨start, rest, events, rfl, others⟩ := List.map_eq_append_iff.mp split
    obtain ⟨event, finish, rfl, same, rfl⟩ := List.map_eq_cons_iff.mp others
    obtain ⟨first, original, last, split, rfl, rfl⟩ := Event.exists_of_remarkAll_eq _ _ _ _ _ events
    cases original with
    | assigns assigned old =>
      have marks := kept first assigned old last split
      rw [Event.remark, Event.renamed, Event.assigns.injEq] at same
      obtain ⟨rfl, rfl⟩ := same
      rw [visible_renamed, Event.visible_remarkAll, decide_eq_true_iff, Event.advance_ofMentions, Scope.mem_ofMentions,
        not_iff_not, marks]
      simp
    | _ => cases same

end Declaration

namespace Naming

variable (naming : Naming) (tree : Node)

/-- The marks of a marked and cased tree are right exactly if casing keeps the mentions of the tree. -/
theorem mark_run_eq_self_iff :
    Declaration.run (naming.run (Declaration.run tree)) = naming.run (Declaration.run tree) ↔
      naming.KeepsMentions tree := by
  have cased : [naming.run (Declaration.run tree)] =
      (Declaration.markBody (.ofMentions []) [tree]).map (Node.renamed naming (.ofTree tree)) := by
    rw [Declaration.markBody_singleton, List.map_singleton, run_eq, DefinedNames.ofTree_mark]
    rfl
  rw [Declaration.run_eq_self_iff]
  simp only [Node.HasScope, cased]
  constructor
  · intro right seed body reached
    have marked := reaches_renamed naming (.ofTree tree) (Declaration.reaches_markBody reached)
    exact (Declaration.firstMentions_renamed_iff naming _ seed body).mp (right _ _ marked)
  · intro kept seed body reached
    obtain ⟨original, nested, marked, rfl, rfl⟩ :=
      exists_of_reaches_renamed naming (.ofTree tree) (by rwa [List.map_nil])
    obtain ⟨body, among, rfl⟩ := Declaration.reaches_of_reaches_markBody marked
    exact (Declaration.firstMentions_renamed_iff naming _ original body).mpr (kept original body among)

theorem renameKind_unmarking (names : DefinedNames) (node : Node) :
    naming.renameKind names (node.relabel unmarking).kind = (node.relabel unmarking).kind ↔
      naming.renameKind names node.kind = node.kind := by
  obtain ⟨kind, type⟩ := node
  rw [Node.relabel_mk]
  cases kind <;> simp [unmarking, Kind.map, renameKind]

/-- Names that casing leaves alone are still left alone once the tree is marked. -/
theorem run_mark_of_run_eq_self (fixed : naming.run tree = tree) :
    naming.run (Declaration.run tree) = Declaration.run tree := by
  rw [run_eq, Node.relabel_eq_self_iff] at fixed ⊢
  rw [DefinedNames.ofTree_mark]
  exact Node.forall_walk_of_relabel_eq unmarking (naming.renameKind_unmarking _)
    (Declaration.unmark_mark tree []).symm fixed

end Naming

namespace CSharp

section Built

variable {settings : LanguageSettings} {built : Profile} (basics : Basics settings built) (tree : Node)
  (ascii : tree.HasAsciiNames)
include basics

theorem void_dependencies : SemType.void.dependencies built.library = [] := by
  have none : built.library.typeDependency? "Void" = none := by
    rw [Library.typeDependency?, basics.typeDependencies]
    decide
  rw [SemType.void, SemType.dependencies, none]
  rfl

theorem mark_runPasses_iff : Declaration.run (built.runPasses tree) = built.runPasses tree ↔
    (naming settings).KeepsMentions tree := by
  rw [← Naming.mark_run_eq_self_iff, runPasses_eq basics, Imports.run_mark]
  constructor
  · exact Imports.eq_of_run_eq built.library (Declaration.skeleton_run _)
  · exact congrArg _

/-- What happens around a tree after the passes. -/
theorem events_runPasses : (built.runPasses tree).events =
    (Event.remarkAll [] tree.events).map (Event.renamed (naming settings) (.ofTree tree)) := by
  have renamed := (Declaration.run tree).events_renamed (naming settings) (.ofTree tree)
  rw [runPasses_eq basics, Imports.events_run, Naming.run_eq, DefinedNames.ofTree_mark,
    ← (Declaration.tracks tree []).1]
  exact renamed

include ascii

/-- A second run of the passes comes down to a second marking. -/
theorem runPasses_runPasses : built.runPasses (built.runPasses tree) = Declaration.run (built.runPasses tree) := by
  have names := (naming settings).run_run _ (tree.hasAsciiNames_mark ascii)
  have settled := Naming.run_mark_of_run_eq_self _ _ names
  rw [runPasses_eq basics (built.runPasses tree), runPasses_eq basics tree, Imports.run_mark, Imports.run_naming,
    settled, Imports.run_run _ _ (void_dependencies basics)]

end Built

/-- On trees with ASCII names, the passes are stable on their own output exactly if casing keeps the
mentions of the tree, and exactly if every scope of the output marks its first mentions. -/
theorem passes_are_stable_iff (settings : LanguageSettings) :
    ∃ built, profile settings = .ok built ∧ ∀ tree : Node, tree.HasAsciiNames →
      (built.runPasses (built.runPasses tree) = built.runPasses tree ↔ (naming settings).KeepsMentions tree) ∧
      (built.runPasses (built.runPasses tree) = built.runPasses tree ↔
        ∀ seed body, (built.runPasses tree).HasScope seed body → FirstMentions seed (eventsOf body)) := by
  obtain ⟨built, same, basics, _⟩ := exists_profile settings
  refine ⟨built, same, fun tree ascii => ?_⟩
  rw [runPasses_runPasses basics tree ascii]
  exact ⟨mark_runPasses_iff basics tree, Declaration.run_eq_self_iff _⟩

section Zeroing

open Declaration

/-- All that happens in a program that sets locals to zero is that its main block assigns to them. -/
theorem exists_main_of_zeroing (names : List String) : ∃ main, (zeroing names).events = [.opens [] main] ∧
    eventsOf main = names.map (Event.assigns · false) := by
  let main := names.map fun name => Node.assignment (.localVar name (.named "Int")) (.int 0)
  have assigned : eventsOf main = names.map (Event.assigns · false) := by
    rw [eventsOf, List.flatMap_map, List.map_eq_flatMap]
    exact List.flatMap_congr fun name _ => Node.events_assignment_local _ _ _ _ name rfl
  exact ⟨main, Node.events_module .., assigned⟩

theorem hasScope_zeroing (names : List String) (seed : List Mention) (body : List Node)
    (reached : (zeroing names).HasScope seed body) :
    seed = [] ∧ (body = [zeroing names] ∨ eventsOf body = names.map (Event.assigns · false)) := by
  obtain ⟨main, events, assigned⟩ := exists_main_of_zeroing names
  have whole : eventsOf [zeroing names] = [.opens [] main] := by
    rw [← events]
    exact List.append_nil _
  induction reached with
  | self => exact ⟨rfl, .inl rfl⟩
  | opens _ opened ih =>
    rcases ih.2 with rfl | flat
    · rw [whole, List.mem_singleton, Event.opens.injEq] at opened
      obtain ⟨rfl, rfl⟩ := opened
      exact ⟨rfl, .inr assigned⟩
    · rw [flat] at opened
      simp at opened
  | closure _ split ih =>
    have closes := congrArg (List.any · fun event => event matches .closure _ _) split
    rcases ih.2 with rfl | flat
    · simp [whole] at closes
    · simp [flat] at closes

/-- The names of two locals that casing merges are both marked, and a second run takes back one mark. -/
theorem merged_locals_are_unstable :
    ∃ built, profile {} = .ok built ∧ (zeroing ["a_b", "aB"]).HasAsciiNames ∧
      (∃ body, (built.runPasses (zeroing ["a_b", "aB"])).HasScope [] body ∧
        eventsOf body = [.assigns "aB" true, .assigns "aB" true]) ∧
      built.runPasses (built.runPasses (zeroing ["a_b", "aB"])) ≠ built.runPasses (zeroing ["a_b", "aB"]) := by
  obtain ⟨built, same, basics, _⟩ := exists_profile {}
  have ascii : (zeroing ["a_b", "aB"]).HasAsciiNames := by decide +kernel
  obtain ⟨main, events, assigned⟩ := exists_main_of_zeroing ["a_b", "aB"]
  have passed := events_runPasses basics (zeroing ["a_b", "aB"])
  rw [events] at passed
  have reached : (built.runPasses (zeroing ["a_b", "aB"])).HasScope [] _ :=
    .opens .self (by rw [eventsOf, List.flatMap_singleton, passed]; exact List.mem_singleton_self _)
  have first : (naming {}).reference (.ofTree (zeroing ["a_b", "aB"])) "a_b" = "aB" := by decide +kernel
  have second : (naming {}).reference (.ofTree (zeroing ["a_b", "aB"])) "aB" = "aB" := by decide +kernel
  have merged := eventsOf_renamed_markBody (naming {}) (.ofTree (zeroing ["a_b", "aB"])) [] main
  rw [assigned] at merged
  simp only [List.map_cons, Event.remarkAll, Event.remark, Event.renamed, first, second] at merged
  refine ⟨built, same, ascii, ⟨_, reached, merged⟩, ?_⟩
  rw [runPasses_runPasses basics _ ascii, ne_eq, Declaration.run_eq_self_iff]
  intro right
  have marks := right [] _ reached [.assigns "aB" true] "aB" true [] merged
  exact (marks.mp rfl).2.2 true List.mem_cons_self

theorem one_local_is_stable :
    ∃ built, profile {} = .ok built ∧ (zeroing ["egg_total", "egg_total"]).HasAsciiNames ∧
      built.runPasses (built.runPasses (zeroing ["egg_total", "egg_total"])) =
        built.runPasses (zeroing ["egg_total", "egg_total"]) := by
  obtain ⟨built, same, stable⟩ := passes_are_stable_iff {}
  have ascii : (zeroing ["egg_total", "egg_total"]).HasAsciiNames := by decide +kernel
  refine ⟨built, same, ascii, (stable _ ascii).1.mpr ?_⟩
  intro seed body reached before name marked after split
  have only : ∀ event ∈ eventsOf body, ∀ mention ∈ event.mention?, mention = .localVar "egg_total" := by
    obtain ⟨_, rfl | flat⟩ := hasScope_zeroing _ seed body reached
    · exact fun _ member _ mentions => by cases List.mem_singleton.mp member; cases mentions
    · rw [flat]
      simp [Event.mention?]
  rw [(hasScope_zeroing _ seed body reached).1]
  have own : name = "egg_total" := by
    have same := only (.assigns name marked) (by simp [split]) (.localVar name) rfl
    rwa [Mention.localVar.injEq] at same
  refine exists_congr fun mention => and_congr_right fun member => ?_
  obtain ⟨event, among, mentions⟩ := List.mem_filterMap.mp member
  rw [only event (by simp [split, among]) mention mentions, own]
  exact iff_of_true rfl rfl

end Zeroing
end CSharp
end Retarget
