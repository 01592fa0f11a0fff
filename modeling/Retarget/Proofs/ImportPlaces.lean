import Retarget.Proofs.AddedImports

/-! Places of the import pass. What a tree needs imported is read from its calls and types, which no other pass
touches, and no other pass looks at dependencies. So imports are added before any pass as they are behind it, and a
profile may have the import pass anywhere among its passes. -/
namespace Retarget

namespace Pass

variable (library : Library)

/-- A pass may run before imports are added or after. -/
theorem run_imports (pass : Pass) (tree : Node) :
    pass.run library (Imports.run library tree) = Imports.run library (pass.run library tree) := by
  cases pass with
  | declaration => exact Imports.run_mark library tree
  | naming rule => exact Imports.run_naming library rule tree
  | imports => rfl

theorem runAll_imports (passes : List Pass) (tree : Node) :
    runAll library passes (Imports.run library tree) = Imports.run library (runAll library passes tree) := by
  induction passes generalizing tree with
  | nil => rfl
  | cons pass rest ih =>
    calc runAll library (pass :: rest) (Imports.run library tree)
        = runAll library rest (pass.run library (Imports.run library tree)) := rfl
      _ = runAll library rest (Imports.run library (pass.run library tree)) := by rw [run_imports]
      _ = Imports.run library (runAll library (pass :: rest) tree) := ih (pass.run library tree)

/-- Wherever imports are added on the way, they could as well be added at the end. -/
theorem runAll_imports_between (before after : List Pass) (tree : Node) :
    runAll library (before ++ imports :: after) tree = Imports.run library (runAll library (before ++ after) tree) := by
  calc runAll library (before ++ imports :: after) tree
      = runAll library after (Imports.run library (runAll library before tree)) := List.foldl_append
    _ = Imports.run library (runAll library after (runAll library before tree)) := runAll_imports library after _
    _ = Imports.run library (runAll library (before ++ after) tree) :=
      congrArg (Imports.run library) List.foldl_append.symm

end Pass

namespace Profile

/-- The profile with the import pass at a place among its passes, or behind them if there are not so many. -/
def importingAt (profile : Profile) (place : Nat) : Profile :=
  { profile with passes := profile.passes.take place ++ .imports :: profile.passes.drop place }

variable (profile : Profile)

theorem runPasses_importingAt (place : Nat) (tree : Node) :
    (profile.importingAt place).runPasses tree = Imports.run profile.library (profile.runPasses tree) := by
  have between := Pass.runAll_imports_between profile.library (profile.passes.take place)
    (profile.passes.drop place) tree
  rw [List.take_append_drop] at between
  exact between

/-- Imports are added to a tree before it is cased or marked as they are added to the cased or marked tree. So wherever
the pass that adds them stands among the passes of a profile, trees are prepared alike and the same text is
generated. -/
theorem imports_commute_with_passes (tree : Node) :
    (∀ naming : Naming,
      Imports.run profile.library (naming.run tree) = naming.run (Imports.run profile.library tree)) ∧
    Imports.run profile.library (Declaration.run tree) = Declaration.run (Imports.run profile.library tree) ∧
    (∀ place, (profile.importingAt place).runPasses tree = Imports.run profile.library (profile.runPasses tree)) ∧
    ∀ place other, (profile.importingAt place).renderModule tree = (profile.importingAt other).renderModule tree := by
  refine ⟨fun naming => (Imports.run_naming profile.library naming tree).symm,
    (Imports.run_mark profile.library tree).symm, fun place => profile.runPasses_importingAt place tree,
    fun place other => ?_⟩
  have prepared : (profile.importingAt place).runPasses tree = (profile.importingAt other).runPasses tree := by
    rw [runPasses_importingAt, runPasses_importingAt]
  rw [renderModule, renderModule, prepared]
  rfl

end Profile
end Retarget
