import Retarget.Proofs.OverrideRuns
import Retarget.Proofs.RealignedTexts

/-! Settings of the indentation. The overrides of the C# target write the same lines under any indentation, so that
the settings for it change nothing in a module but the spaces and tabs in front of its lines. -/
namespace Retarget

/-- Results under two indentations: the same lines, or the same error. -/
abbrev Aligned (cut : GenerateError → Prop) (first second : Except GenerateError String) : Prop :=
  Follows cut SameLines first second

namespace CSharp

/-- Under another indentation a module fails with the same error, or comes out with the same lines. -/
theorem renderModule_aligned {settings : LanguageSettings} {built : Profile} (basics : Basics settings built)
    (indent : Indent) (module : Node) :
    Aligned (fun _ => False) (built.renderModule module) ((built.reindented indent).renderModule module) := by
  let declared := Profile.declaredTypes (built.runPasses module)
  have run : RunsMatch (.realigned built.indent indent) (fun _ => False) declared declared 0
      (built.nesting (built.runPasses module).size) :=
    runs_match basics _ _ _ (.inl rfl) Likeness.types_self _
  have near : (Likeness.realigned built.indent indent).depths 0 0 := trivial
  refine (run.render near (built.runPasses module)).bind fun text following same => .ok ?_
  simpa [SameLines] using Realigned.trimEnd same

/-- Settings that agree on names make the same profile, but for the indentation. -/
theorem exists_reindented (first second : LanguageSettings) (sameNaming : first.naming = second.naming)
    (built : Profile) (builds : profile first = .ok built) :
    ∃ indent, profile second = .ok (built.reindented indent) := by
  have passes : naming second = naming first := by
    rw [naming, naming, sameNaming]
  obtain ⟨rest, ofFirst, ofSecond⟩ : ∃ rest, registrations first = .indent (indent first) :: rest ∧
      registrations second = .indent (indent second) :: rest := ⟨_, rfl, by rw [registrations, passes]; rfl⟩
  rw [profile, ofFirst, Profile.build_eq, map_eq_ok_iff] at builds
  obtain ⟨parsed, parses, rfl⟩ := builds
  cases (mapM_eq_ok_iff _ _ _).mp parses with
  | cons head tail =>
    cases head
    rw [profile, ofSecond, Profile.build_eq]
    exact ⟨_, (map_eq_ok_iff _ _ _).mpr ⟨_, (mapM_eq_ok_iff _ _ _).mpr (.cons rfl tail), rfl⟩⟩

/-- A closure with a block of its own, passed on inside a loop of the main statements. -/
def nestedBlocks : Node := (ModuleDraft.statement {} Profile.closureInLoop).build

end CSharp
end Retarget
