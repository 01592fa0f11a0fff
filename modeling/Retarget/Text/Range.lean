/-! Ranges of code points, for tables of character properties. -/
namespace Retarget.Text

/-- Whether a code point lies in one of the ranges, both ends included. -/
def inRanges (ranges : List (Nat × Nat)) (n : Nat) : Bool :=
  ranges.any fun (first, last) => first ≤ n && n ≤ last

theorem inRanges_of_mem {ranges : List (Nat × Nat)} {first last n : Nat}
    (mem : (first, last) ∈ ranges) (low : first ≤ n) (high : n ≤ last) :
    inRanges ranges n = true :=
  List.any_eq_true.2 ⟨_, mem, by simp [low, high]⟩

/-- Code points a step apart that are all mapped by one shift. -/
structure Run where
  first : Nat
  last : Nat
  step : Nat
  shift : Int

/-- The image of a code point under the run that it lies in. -/
def mapRuns? (runs : List Run) (n : Nat) : Option Nat :=
  (runs.find? fun run => run.first ≤ n && n ≤ run.last && (n - run.first) % run.step == 0).map
    fun run => ((n : Int) + run.shift).toNat

end Retarget.Text
