import Retarget.Proofs.Positions
import Retarget.Proofs.SettledNames

/-! Definitions and references under casing. Occurrences of one name in one role are cased alike, wherever they are.
Across roles, a reference follows the function that it names; a local in a handler follows the caught instance only as
long as its name is not cased as that of a constant or of a function. -/
namespace Retarget

/-- The roles in which nodes have names that conventions apply to. -/
inductive Role where
  | localVar
  /-- The instance that an exception handler binds. -/
  | caught
  | function
  /-- A method where it is defined, or the message of a call. -/
  | method
  /-- A class attribute, an instance variable, or an access to an attribute. -/
  | member
  deriving DecidableEq

namespace Node

def role? (node : Node) : Option Role :=
  match node.kind with
  | .localVar .. => some .localVar
  | .exceptionHandler .. => some .caught
  | .functionDefinition .. => some .function
  | .methodDefinition .. | .methodCall .. | .staticCall .. => some .method
  | .classAttr .. | .instanceVariable .. | .attr .. => some .member
  | _ => none

/-- At a position of a tree there is a node with a name in a role. -/
def HasName (tree : Node) (position : List Nat) (role : Role) (name : String) : Prop :=
  ∃ node, tree.at? position = some node ∧ node.role? = some role ∧ node.identifier? = some name

theorem HasName.name_unique {tree : Node} {position : List Nat} {role other : Role} {name another : String}
    (first : tree.HasName position role name) (second : tree.HasName position other another) : name = another := by
  obtain ⟨node, found, _, named⟩ := first
  obtain ⟨same, again, _, called⟩ := second
  rw [found, Option.some.injEq] at again
  subst again
  rwa [named, Option.some.injEq] at called

/-- A name that a definition has is among those that references are told apart by. -/
theorem mem_functions_of_hasName {tree : Node} {position : List Nat} {name : String}
    (defined : tree.HasName position .function name) : name ∈ (DefinedNames.ofTree tree).functions := by
  obtain ⟨node, found, role, named⟩ := defined
  refine List.mem_filterMap.mpr ⟨node, mem_walk_of_at? tree node position found, ?_⟩
  obtain ⟨kind, type⟩ := node
  cases kind with
  | functionDefinition => exact named
  | _ => cases role

end Node

namespace Naming

variable (naming : Naming)

/-- A name as casing spells it in a role. -/
def spelling (names : DefinedNames) : Role → String → String
  | .localVar => naming.reference names
  | .caught | .member => naming.normal.apply
  | .function => naming.function.apply
  | .method => naming.method.apply

section Renamed

variable (names : DefinedNames) (node : Node)

theorem role?_renamed : (node.relabel (naming.renaming names)).role? = node.role? := by
  obtain ⟨kind, type⟩ := node
  rw [Node.relabel_mk]
  cases kind <;> rfl

theorem identifier?_renamed (role : Role) (plays : node.role? = some role) :
    (node.relabel (naming.renaming names)).identifier? = node.identifier?.map (naming.spelling names role) := by
  obtain ⟨kind, type⟩ := node
  rw [Node.relabel_mk]
  cases kind <;> cases plays <;> rfl

end Renamed

variable (tree : Node)

/-- Casing keeps every name at its position and in its role. -/
theorem hasName_run_iff (position : List Nat) (role : Role) (cased : String) :
    (naming.run tree).HasName position role cased ↔
      ∃ name, tree.HasName position role name ∧ naming.spelling (.ofTree tree) role name = cased := by
  have found := Node.at?_relabel (naming.renaming (.ofTree tree)) tree position
  rw [← run_eq] at found
  constructor
  · rintro ⟨renamed, isThere, plays, named⟩
    rw [found, Option.map_eq_some_iff] at isThere
    obtain ⟨node, original, rfl⟩ := isThere
    rw [role?_renamed] at plays
    rw [identifier?_renamed naming _ node role plays, Option.map_eq_some_iff] at named
    obtain ⟨name, named, spelled⟩ := named
    exact ⟨name, ⟨node, original, plays, named⟩, spelled⟩
  · rintro ⟨name, ⟨node, original, plays, named⟩, rfl⟩
    refine ⟨_, by rw [found, original]; rfl, (role?_renamed ..).trans plays, ?_⟩
    rw [identifier?_renamed naming _ node role plays, named, Option.map_some]

/-- Two occurrences of a name still have one name after casing exactly if it is spelled alike in their roles. -/
theorem casedAlike_iff {first second : List Nat} {role other : Role} {name : String}
    (atFirst : tree.HasName first role name) (atSecond : tree.HasName second other name) :
    (∃ cased, (naming.run tree).HasName first role cased ∧ (naming.run tree).HasName second other cased) ↔
      naming.spelling (.ofTree tree) role name = naming.spelling (.ofTree tree) other name := by
  simp only [hasName_run_iff]
  constructor
  · rintro ⟨cased, ⟨original, named, rfl⟩, another, called, same⟩
    rw [named.name_unique atFirst, called.name_unique atSecond] at same
    exact same.symm
  · intro same
    exact ⟨_, ⟨name, atFirst, rfl⟩, name, atSecond, same.symm⟩

/-- A local is spelled like any other name of its convention, unless it is taken for a constant or for a function. -/
theorem spelling_localVar_iff (names : DefinedNames) (name : String) :
    naming.spelling names .caught name = naming.spelling names .localVar name ↔
      (name ∈ names.constants → naming.normal.apply name = name) ∧
        (name ∉ names.constants → name ∈ names.functions →
          naming.normal.apply name = naming.function.apply name) := by
  rw [spelling, spelling, reference]
  by_cases constant : name ∈ names.constants
  · simp [constant]
  · by_cases function : name ∈ names.functions <;> simp [constant, function]

/-- Casing keeps definitions and references together: occurrences of one name in one role, and functions and the
references to them that constants do not take over. A caught instance and a local of its name in the handler stay
together exactly if the name is none of a constant or of a function that the conventions spell otherwise. -/
theorem names_stay_together :
    (∀ role name first second, tree.HasName first role name → tree.HasName second role name →
      ∃ cased, (naming.run tree).HasName first role cased ∧ (naming.run tree).HasName second role cased) ∧
    (∀ name definition reference, tree.HasName definition .function name → tree.HasName reference .localVar name →
      name ∉ (DefinedNames.ofTree tree).constants →
      ∃ cased, (naming.run tree).HasName definition .function cased ∧
        (naming.run tree).HasName reference .localVar cased) ∧
    ∀ name handler inner, tree.HasName handler .caught name → tree.HasName (handler ++ inner) .localVar name →
      ((∃ cased, (naming.run tree).HasName handler .caught cased ∧
          (naming.run tree).HasName (handler ++ inner) .localVar cased) ↔
        (name ∈ (DefinedNames.ofTree tree).constants → naming.normal.apply name = name) ∧
          (name ∉ (DefinedNames.ofTree tree).constants → name ∈ (DefinedNames.ofTree tree).functions →
            naming.normal.apply name = naming.function.apply name)) := by
  refine ⟨fun role name first second atFirst atSecond => ?_, fun name definition reference defined referred free => ?_,
    fun name handler inner caught within => ?_⟩
  · exact (naming.casedAlike_iff tree atFirst atSecond).mpr rfl
  · have known := Node.mem_functions_of_hasName defined
    rw [naming.casedAlike_iff tree defined referred, spelling, spelling, Naming.reference, if_neg free, if_pos known]
  · rw [naming.casedAlike_iff tree caught within, spelling_localVar_iff]

/-- A program that defines and calls a function, and catches an exception. -/
def catching (constant caught : String) : Node :=
  let definition := Node.ofKind (.functionDefinition "fix_value" [] .void [])
  let handler := Node.ofKind (.exceptionHandler none caught true [.localVar caught .void])
  let attempt := Node.ofKind (.tryStatement [.call (.localVar "fix_value" .void) [] .void] [handler])
  (((ModuleDraft.definition {} definition).constant constant (.int 0)).statement attempt).build

theorem caught_error_stays_together :
    let naming : Naming := ⟨.camel, .pascal, .pascal⟩
    let tree := catching "MAX_EGGS" "last_error"
    (tree.HasName [1] .function "fix_value" ∧ tree.HasName [2, 0, 0] .localVar "fix_value" ∧
      "fix_value" ∉ (DefinedNames.ofTree tree).constants ∧
      ∃ cased, (naming.run tree).HasName [1] .function cased ∧ (naming.run tree).HasName [2, 0, 0] .localVar cased) ∧
    tree.HasName [2, 1] .caught "last_error" ∧ tree.HasName [2, 1, 0] .localVar "last_error" ∧
      ∃ cased, (naming.run tree).HasName [2, 1] .caught cased ∧
        (naming.run tree).HasName [2, 1, 0] .localVar cased := by
  intro naming tree
  obtain ⟨_, functions, handlers⟩ := naming.names_stay_together tree
  have defined : tree.HasName [1] .function "fix_value" := ⟨_, rfl, rfl, rfl⟩
  have referred : tree.HasName [2, 0, 0] .localVar "fix_value" := ⟨_, rfl, rfl, rfl⟩
  have free : "fix_value" ∉ (DefinedNames.ofTree tree).constants := by decide
  have caught : tree.HasName [2, 1] .caught "last_error" := ⟨_, rfl, rfl, rfl⟩
  have within : tree.HasName ([2, 1] ++ [0]) .localVar "last_error" := ⟨_, rfl, rfl, rfl⟩
  refine ⟨⟨defined, referred, free, functions _ _ _ defined referred free⟩, caught, within, ?_⟩
  exact (handlers _ _ _ caught within).mpr (by decide)

/-- A caught instance that shares its name with a constant is cased, and the local that refers to it is not. -/
theorem constant_parts_handler_and_local :
    let naming : Naming := ⟨.camel, .pascal, .pascal⟩
    let tree := catching "last_error" "last_error"
    tree.HasName [2, 1] .caught "last_error" ∧ tree.HasName [2, 1, 0] .localVar "last_error" ∧
      (naming.run tree).HasName [2, 1] .caught "lastError" ∧
      (naming.run tree).HasName [2, 1, 0] .localVar "last_error" ∧
      ¬∃ cased, (naming.run tree).HasName [2, 1] .caught cased ∧
        (naming.run tree).HasName [2, 1, 0] .localVar cased := by
  intro naming tree
  have caught : tree.HasName [2, 1] .caught "last_error" := ⟨_, rfl, rfl, rfl⟩
  have within : tree.HasName [2, 1, 0] .localVar "last_error" := ⟨_, rfl, rfl, rfl⟩
  have cased : naming.normal.apply "last_error" = "lastError" := by decide
  have kept : naming.reference (.ofTree tree) "last_error" = "last_error" := by decide
  refine ⟨caught, within, (naming.hasName_run_iff ..).mpr ⟨_, caught, cased⟩,
    (naming.hasName_run_iff ..).mpr ⟨_, within, kept⟩, ?_⟩
  rw [naming.casedAlike_iff tree caught within, spelling, spelling, cased, kept]
  decide

end Naming
end Retarget
