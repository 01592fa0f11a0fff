/-! Tables: finite maps in which the last entry for a key counts. -/
namespace Retarget

/-- A finite map with one entry a key. -/
structure Table (κ β : Type) where
  entries : List (κ × β)
  nodup : (entries.map Prod.fst).Nodup

namespace Table

variable {κ β : Type} [DecidableEq κ]

def empty : Table κ β := ⟨[], List.nodup_nil⟩

instance : Inhabited (Table κ β) := ⟨empty⟩

/-- Adds an entry; an earlier one for the key gives way. -/
def insert (table : Table κ β) (key : κ) (value : β) : Table κ β where
  entries := (key, value) :: table.entries.filter fun entry => entry.1 ≠ key
  nodup := by
    refine List.nodup_cons.2 ⟨?_, ?_⟩
    · simp
    · exact table.nodup.sublist (List.filter_sublist.map _)

def get? (table : Table κ β) (key : κ) : Option β := table.entries.lookup key

def size (table : Table κ β) : Nat := table.entries.length

def ofList (entries : List (κ × β)) : Table κ β :=
  entries.foldl (fun table (key, value) => table.insert key value) empty

@[simp] theorem get?_empty (key : κ) : (empty : Table κ β).get? key = none := rfl

theorem lookup_filter_ne (entries : List (κ × β)) (key other : κ) (h : other ≠ key) :
    (entries.filter fun entry => entry.1 ≠ key).lookup other = entries.lookup other := by
  induction entries with
  | nil => rfl
  | cons entry rest ih =>
    obtain ⟨k, v⟩ := entry
    by_cases hk : k = key
    · subst hk
      have : (other == k) = false := by simp [h]
      simp [List.lookup_cons, this, ← ih]
    · simp only [List.filter_cons, ne_eq, hk, not_false_eq_true, decide_true, if_true, List.lookup_cons]
      split <;> simp_all

theorem get?_insert (table : Table κ β) (key other : κ) (value : β) :
    (table.insert key value).get? other = if other = key then some value else table.get? other := by
  by_cases h : other = key
  · simp [get?, insert, h]
  · have : (other == key) = false := by simp [h]
    simp only [get?, insert, List.lookup_cons, this, if_neg h]
    exact lookup_filter_ne table.entries key other h

end Table
end Retarget
