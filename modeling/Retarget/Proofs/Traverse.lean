import Retarget.Tree.Node

/-! Traversals with a state. Running an action through the children of a kind is running it through
the list of its children, and a traversal that gives back known children gives back the kind that
has them in place. So a kind is given by its children and by what it is around them. -/
namespace Retarget

variable {α β γ σ : Type}

theorem run_bind_eq (first : StateM σ α) (next : α → StateM σ β) (s : σ) :
    (first >>= next).run s = (next (first.run s).1).run (first.run s).2 := rfl

theorem run_pure_eq (value : α) (s : σ) : (pure value : StateM σ α).run s = (value, s) := rfl

theorem run_mapM_cons (f : α → StateM σ β) (x : α) (xs : List α) (s : σ) :
    ((x :: xs).mapM f).run s =
      (((f x).run s).1 :: ((xs.mapM f).run ((f x).run s).2).1,
        ((xs.mapM f).run ((f x).run s).2).2) := by
  simp only [List.mapM_cons, run_bind_eq, run_pure_eq]

theorem run_mapM_append (f : α → StateM σ β) (xs ys : List α) (s : σ) :
    ((xs ++ ys).mapM f).run s =
      (((xs.mapM f).run s).1 ++ ((ys.mapM f).run ((xs.mapM f).run s).2).1,
        ((ys.mapM f).run ((xs.mapM f).run s).2).2) := by
  simp only [List.mapM_append, run_bind_eq, run_pure_eq]

theorem run_mapM_toList (f : α → StateM σ β) (x : Option α) (s : σ) :
    (x.toList.mapM f).run s = (((x.mapM f).run s).1.toList, ((x.mapM f).run s).2) := by
  cases x with
  | none => rfl
  | some x => exact run_mapM_cons f x [] s

theorem length_run_mapM (f : α → StateM σ β) (xs : List α) (s : σ) :
    ((xs.mapM f).run s).1.length = xs.length := by
  induction xs generalizing s with
  | nil => rfl
  | cons x xs ih => rw [run_mapM_cons, List.length_cons, List.length_cons, ih]

theorem map_run_mapM_append_eq (h : β → γ) (f : α → StateM σ β) (xs : List α) (s : σ) (ys us zs : List γ)
    (length : us.length = xs.length) :
    ((xs.mapM f).run s).1.map h ++ ys = us ++ zs ↔ ((xs.mapM f).run s).1.map h = us ∧ ys = zs := by
  constructor
  · exact fun same => List.append_inj same (by rw [List.length_map, length_run_mapM, length])
  · rintro ⟨rfl, rfl⟩; rfl

theorem map_run_option_append_eq (h : β → γ) (f : α → StateM σ β) (x : Option α) (s : σ) (ys us zs : List γ)
    (length : us.length = x.toList.length) :
    ((x.mapM f).run s).1.toList.map h ++ ys = us ++ zs ↔ ((x.mapM f).run s).1.toList.map h = us ∧ ys = zs := by
  have lists := map_run_mapM_append_eq h f x.toList s ys us zs length
  rwa [run_mapM_toList] at lists

theorem map_toList_eq_iff (h : β → γ) (p : α → γ) (x : Option α) (y : Option β) :
    y.toList.map h = x.toList.map p ↔ y.map h = x.map p := by
  cases x <;> cases y <;> simp

namespace Kind

theorem run_mapM_children (f : α → StateM σ β) (kind : Kind α) (s : σ) :
    (kind.children.mapM f).run s =
      (((kind.traverse f).run s).1.children, ((kind.traverse f).run s).2) := by
  cases kind <;> first
    | rfl
    | simp only [children, run_mapM_append, run_mapM_cons, run_mapM_toList]; rfl

theorem tag_run_traverse (f : α → StateM σ β) (kind : Kind α) (s : σ) :
    ((kind.traverse f).run s).1.tag = kind.tag := by
  cases kind <;> rfl

/-- What the traversal makes of the children decides what it makes of the kind. -/
theorem map_run_traverse (h : β → γ) (f : α → StateM σ β) (p : α → γ) (kind : Kind α) (s : σ)
    (same : ((kind.children.mapM f).run s).1.map h = kind.children.map p) :
    ((kind.traverse f).run s).1.map h = kind.map p := by
  rw [run_mapM_children] at same
  cases kind <;> simp only [traverse, run_bind_eq, run_pure_eq, children, map, List.map_append,
    List.map_cons, List.map_nil, List.cons_append, List.append_assoc, List.cons.injEq,
    map_run_mapM_append_eq, map_run_option_append_eq, List.length_map, map_toList_eq_iff, and_true] at same ⊢
  all_goals simp_all only

theorem traverse_map (g : α → β) (f : β → StateM σ γ) (kind : Kind α) :
    (kind.map g).traverse f = kind.traverse fun child => f (g child) := by
  have inOption (child : Option α) : (child.map g).mapM f = child.mapM fun child => f (g child) := by
    cases child <;> rfl
  cases kind <;> simp only [map, traverse, List.mapM_map, Function.comp_def, inOption]

/-- Takes the first of the children that are left, if there is one. -/
def next (fallback : α) : StateM (List α) α := fun rest => (rest.headD fallback, rest.tail)

theorem run_mapM_next (fallback : α) (children : List α) :
    (children.mapM fun _ => next fallback).run children = (children, []) := by
  induction children with
  | nil => rfl
  | cons child rest ih =>
    rw [run_mapM_cons]
    exact congrArg (fun later => (child :: later.1, later.2)) ih

/-- A kind that has its own children put in place again is the same. -/
theorem run_traverse_next (fallback : α) (kind : Kind α) :
    ((kind.traverse fun _ => next fallback).run kind.children).1 = kind := by
  have refilled := map_run_traverse (fun child => child) (fun _ => next fallback) (fun child => child) kind
    kind.children (by rw [run_mapM_next])
  rwa [map_id, map_id] at refilled

theorem eq_of_map_eq (fallback : α) (f : α → β) (first second : Kind α) (around : first.map f = second.map f)
    (children : first.children = second.children) : first = second := by
  have shape (kind : Kind α) : (kind.map f).traverse (fun _ => next fallback) = kind.traverse fun _ => next fallback :=
    traverse_map ..
  rw [← run_traverse_next fallback first, ← shape, around, children, shape, run_traverse_next]

end Kind
end Retarget
