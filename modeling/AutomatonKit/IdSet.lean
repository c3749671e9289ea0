import AutomatonKit.State

/-!
# Sets of state numbers

A finite set of state numbers, kept as its ascending list.  Two sets with the same members are
therefore equal, and the members are always met in ascending order.
-/

namespace AutomatonKit

/-- A finite set of state numbers. -/
structure IdSet where
  /-- The members, ascending. -/
  ids : List StateId
  /-- Each member is smaller than those after it. -/
  sorted : ids.Pairwise (· < ·)
deriving DecidableEq

namespace IdSet

def empty : IdSet :=
  ⟨[], .nil⟩

instance : Inhabited IdSet := ⟨empty⟩

def contains (s : IdSet) (id : StateId) : Bool :=
  s.ids.contains id

/-- Puts a number at its place in an ascending list that may hold it already. -/
def insertSorted (id : StateId) : List StateId → List StateId
  | [] => [id]
  | x :: xs =>
    if id < x then id :: x :: xs
    else if id = x then x :: xs
    else x :: insertSorted id xs

theorem mem_insertSorted {id y : StateId} {xs : List StateId} :
    y ∈ insertSorted id xs ↔ y = id ∨ y ∈ xs := by
  induction xs with
  | nil => simp [insertSorted]
  | cons x xs ih =>
    unfold insertSorted
    split
    · simp
    · split
      · next h => subst h; simp
      · simp only [List.mem_cons, ih]
        constructor <;> rintro (h | h | h) <;> simp [h]

theorem pairwise_insertSorted {id : StateId} {xs : List StateId} (h : xs.Pairwise (· < ·)) :
    (insertSorted id xs).Pairwise (· < ·) := by
  induction xs with
  | nil => simp [insertSorted]
  | cons x xs ih =>
    obtain ⟨hx, hxs⟩ := List.pairwise_cons.1 h
    unfold insertSorted
    split
    · next hlt =>
      refine List.pairwise_cons.2 ⟨?_, h⟩
      intro y hy
      rcases List.mem_cons.1 hy with rfl | hy
      · exact hlt
      · exact Nat.lt_trans hlt (hx y hy)
    · split
      · exact h
      · refine List.pairwise_cons.2 ⟨?_, ih hxs⟩
        intro y hy
        rcases mem_insertSorted.1 hy with rfl | hy
        · lia
        · exact hx y hy

def insert (s : IdSet) (id : StateId) : IdSet :=
  ⟨insertSorted id s.ids, pairwise_insertSorted s.sorted⟩

/-- The set of the numbers of a list. -/
def ofList (ids : List StateId) : IdSet :=
  ids.foldl insert empty

end IdSet

end AutomatonKit
