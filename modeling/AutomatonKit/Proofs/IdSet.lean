import Mathlib
import AutomatonKit.IdSet

/-!
# Members of a set of state numbers

A set is determined by its members (`ext_mem`), because its list is ascending.  Membership after
`insert`, after a run of `insert`s and in `ofList` is read off here, so that nothing else has to
look at the order of the list.
-/

namespace AutomatonKit.IdSet

theorem contains_iff (s : IdSet) (id : StateId) : s.contains id = true ↔ id ∈ s.ids :=
  List.contains_iff_mem

/-- Sets with the same members are equal. -/
theorem ext_mem {s t : IdSet} (h : ∀ id, id ∈ s.ids ↔ id ∈ t.ids) : s = t := by
  have hids : s.ids = t.ids := s.sorted.eq_of_mem_iff t.sorted fun {id} => h id
  cases s
  cases t
  simpa using hids

theorem mem_insert {s : IdSet} {id x : StateId} : x ∈ (s.insert id).ids ↔ x = id ∨ x ∈ s.ids :=
  mem_insertSorted

theorem mem_foldl_insert (s : IdSet) (ids : List StateId) (x : StateId) :
    x ∈ (ids.foldl insert s).ids ↔ x ∈ s.ids ∨ x ∈ ids := by
  induction ids generalizing s with
  | nil => simp
  | cons id ids ih =>
    rw [List.foldl_cons, ih, mem_insert, List.mem_cons, or_assoc, or_left_comm]

theorem mem_ofList {ids : List StateId} {x : StateId} : x ∈ (ofList ids).ids ↔ x ∈ ids := by
  have h := mem_foldl_insert empty ids x
  rwa [show empty.ids = [] from rfl, List.mem_nil_iff, false_or] at h

/-- A set is the set of its own members. -/
theorem ofList_ids (s : IdSet) : ofList s.ids = s :=
  ext_mem fun _ => mem_ofList

end AutomatonKit.IdSet
