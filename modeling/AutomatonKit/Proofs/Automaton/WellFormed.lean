import Mathlib
import AutomatonKit.Automaton.Violation
import AutomatonKit.Proofs.IdSet

/-!
# Well-formed automata

`Automaton.WellFormed` says without any search order what it means that nothing is wrong with an
automaton, and `violation?_eq_none_iff` says that the check `Automaton.violation?` finds nothing
exactly then.  All other proofs about well-formed automata use the fields of the structure.
-/

namespace AutomatonKit

/-- A row that fits into a table of `width` columns over `count` states. -/
structure RowFits (width count : Nat) (row : Row) : Prop where
  /-- There is a column for each cell. -/
  length_le : row.length ≤ width
  /-- The last cell is not empty. -/
  getLast?_ne : row.getLast? ≠ some none
  /-- Every target is a state. -/
  target_lt : ∀ target, some target ∈ row → target < count

theorem RowFits.nil (width count : Nat) : RowFits width count [] :=
  ⟨Nat.zero_le _, by simp, by simp⟩

/-- A row that fits still fits when there are more columns or more states. -/
theorem RowFits.mono {width width' count count' : Nat} {row : Row} (h : RowFits width count row)
    (hw : width ≤ width') (hc : count ≤ count') : RowFits width' count' row :=
  ⟨h.length_le.trans hw, h.getLast?_ne, fun t ht => lt_of_lt_of_le (h.target_lt t ht) hc⟩

namespace Automaton

theorem contains_iff {d : Automaton} {id : StateId} :
    d.contains id = true ↔ id < d.stateCount := by
  rw [contains, decide_eq_true_eq]

theorem isAccepting_iff {d : Automaton} {id : StateId} :
    d.isAccepting id = true ↔ id ∈ d.accepting.ids :=
  d.accepting.contains_iff id

/-- There is nothing wrong with an automaton. -/
structure WellFormed (d : Automaton) : Prop where
  /-- There is a row for each state. -/
  length_table : d.table.length = d.stateCount
  /-- The start state is registered. -/
  start_lt : ∀ id, d.start = some id → id < d.stateCount
  /-- The accepting states are the registered states that carry the flag. -/
  mem_accepting_iff :
    ∀ id, id ∈ d.accepting.ids ↔ ∃ s, d.states[id]? = some s ∧ s.accepting = true
  /-- Every row fits the alphabet and the states. -/
  rowFits : ∀ row ∈ d.table, RowFits d.alphabet.size d.stateCount row

/-! ### The parts of the check -/

theorem rowCountViolation?_eq_none_iff (d : Automaton) :
    d.rowCountViolation? = none ↔ d.table.length = d.stateCount := by
  unfold rowCountViolation?
  split <;> simp_all

theorem startViolation?_eq_none_iff (d : Automaton) :
    d.startViolation? = none ↔ ∀ id, d.start = some id → id < d.stateCount := by
  unfold startViolation?
  rw [Option.bind_eq_none_iff]
  refine forall₂_congr fun id _ => ?_
  rw [← contains_iff]
  split <;> simp_all

theorem acceptingViolation?_eq_none_iff (d : Automaton) (id : StateId) :
    d.acceptingViolation? id = none ↔ ∃ s, d.states[id]? = some s ∧ s.accepting = true := by
  unfold acceptingViolation? state?
  cases d.states[id]? with
  | none => simp
  | some s => cases h : s.accepting <;> simp [h]

theorem flagViolation?_eq_none_iff (d : Automaton) (s : State) (id : StateId) :
    d.flagViolation? (s, id) = none ↔ (s.accepting = true → id ∈ d.accepting.ids) := by
  unfold flagViolation?
  rw [← isAccepting_iff]
  cases s.accepting <;> cases d.isAccepting id <;> simp

theorem rowViolation?_eq_none_iff (d : Automaton) (row : Row) (i : Nat) :
    d.rowViolation? (row, i) = none ↔ RowFits d.alphabet.size d.stateCount row := by
  unfold rowViolation?
  constructor
  · intro h
    split at h
    · simp at h
    · next hlen =>
      split at h
      · simp at h
      · next hlast =>
        refine ⟨Nat.le_of_not_lt hlen, hlast, fun t ht => contains_iff.mp ?_⟩
        rw [Option.map_eq_none_iff, List.find?_eq_none] at h
        simpa using h t (List.mem_filterMap.mpr ⟨some t, ht, rfl⟩)
  · intro h
    rw [if_neg (Nat.not_lt.mpr h.length_le), if_neg h.getLast?_ne, Option.map_eq_none_iff,
      List.find?_eq_none]
    intro t ht
    obtain ⟨cell, hcell, rfl⟩ := List.mem_filterMap.mp ht
    simpa using contains_iff.mpr (h.target_lt t hcell)

/-! ### The whole check -/

/-- **The check is exact**: it finds nothing if and only if the automaton is well-formed. -/
theorem violation?_eq_none_iff (d : Automaton) : d.violation? = none ↔ d.WellFormed := by
  -- none of the parts finds anything, in whatever order they are tried
  have hall : d.violation? = none ↔ d.rowCountViolation? = none ∧ d.startViolation? = none ∧
      (∀ id ∈ d.accepting.ids, d.acceptingViolation? id = none) ∧
      (∀ entry ∈ d.numberedStates, d.flagViolation? entry = none) ∧
      (∀ entry ∈ d.table.zipIdx, d.rowViolation? entry = none) := by
    unfold violation?
    simp only [Option.orElse_eq_orElse, Option.orElse_eq_or, Option.or_eq_none_iff,
      List.findSome?_eq_none_iff]
  rw [hall, rowCountViolation?_eq_none_iff, startViolation?_eq_none_iff]
  constructor
  · rintro ⟨hrows, hstart, hacc, hflag, hrow⟩
    refine ⟨hrows, hstart, fun id => ⟨fun hid => ?_, ?_⟩, fun row hmem => ?_⟩
    · exact (acceptingViolation?_eq_none_iff d id).mp (hacc id hid)
    · rintro ⟨s, hs, hsa⟩
      have hentry : (s, id) ∈ d.numberedStates := List.mk_mem_zipIdx_iff_getElem?.mpr hs
      exact (flagViolation?_eq_none_iff d s id).mp (hflag _ hentry) hsa
    · obtain ⟨i, hi⟩ := List.getElem?_of_mem hmem
      exact (rowViolation?_eq_none_iff d row i).mp (hrow _ (List.mk_mem_zipIdx_iff_getElem?.mpr hi))
  · intro h
    refine ⟨h.length_table, h.start_lt, fun id hid => ?_, ?_, ?_⟩
    · exact (acceptingViolation?_eq_none_iff d id).mpr ((h.mem_accepting_iff id).mp hid)
    · rintro ⟨s, id⟩ hentry
      refine (flagViolation?_eq_none_iff d s id).mpr fun hsa => ?_
      exact (h.mem_accepting_iff id).mpr ⟨s, List.mk_mem_zipIdx_iff_getElem?.mp hentry, hsa⟩
    · rintro ⟨row, i⟩ hentry
      have hrow := List.mk_mem_zipIdx_iff_getElem?.mp hentry
      exact (rowViolation?_eq_none_iff d row i).mpr (h.rowFits row (List.mem_of_getElem? hrow))

end Automaton

end AutomatonKit
