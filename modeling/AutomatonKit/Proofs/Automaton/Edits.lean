import Mathlib
import AutomatonKit.Automaton.Edit
import AutomatonKit.Proofs.Alphabet
import AutomatonKit.Proofs.Automaton.WellFormed
import AutomatonKit.Proofs.IdSet

/-!
# Edits keep automata well-formed

What each building operation does is stated once, by an equation for the case in which it takes
effect and one for the case in which it does not.  From these follows that one edit keeps an
automaton well-formed (`WellFormed.edit`), and from that, by induction, that a run of edits does
(`WellFormed.editAll`).

The only operation that works inside the table is `writeCell`; `join_getElem?_writeCell` says which
targets a row has after it, and `RowFits.writeCell` that a row which fits still fits.
-/

namespace AutomatonKit

namespace Automaton

/-! ### Writing a cell -/

theorem length_writeCell (column target : Nat) (row : Row) :
    (writeCell column target row).length = max row.length (column + 1) := by
  rw [writeCell, List.length_set, List.length_append, List.length_replicate]
  omega

theorem getElem?_writeCell_self (column target : Nat) (row : Row) :
    (writeCell column target row)[column]? = some (some target) := by
  have hlen : column < (row ++ List.replicate (column + 1 - row.length) none).length := by
    rw [List.length_append, List.length_replicate]
    omega
  rw [writeCell, List.getElem?_set_self hlen]

theorem getElem?_writeCell_ne {column target i : Nat} (row : Row) (h : i ≠ column) :
    (writeCell column target row)[i]? =
      (row ++ List.replicate (column + 1 - row.length) none)[i]? := by
  rw [writeCell, List.getElem?_set_ne (Ne.symm h)]

/-- **The cells after a write**, where a missing cell and an empty one are the same. -/
theorem join_getElem?_writeCell (column target i : Nat) (row : Row) :
    ((writeCell column target row)[i]?).join =
      if i = column then some target else (row[i]?).join := by
  split
  · next h => rw [h, getElem?_writeCell_self, Option.join_some]
  · next h =>
    rw [getElem?_writeCell_ne row h, List.getElem?_append]
    split
    · rfl
    · next hi =>
      rw [List.getElem?_eq_none (Nat.le_of_not_lt hi), List.getElem?_replicate]
      split <;> rfl

theorem RowFits.writeCell {width count column target : Nat} {row : Row}
    (h : RowFits width count row) (hcol : column < width) (htarget : target < count) :
    RowFits width count (writeCell column target row) := by
  refine ⟨?_, ?_, fun t ht => ?_⟩
  · rw [length_writeCell]
    exact max_le h.length_le hcol
  · rw [List.getLast?_eq_getElem?, length_writeCell]
    by_cases hlen : row.length ≤ column + 1
    · -- the written cell is the last one
      rw [show max row.length (column + 1) - 1 = column by omega, getElem?_writeCell_self]
      simp
    · -- the last cell is one that the row had before
      rw [show max row.length (column + 1) - 1 = row.length - 1 by omega,
        getElem?_writeCell_ne row (by omega), List.getElem?_append_left (by omega),
        ← List.getLast?_eq_getElem?]
      exact h.getLast?_ne
  · rcases List.mem_or_eq_of_mem_set ht with ht | ht
    · rcases List.mem_append.mp ht with ht | ht
      · exact h.target_lt t ht
      · exact absurd (List.eq_of_mem_replicate ht) (by simp)
    · rw [Option.some.inj ht]
      exact htarget

/-! ### What the operations do -/

theorem setStart_of_lt {d : Automaton} {id : StateId} (h : id < d.stateCount) :
    d.setStart id = ({ d with start := some id }, true) := by
  rw [setStart, if_pos (contains_iff.mpr h)]

theorem setStart_of_not_lt {d : Automaton} {id : StateId} (h : ¬ id < d.stateCount) :
    d.setStart id = (d, false) := by
  rw [setStart, if_neg (mt contains_iff.mp h)]

theorem addAccepting_of_lt {d : Automaton} {id : StateId} (h : id < d.stateCount) :
    d.addAccepting id =
      ({ d with
          states := d.states.modify id fun state => { state with accepting := true }
          accepting := d.accepting.insert id },
        true) := by
  rw [addAccepting, if_pos (contains_iff.mpr h)]

theorem addAccepting_of_not_lt {d : Automaton} {id : StateId} (h : ¬ id < d.stateCount) :
    d.addAccepting id = (d, false) := by
  rw [addAccepting, if_neg (mt contains_iff.mp h)]

theorem addTransition_of_lt {d : Automaton} {p q : StateId} (c : Char) (hp : p < d.stateCount)
    (hq : q < d.stateCount) :
    d.addTransition p c q =
      ({ d with
          alphabet := d.alphabet.insert c
          table := d.table.modify p (writeCell (d.alphabet.column c) q) },
        true) := by
  rw [addTransition, if_pos (by rw [contains_iff.mpr hp, contains_iff.mpr hq]; rfl)]

theorem addTransition_of_not_lt {d : Automaton} {p q : StateId} (c : Char)
    (h : ¬ (p < d.stateCount ∧ q < d.stateCount)) : d.addTransition p c q = (d, false) := by
  rw [addTransition, if_neg]
  rwa [Bool.and_eq_true, contains_iff, contains_iff]

/-! ### One operation -/

theorem wellFormed_empty : WellFormed empty where
  length_table := rfl
  start_lt := by simp [empty]
  mem_accepting_iff := by simp [empty, IdSet.empty]
  rowFits := by simp [empty]

variable {d : Automaton}

theorem WellFormed.lt_of_mem_accepting (h : d.WellFormed) {id : StateId}
    (hid : id ∈ d.accepting.ids) : id < d.stateCount := by
  obtain ⟨s, hs, -⟩ := (h.mem_accepting_iff id).mp hid
  exact (List.getElem?_eq_some_iff.mp hs).1

theorem stateCount_addState (s : State) : (d.addState s).1.stateCount = d.stateCount + 1 := by
  simp [addState, stateCount]

theorem mem_accepting_addState (s : State) {id : StateId} :
    id ∈ (d.addState s).1.accepting.ids ↔
      (id = d.stateCount ∧ s.accepting = true) ∨ id ∈ d.accepting.ids := by
  unfold addState
  dsimp only
  split
  · next hs => rw [IdSet.mem_insert]; simp [hs]
  · next hs => simp [hs]

theorem WellFormed.addState (h : d.WellFormed) (s : State) : (d.addState s).1.WellFormed where
  length_table := by
    have hlen := h.length_table
    rw [stateCount_addState, ← hlen]
    simp [Automaton.addState]
  start_lt id hid := by
    rw [stateCount_addState]
    exact Nat.lt_succ_of_lt (h.start_lt id hid)
  mem_accepting_iff id := by
    rw [mem_accepting_addState, h.mem_accepting_iff]
    show _ ↔ ∃ s', (d.states ++ [s])[id]? = some s' ∧ _
    -- an old state, the new state, or no state at all
    rcases Nat.lt_trichotomy id d.states.length with hid | hid | hid
    · rw [List.getElem?_append_left hid]
      simp [stateCount, Nat.ne_of_lt hid]
    · rw [hid, List.getElem?_concat_length, List.getElem?_eq_none le_rfl]
      simp [stateCount]
    · have hlen : (d.states ++ [s]).length ≤ id := by
        rw [List.length_append]
        exact hid
      rw [List.getElem?_eq_none hlen, List.getElem?_eq_none (Nat.le_of_lt hid)]
      simp [stateCount, Nat.ne_of_gt hid]
  rowFits row hrow := by
    rw [stateCount_addState]
    rcases List.mem_append.mp hrow with hrow | hrow
    · exact (h.rowFits row hrow).mono le_rfl (Nat.le_succ _)
    · rw [List.mem_singleton.mp hrow]
      exact RowFits.nil _ _

theorem WellFormed.setStart (h : d.WellFormed) (id : StateId) : (d.setStart id).1.WellFormed := by
  by_cases hid : id < d.stateCount
  · rw [setStart_of_lt hid]
    refine ⟨h.length_table, fun id' hid' => ?_, h.mem_accepting_iff, h.rowFits⟩
    rw [← Option.some.inj hid']
    exact hid
  · rw [setStart_of_not_lt hid]
    exact h

theorem WellFormed.addAccepting (h : d.WellFormed) (id : StateId) :
    (d.addAccepting id).1.WellFormed := by
  by_cases hid : id < d.stateCount
  · have hcount : (d.addAccepting id).1.stateCount = d.stateCount := by
      rw [addAccepting_of_lt hid]
      exact List.length_modify ..
    refine ⟨?_, ?_, fun x => ?_, ?_⟩
    · rw [hcount, addAccepting_of_lt hid]
      exact h.length_table
    · rw [hcount, addAccepting_of_lt hid]
      exact h.start_lt
    · rw [addAccepting_of_lt hid, IdSet.mem_insert, h.mem_accepting_iff, List.getElem?_modify]
      by_cases hx : x = id
      · rw [hx, List.getElem?_eq_getElem hid]
        simp
      · have hx' : ¬ id = x := fun hxi => hx hxi.symm
        cases d.states[x]? <;> simp [hx, hx']
    · rw [hcount, addAccepting_of_lt hid]
      exact h.rowFits
  · rw [addAccepting_of_not_lt hid]
    exact h

theorem WellFormed.addSymbol (h : d.WellFormed) (c : Char) : (d.addSymbol c).WellFormed where
  length_table := h.length_table
  start_lt := h.start_lt
  mem_accepting_iff := h.mem_accepting_iff
  rowFits row hrow :=
    (h.rowFits row hrow).mono (Alphabet.size_le_size_insert d.alphabet c) le_rfl

theorem WellFormed.addTransition (h : d.WellFormed) (p : StateId) (c : Char) (q : StateId) :
    (d.addTransition p c q).1.WellFormed := by
  by_cases hpq : p < d.stateCount ∧ q < d.stateCount
  · rw [addTransition_of_lt c hpq.1 hpq.2]
    refine ⟨(List.length_modify ..).trans h.length_table, h.start_lt, h.mem_accepting_iff,
      fun row hrow => ?_⟩
    -- every row comes from one that fits the alphabet before the insertion, and columns only grow
    obtain ⟨i, hi⟩ := List.getElem?_of_mem hrow
    rw [List.getElem?_modify, Option.map_eq_map, Option.map_eq_some_iff] at hi
    obtain ⟨old, hold, rfl⟩ := hi
    have hfits : RowFits (d.alphabet.insert c).size d.stateCount old :=
      (h.rowFits old (List.mem_of_getElem? hold)).mono (Alphabet.size_le_size_insert _ c) le_rfl
    split
    · exact RowFits.writeCell hfits (Alphabet.column_lt_size_insert d.alphabet c) hpq.2
    · exact hfits
  · rw [addTransition_of_not_lt c hpq]
    exact h

/-! ### A run of edits -/

theorem WellFormed.edit (h : d.WellFormed) (e : Edit) : (d.edit e).1.WellFormed := by
  cases e with
  | addState s => exact h.addState s
  | setStart id => exact h.setStart id
  | addAccepting id => exact h.addAccepting id
  | addSymbol c => exact h.addSymbol c
  | addTransition p c q => exact h.addTransition p c q

theorem WellFormed.editAll (h : d.WellFormed) (edits : List Edit) :
    (d.editAll edits).WellFormed := by
  induction edits generalizing d with
  | nil => exact h
  | cons e edits ih => exact ih (h.edit e)

/-- In a well-formed automaton there is a row for every transition that can be written. -/
theorem WellFormed.edit?_eq (h : d.WellFormed) (e : Edit) : d.edit? e = some (d.edit e) := by
  have hrow : d.lacksRowFor e = false := by
    cases e with
    | addTransition p c q =>
      rw [lacksRowFor, h.length_table, Bool.eq_false_iff]
      intro hlacks
      rw [Bool.and_eq_true, Bool.and_eq_true, contains_iff, decide_eq_true_eq] at hlacks
      exact absurd hlacks.1.1 (Nat.not_lt.mpr hlacks.2)
    | _ => rfl
  rw [edit?, hrow]
  rfl

/-- **A refused edit changes nothing.** -/
theorem edit_fst_of_refused {e : Edit} (h : (d.edit e).2 = .applied false) : (d.edit e).1 = d := by
  cases e with
  | addState s => exact nomatch h
  | setStart id =>
    by_cases hid : id < d.stateCount
    · simp [edit, setStart_of_lt hid] at h
    · show (d.setStart id).1 = d
      rw [setStart_of_not_lt hid]
  | addAccepting id =>
    by_cases hid : id < d.stateCount
    · simp [edit, addAccepting_of_lt hid] at h
    · show (d.addAccepting id).1 = d
      rw [addAccepting_of_not_lt hid]
  | addSymbol c => exact nomatch h
  | addTransition p c q =>
    by_cases hpq : p < d.stateCount ∧ q < d.stateCount
    · simp [edit, addTransition_of_lt c hpq.1 hpq.2] at h
    · show (d.addTransition p c q).1 = d
      rw [addTransition_of_not_lt c hpq]

theorem editAll_append (d : Automaton) (xs ys : List Edit) :
    d.editAll (xs ++ ys) = (d.editAll xs).editAll ys :=
  List.foldl_append ..

/-! ### The names of the states -/

/-- Only the registration of a state changes the names of the states. -/
theorem map_name_edit {d : Automaton} {e : Edit} (h : ∀ s, e ≠ .addState s) :
    (d.edit e).1.states.map State.name = d.states.map State.name := by
  cases e with
  | addState s => exact absurd rfl (h s)
  | setStart id =>
    show (d.setStart id).1.states.map _ = _
    unfold setStart
    split <;> rfl
  | addAccepting id =>
    show (d.addAccepting id).1.states.map _ = _
    unfold addAccepting
    split
    · refine List.ext_getElem? fun i => ?_
      rw [List.getElem?_map, List.getElem?_modify, List.getElem?_map]
      cases d.states[i]? with
      | none => rfl
      | some s =>
        by_cases hi : id = i <;> simp [hi]
    · rfl
  | addSymbol c => rfl
  | addTransition p c q =>
    show (d.addTransition p c q).1.states.map _ = _
    unfold addTransition
    split <;> rfl

theorem map_name_editAll {d : Automaton} {edits : List Edit} (h : ∀ s, Edit.addState s ∉ edits) :
    (d.editAll edits).states.map State.name = d.states.map State.name := by
  induction edits generalizing d with
  | nil => rfl
  | cons e edits ih =>
    have hrest : ∀ s, Edit.addState s ∉ edits := fun s hs => h s (List.mem_cons_of_mem _ hs)
    refine (ih (d := (d.edit e).1) hrest).trans (map_name_edit fun s hs => ?_)
    exact h s (hs ▸ List.mem_cons_self)

end Automaton

end AutomatonKit
