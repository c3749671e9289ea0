import Mathlib
import AutomatonKit.Proofs.Automaton.Edits

/-!
# The transition function

`Automaton.successor` is what the table of an automaton means.  The edges that are listed are those
of this function (`mem_outgoing_iff`, `WellFormed.mem_transitions_iff`), a write changes it at the
source and symbol of the write and nowhere else (`WellFormed.successor_addTransition`), and no other
operation changes it.

A row of a well-formed automaton does not end in an empty cell, so its targets determine it
(`row_ext`).  Therefore a well-formed automaton is determined by its states, symbols, start state,
accepting states and its transition function (`WellFormed.ext_successor`).
-/

namespace AutomatonKit.Automaton

theorem successor_eq_some_iff (d : Automaton) {p q : StateId} {c : Char} :
    d.successor p c = some q ↔
      ∃ i : Nat, d.alphabet.symbols[i]? = some c ∧ (d.row p)[i]? = some (some q) := by
  unfold successor
  rw [Option.bind_eq_some_iff]
  refine exists_congr fun i => ?_
  rw [Alphabet.indexOf?_eq_some_iff, Option.join_eq_some_iff]

theorem successor_of_getElem? {d : Automaton} {c : Char} {i : Nat}
    (h : d.alphabet.symbols[i]? = some c) (p : StateId) :
    d.successor p c = ((d.row p)[i]?).join := by
  rw [successor, (Alphabet.indexOf?_eq_some_iff d.alphabet).mpr h, Option.bind_some]

theorem successor_of_not_mem {d : Automaton} {c : Char} (h : c ∉ d.alphabet.symbols) (p : StateId) :
    d.successor p c = none := by
  refine Option.eq_none_iff_forall_ne_some.mpr fun q hq => ?_
  obtain ⟨i, hi, -⟩ := (successor_eq_some_iff d).mp hq
  exact h (List.mem_of_getElem? hi)

/-! ### The listed edges -/

/-- The edges that leave a state are those of the transition function. -/
theorem mem_outgoing_iff (d : Automaton) {p q : StateId} {c : Char} :
    (c, q) ∈ d.outgoing p ↔ d.successor p c = some q := by
  rw [successor_eq_some_iff, outgoing, List.mem_filterMap]
  constructor
  · rintro ⟨⟨cell, i⟩, hcell, hedge⟩
    have hrow := List.mk_mem_zipIdx_iff_getElem?.mp hcell
    cases hc : d.alphabet.symbolAt? i with
    | none => simp [hc] at hedge
    | some c' =>
      cases cell with
      | none => simp at hedge
      | some q' =>
        obtain ⟨rfl, rfl⟩ : c' = c ∧ q' = q := by simpa [hc] using hedge
        exact ⟨i, hc, hrow⟩
  · rintro ⟨i, hc, hrow⟩
    refine ⟨(some q, i), List.mk_mem_zipIdx_iff_getElem?.mpr hrow, ?_⟩
    have hc' : d.alphabet.symbolAt? i = some c := hc
    simp [hc']

/-- No edge is listed twice among those that leave a state: each has a column of its own. -/
theorem nodup_outgoing (d : Automaton) (p : StateId) : (d.outgoing p).Nodup := by
  have hcolumns : (d.row p).zipIdx.Nodup := by
    refine List.Nodup.of_map Prod.snd ?_
    rw [List.zipIdx_map_snd]
    exact List.nodup_range'
  refine hcolumns.filterMap fun x y edge hx hy => ?_
  obtain ⟨cell, i⟩ := x
  obtain ⟨cell', j⟩ := y
  -- the symbol of the edge determines the column, and its target is the cell
  simp only [Option.mem_def, Option.bind_eq_bind, Option.bind_eq_some_iff] at hx hy
  obtain ⟨c, hc, q, rfl, hedge⟩ := hx
  obtain ⟨c', hc', q', rfl, hedge'⟩ := hy
  obtain ⟨rfl, rfl⟩ : c = c' ∧ q = q' := Prod.mk.inj (Option.some.inj (hedge.trans hedge'.symm))
  have hij : some i = some j :=
    ((Alphabet.indexOf?_eq_some_iff d.alphabet).mpr hc).symm.trans
      ((Alphabet.indexOf?_eq_some_iff d.alphabet).mpr hc')
  rw [Option.some.inj hij]

/-- **No edge is listed twice.** -/
theorem nodup_transitions (d : Automaton) : d.transitions.Nodup := by
  unfold transitions
  rw [List.nodup_flatMap]
  constructor
  · intro p _
    refine (d.nodup_outgoing p).map fun x y hxy => ?_
    exact Prod.ext (congrArg Transition.symbol hxy) (congrArg Transition.target hxy)
  · -- edges that leave different states differ
    refine List.nodup_range.imp fun {p q} hpq t hp hq => hpq ?_
    obtain ⟨_, -, rfl⟩ := List.mem_map.mp hp
    obtain ⟨_, -, heq⟩ := List.mem_map.mp hq
    exact (congrArg Transition.source heq).symm

variable {d : Automaton}

theorem row_eq_nil_of_le (h : d.WellFormed) {p : StateId} (hp : d.stateCount ≤ p) :
    d.row p = [] := by
  rw [row, List.getElem?_eq_none (by rw [h.length_table]; exact hp), Option.getD_none]

theorem rowFits_row (h : d.WellFormed) (p : StateId) :
    RowFits d.alphabet.size d.stateCount (d.row p) := by
  unfold row
  cases hp : d.table[p]? with
  | none => exact RowFits.nil _ _
  | some r => exact h.rowFits r (List.mem_of_getElem? hp)

/-- An edge joins registered states. -/
theorem WellFormed.lt_of_successor (h : d.WellFormed) {p q : StateId} {c : Char}
    (hs : d.successor p c = some q) : p < d.stateCount ∧ q < d.stateCount := by
  obtain ⟨i, -, hrow⟩ := (successor_eq_some_iff d).mp hs
  constructor
  · by_contra hp
    rw [row_eq_nil_of_le h (Nat.le_of_not_lt hp)] at hrow
    simp at hrow
  · exact (rowFits_row h p).target_lt q (List.mem_of_getElem? hrow)

theorem mem_symbols_of_successor {p q : StateId} {c : Char} (hs : d.successor p c = some q) :
    c ∈ d.alphabet.symbols := by
  by_contra hc
  rw [successor_of_not_mem hc] at hs
  exact absurd hs (by simp)

theorem WellFormed.mem_transitions_iff (h : d.WellFormed) {t : Transition} :
    t ∈ d.transitions ↔ d.successor t.source t.symbol = some t.target := by
  unfold transitions
  rw [← mem_outgoing_iff, List.mem_flatMap]
  constructor
  · rintro ⟨p, -, hp⟩
    obtain ⟨⟨c, q⟩, hcq, rfl⟩ := List.mem_map.mp hp
    exact hcq
  · intro ht
    have hlt := (h.lt_of_successor ((mem_outgoing_iff d).mp ht)).1
    exact ⟨t.source, List.mem_range.mpr hlt, List.mem_map.mpr ⟨_, ht, rfl⟩⟩

/-- A state from which an edge leaves has cells in its row. -/
theorem hasOutgoing_of_successor {p q : StateId} {c : Char} (hs : d.successor p c = some q) :
    d.hasOutgoing p = true := by
  obtain ⟨i, -, hrow⟩ := (successor_eq_some_iff d).mp hs
  cases h : d.row p with
  | nil => simp [h] at hrow
  | cons cell cells => simp [hasOutgoing, h]

/-- **A row has cells exactly if an edge leaves the state**: its last cell is not empty, and there is
a symbol for the column of this cell. -/
theorem WellFormed.hasOutgoing_iff (h : d.WellFormed) {p : StateId} :
    d.hasOutgoing p = true ↔ ∃ c q, d.successor p c = some q := by
  constructor
  · intro hout
    have hfits := rowFits_row h p
    have hne : d.row p ≠ [] := by simpa [hasOutgoing] using hout
    have hlen := List.length_pos_iff.mpr hne
    cases hcell : (d.row p).getLast? with
    | none => exact absurd (List.getLast?_eq_none_iff.mp hcell) hne
    | some cell =>
      cases cell with
      | none => exact absurd hcell hfits.getLast?_ne
      | some q =>
        rw [List.getLast?_eq_getElem?] at hcell
        have hcol : (d.row p).length - 1 < d.alphabet.symbols.length :=
          lt_of_lt_of_le (Nat.sub_lt hlen Nat.one_pos) hfits.length_le
        exact ⟨_, q, (successor_eq_some_iff d).mpr ⟨_, List.getElem?_eq_getElem hcol, hcell⟩⟩
  · rintro ⟨c, q, hs⟩
    exact hasOutgoing_of_successor hs

/-! ### The transition function after an operation -/

/-- No cell lies beyond the alphabet. -/
theorem join_getElem?_row_size (h : d.WellFormed) (p : StateId) :
    ((d.row p)[d.alphabet.size]?).join = none := by
  rw [List.getElem?_eq_none (rowFits_row h p).length_le, Option.join_none]

theorem WellFormed.successor_addSymbol (h : d.WellFormed) (c : Char) (p : StateId) (x : Char) :
    (d.addSymbol c).successor p x = d.successor p x := by
  by_cases hc : c ∈ d.alphabet.symbols
  · rw [Automaton.addSymbol, Alphabet.insert_of_mem hc]
  · show ((d.alphabet.insert c).indexOf? x).bind _ = _
    rw [Alphabet.indexOf?_insert]
    split
    · next hx =>
      -- the new column lies beyond every row
      rw [hx, successor_of_not_mem hc, Option.bind_some, Alphabet.column,
        List.idxOf_of_notMem hc]
      exact join_getElem?_row_size h p
    · rfl

theorem successor_addState (s : State) (p : StateId) (c : Char) :
    (d.addState s).1.successor p c = d.successor p c := by
  have hrow : (d.addState s).1.row p = d.row p := by
    -- the new row is empty, just as the row of a number without one
    show (d.table ++ [[]])[p]?.getD [] = d.table[p]?.getD []
    rw [List.getElem?_append]
    split
    · rfl
    · next hp =>
      rw [List.getElem?_eq_none (Nat.le_of_not_lt hp), List.getElem?_singleton]
      split <;> rfl
  rw [successor, successor, hrow]
  rfl

theorem row_modify (d : Automaton) (alphabet : Alphabet) (p x : StateId) (f : Row → Row)
    (hp : p < d.table.length) :
    ({ d with alphabet, table := d.table.modify p f } : Automaton).row x =
      if x = p then f (d.row p) else d.row x := by
  show (d.table.modify p f)[x]?.getD [] = _
  rw [List.getElem?_modify]
  split
  · next hx =>
    rw [if_pos hx.symm, ← hx, row, List.getElem?_eq_getElem hp]
    rfl
  · next hx =>
    rw [if_neg (Ne.symm hx), row]
    simp

/-- **A write changes one value of the transition function.** -/
theorem WellFormed.successor_addTransition (h : d.WellFormed) {p q : StateId} (c : Char)
    (hp : p < d.stateCount) (hq : q < d.stateCount) (x : StateId) (y : Char) :
    (d.addTransition p c q).1.successor x y =
      if x = p ∧ y = c then some q else d.successor x y := by
  -- the symbol may join the alphabet beforehand, and then both sides have the same columns
  rw [addTransition_of_lt c hp hq, ← h.successor_addSymbol c x y]
  have hrow := row_modify d (d.alphabet.insert c) p x (writeCell (d.alphabet.column c) q)
    (by rw [h.length_table]; exact hp)
  by_cases hy : y ∈ (d.alphabet.insert c).symbols
  · obtain ⟨i, hi⟩ := List.getElem?_of_mem hy
    rw [successor_of_getElem? hi, successor_of_getElem? (d := d.addSymbol c) hi, hrow]
    have hcol : y = c ↔ i = d.alphabet.column c := by
      have hc := Alphabet.symbols_insert_getElem?_column d.alphabet c
      constructor
      · intro hyc
        rw [hyc, ← Alphabet.indexOf?_eq_some_iff] at hi
        rw [← Alphabet.indexOf?_eq_some_iff, hi] at hc
        exact Option.some.inj hc
      · intro hic
        rw [hic, hc] at hi
        exact (Option.some.inj hi).symm
    by_cases hx : x = p
    · rw [if_pos hx, join_getElem?_writeCell, hx]
      simp only [true_and, hcol]
      rfl
    · rw [if_neg hx, if_neg fun hxy => hx hxy.1]
      rfl
  · have hyc : ¬ y = c := fun hyc => hy (Alphabet.mem_insert.mpr (Or.inl hyc))
    rw [if_neg fun hxy => hyc hxy.2, successor_of_not_mem hy,
      successor_of_not_mem (d := d.addSymbol c) hy]

/-! ### Determined by the transition function -/

/-- Rows that do not end in an empty cell are equal if they have the same targets. -/
theorem row_ext {r s : Row} (hr : r.getLast? ≠ some none) (hs : s.getLast? ≠ some none)
    (h : ∀ i : Nat, (r[i]?).join = (s[i]?).join) : r = s := by
  -- a row reaches as far as any other with the same targets, because its last cell is a target
  have hle : ∀ {r s : Row}, r.getLast? ≠ some none →
      (∀ i : Nat, (r[i]?).join = (s[i]?).join) → r.length ≤ s.length := by
    intro r s hr h
    by_contra hlt
    have hlast : s[r.length - 1]? = none := List.getElem?_eq_none (by omega)
    have hjoin := h (r.length - 1)
    rw [hlast, Option.join_none, ← List.getLast?_eq_getElem?] at hjoin
    cases hcell : r.getLast? with
    | none =>
      rw [List.getLast?_eq_none_iff] at hcell
      rw [hcell] at hlt
      simp at hlt
    | some cell =>
      cases cell with
      | none => exact hr hcell
      | some t => simp [hcell] at hjoin
  have hlen : r.length = s.length := le_antisymm (hle hr h) (hle hs fun i => (h i).symm)
  refine List.ext_getElem hlen fun i hi hi' => ?_
  have hjoin := h i
  rw [List.getElem?_eq_getElem hi, List.getElem?_eq_getElem hi', Option.join_some,
    Option.join_some] at hjoin
  exact hjoin

/-- **A well-formed automaton is determined by its parts and its transition function.** -/
theorem WellFormed.ext_successor {a b : Automaton} (ha : a.WellFormed) (hb : b.WellFormed)
    (hstates : a.states = b.states) (halphabet : a.alphabet = b.alphabet)
    (hstart : a.start = b.start) (haccepting : a.accepting = b.accepting)
    (h : ∀ p c, a.successor p c = b.successor p c) : a = b := by
  have hrow : ∀ p, a.row p = b.row p := by
    intro p
    refine row_ext (rowFits_row ha p).getLast?_ne (rowFits_row hb p).getLast?_ne fun i => ?_
    cases hi : a.alphabet.symbols[i]? with
    | some c =>
      have hpc := h p c
      rwa [successor_of_getElem? hi, successor_of_getElem? (by rw [← halphabet, hi])] at hpc
    | none =>
      -- beyond the alphabet both rows have come to their end
      have hwidth : a.alphabet.size ≤ i := List.getElem?_eq_none_iff.mp hi
      rw [List.getElem?_eq_none ((rowFits_row ha p).length_le.trans hwidth),
        List.getElem?_eq_none ((rowFits_row hb p).length_le.trans (halphabet ▸ hwidth))]
  have hlen : a.table.length = b.table.length := by
    rw [ha.length_table, hb.length_table, stateCount, stateCount, hstates]
  have htable : a.table = b.table := by
    refine List.ext_getElem hlen fun p hp hp' => ?_
    have hp := hrow p
    rwa [row, row, List.getElem?_eq_getElem ‹_›, List.getElem?_eq_getElem ‹_›, Option.getD_some,
      Option.getD_some] at hp
  cases a
  cases b
  simp_all

end AutomatonKit.Automaton
