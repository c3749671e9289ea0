import Mathlib
import AutomatonKit.Proofs.Automaton.Successor

/-!
# The edges, enumerated

An edge can be looked up, by `successor`, or come up when the edges are enumerated, by `outgoing`
and `transitions`.  The lookup goes from a symbol to its column and from there to a cell.  The
enumeration goes along the cells of a row and from a column to its symbol.  `transitions_exact` says
that the two agree, and fixes the order of the enumeration: by the numbers of the sources, and for
each source by the columns (`ListedBefore`).

Everything rests on this order.  As the cells of a row are met by ascending columns, the edges come
in the order (`pairwise_outgoing`, `pairwise_transitions`), and a list that is in a strict order is
determined by its members.  So it suffices to compare members, and these are compared with the
transition function (`mem_outgoing_iff`, `WellFormed.mem_transitions_iff`).
-/

namespace AutomatonKit.Automaton

variable {d : Automaton}

/-! ### The order of the edges -/

/-- The order in which edges are listed: by their sources, and those from one source by the columns
of their symbols. -/
def ListedBefore (d : Automaton) (t t' : Transition) : Prop :=
  t.source < t'.source ∨
    t.source = t'.source ∧ d.alphabet.column t.symbol < d.alphabet.column t'.symbol

instance (d : Automaton) : Std.Irrefl d.ListedBefore where
  irrefl _ h := by
    rcases h with hlt | ⟨-, hlt⟩
    · exact Nat.lt_irrefl _ hlt
    · exact Nat.lt_irrefl _ hlt

instance (d : Automaton) : Std.Antisymm d.ListedBefore where
  antisymm t t' h h' := by
    unfold ListedBefore at h h'
    lia

/-- A symbol that is found at a column has this column. -/
theorem column_of_symbolAt? {c : Char} {i : Nat} (h : d.alphabet.symbolAt? i = some c) :
    d.alphabet.column c = i :=
  Alphabet.column_of_indexOf? (d.alphabet.indexOf?_eq_some_iff.mpr h)

/-- The edges that leave a state come by ascending columns. -/
theorem pairwise_outgoing (d : Automaton) (p : StateId) :
    (d.outgoing p).Pairwise fun e e' => d.alphabet.column e.1 < d.alphabet.column e'.1 := by
  have hcolumns : (d.row p).zipIdx.Pairwise fun x y => x.2 < y.2 := by
    rw [← List.pairwise_map (f := Prod.snd) (R := (· < ·)), List.zipIdx_map_snd]
    exact List.pairwise_lt_range'
  refine List.Pairwise.filterMap _ ?_ hcolumns
  rintro ⟨cell, i⟩ ⟨cell', j⟩ hij edge hedge edge' hedge'
  simp only [Option.bind_eq_bind, Option.bind_eq_some_iff] at hedge hedge'
  obtain ⟨c, hc, q, -, hcq⟩ := hedge
  obtain ⟨c', hc', q', -, hcq'⟩ := hedge'
  obtain rfl : (c, q) = edge := Option.some.inj hcq
  obtain rfl : (c', q') = edge' := Option.some.inj hcq'
  show d.alphabet.column c < d.alphabet.column c'
  rw [column_of_symbolAt? hc, column_of_symbolAt? hc']
  exact hij

/-- The edges that leave a state, with this state as their source. -/
def edgesFrom (d : Automaton) (p : StateId) : List Transition :=
  (d.outgoing p).map fun e => ⟨p, e.1, e.2⟩

theorem mem_edgesFrom_iff {p : StateId} {t : Transition} :
    t ∈ d.edgesFrom p ↔ t.source = p ∧ d.successor t.source t.symbol = some t.target := by
  rw [edgesFrom, List.mem_map]
  constructor
  · rintro ⟨e, he, rfl⟩
    exact ⟨rfl, d.mem_outgoing_iff.mp he⟩
  · rintro ⟨rfl, hs⟩
    exact ⟨(t.symbol, t.target), d.mem_outgoing_iff.mpr hs, rfl⟩

theorem pairwise_edgesFrom (d : Automaton) (p : StateId) :
    (d.edgesFrom p).Pairwise d.ListedBefore :=
  (d.pairwise_outgoing p).map _ fun _ _ hlt => Or.inr ⟨rfl, hlt⟩

/-- **The edges are enumerated in order.** -/
theorem pairwise_transitions (d : Automaton) : d.transitions.Pairwise d.ListedBefore := by
  show (d.ids.flatMap d.edgesFrom).Pairwise d.ListedBefore
  rw [List.pairwise_flatMap]
  constructor
  · intro p _
    exact d.pairwise_edgesFrom p
  · apply List.pairwise_lt_range.imp
    intro p p' hlt t ht t' ht'
    have hp : t.source = p := (mem_edgesFrom_iff.mp ht).1
    have hp' : t'.source = p' := (mem_edgesFrom_iff.mp ht').1
    exact Or.inl (by rw [hp, hp']; exact hlt)

/-! ### The edges of one state -/

/-- The group of a state in the enumeration are the edges that leave it. -/
theorem WellFormed.filter_transitions (h : d.WellFormed) (p : StateId) :
    d.transitions.filter (fun t => t.source = p) = d.edgesFrom p := by
  apply (d.pairwise_transitions.filter _).eq_of_mem_iff (d.pairwise_edgesFrom p)
  intro t
  rw [List.mem_filter, h.mem_transitions_iff, mem_edgesFrom_iff, decide_eq_true_eq, and_comm]

theorem outgoing_eq_nil_of_not_contains (h : d.WellFormed) {p : StateId}
    (hp : d.contains p = false) : d.outgoing p = [] := by
  have hle : d.stateCount ≤ p := by
    have hlt : ¬ p < d.stateCount := by
      rw [← contains_iff, hp]
      decide
    exact Nat.le_of_not_lt hlt
  rw [outgoing, row_eq_nil_of_le h hle]
  rfl

theorem WellFormed.hasOutgoing_iff_outgoing_ne_nil (h : d.WellFormed) (p : StateId) :
    d.hasOutgoing p = true ↔ d.outgoing p ≠ [] := by
  rw [h.hasOutgoing_iff]
  constructor
  · rintro ⟨c, q, hs⟩
    exact List.ne_nil_of_mem (d.mem_outgoing_iff.mpr hs)
  · intro hne
    obtain ⟨⟨c, q⟩, hmem⟩ := List.exists_mem_of_ne_nil _ hne
    exact ⟨c, q, d.mem_outgoing_iff.mp hmem⟩

/-! ### The number of edges -/

/-- No two edges of the enumeration have the same source and symbol. -/
theorem nodup_places_transitions (d : Automaton) :
    (d.transitions.map fun t => (t.source, t.symbol)).Nodup := by
  apply List.pairwise_map.mpr
  apply d.pairwise_transitions.imp
  intro t t' hlisted heq
  obtain ⟨hsource, hsymbol⟩ := Prod.mk.inj heq
  rcases hlisted with hlt | ⟨-, hlt⟩
  · exact Nat.ne_of_lt hlt hsource
  · rw [hsymbol] at hlt
    exact Nat.lt_irrefl _ hlt

/-- **The number of edges** is the number of pairs of a state and a symbol that have a successor. -/
theorem WellFormed.encard_places_eq (h : d.WellFormed) :
    {place : StateId × Char | ∃ q, d.successor place.1 place.2 = some q}.encard =
      d.transitionCount := by
  have hset : {place : StateId × Char | ∃ q, d.successor place.1 place.2 = some q} =
      ((d.transitions.map fun t => (t.source, t.symbol)).toFinset : Set (StateId × Char)) := by
    ext ⟨p, c⟩
    rw [Set.mem_ofPred_eq, List.coe_toFinset, Set.mem_ofPred_eq, List.mem_map]
    constructor
    · rintro ⟨q, hs⟩
      exact ⟨⟨p, c, q⟩, h.mem_transitions_iff.mpr hs, rfl⟩
    · rintro ⟨t, ht, heq⟩
      obtain ⟨rfl, rfl⟩ := Prod.mk.inj heq
      exact ⟨t.target, h.mem_transitions_iff.mp ht⟩
  rw [hset, Set.encard_coe_eq_coe_finsetCard, List.toFinset_card_of_nodup d.nodup_places_transitions,
    List.length_map, transitionCount]

/-! ### Lookup and enumeration -/

/-- **What is enumerated is what can be looked up.**  In an automaton in which nothing is wrong the
enumeration has an edge exactly if its target is what is found for its source and symbol, and has it
once, by ascending sources and columns.  The edges that leave a state are its group in the
enumeration, with none for a number that is not registered; they are counted by the pairs that have
a successor; and the quick test for an edge, which only looks at the length of the row, is right for
every number. -/
theorem transitions_exact (d : Automaton) (hd : d.violation? = none) :
    (∀ p c q, ⟨p, c, q⟩ ∈ d.transitions ↔ d.successor p c = some q) ∧
    d.transitions.Nodup ∧
    d.transitions.Pairwise d.ListedBefore ∧
    (∀ p, d.transitions.filter (fun t => t.source = p) =
      (d.outgoing p).map fun e => ⟨p, e.1, e.2⟩) ∧
    (∀ p, d.contains p = false → d.outgoing p = []) ∧
    {place : StateId × Char | ∃ q, d.successor place.1 place.2 = some q}.encard =
      d.transitionCount ∧
    ∀ p, d.hasOutgoing p = true ↔ d.outgoing p ≠ [] := by
  rw [violation?_eq_none_iff] at hd
  refine ⟨fun p c q => hd.mem_transitions_iff, d.nodup_transitions, d.pairwise_transitions,
    hd.filter_transitions, fun p hp => outgoing_eq_nil_of_not_contains hd hp, hd.encard_places_eq,
    hd.hasOutgoing_iff_outgoing_ne_nil⟩

/-- Symbols whose columns are not in the order of the characters, a row with an empty cell in the
middle, an empty row, and a row that is shorter than the alphabet. -/
def switchyard : Automaton where
  states := [{ name := "west" }, { name := "siding" }, { name := "east", accepting := true }]
  alphabet := .ofList ['z', 'a', 'm']
  table := [[some 2, none, some 1], [], [none, some 0]]
  start := some 0
  accepting := .ofList [2]

/-- In `switchyard` the edge on `z` comes before the one on `m`, and three edges are counted. -/
theorem transitions_exact_switchyard :
    switchyard.violation? = none ∧
      switchyard.transitions = [⟨0, 'z', 2⟩, ⟨0, 'm', 1⟩, ⟨2, 'a', 0⟩] ∧
      switchyard.transitions.filter (fun t => t.source = 2) = [⟨2, 'a', 0⟩] ∧
      switchyard.successor 2 'a' = some 0 ∧ switchyard.outgoing 7 = [] ∧
      {place : StateId × Char | ∃ q, switchyard.successor place.1 place.2 = some q}.encard = 3 ∧
      switchyard.hasOutgoing 1 = false := by
  have hd : switchyard.violation? = none := by decide
  have hlist : switchyard.transitions = [⟨0, 'z', 2⟩, ⟨0, 'm', 1⟩, ⟨2, 'a', 0⟩] := by decide
  obtain ⟨hmem, -, -, hgroup, hnone, hcount, hhas⟩ := transitions_exact switchyard hd
  have hedge : switchyard.successor 2 'a' = some 0 := (hmem 2 'a' 0).mp (by rw [hlist]; simp)
  have hthree : switchyard.transitionCount = 3 := by decide
  refine ⟨hd, hlist, (hgroup 2).trans (by decide), hedge, hnone 7 (by decide), ?_, ?_⟩
  · rw [hcount, hthree]
    rfl
  · apply Bool.eq_false_iff.mpr
    intro htrue
    exact (hhas 1).mp htrue (by decide)

end AutomatonKit.Automaton
