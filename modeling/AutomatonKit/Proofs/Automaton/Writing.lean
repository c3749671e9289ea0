import Mathlib
import AutomatonKit.Proofs.Automaton.Equality
import AutomatonKit.Proofs.Run.Language

/-!
# Writing many transitions

Transitions that are written one after the other get in each other's way only where they leave the
same state on the same symbol: there the last one counts.  A transition between states one of which
is not registered is refused and leaves nothing behind.

`WellFormed.wrote_writeAll` describes the automaton after a list of transitions by those of them that
are not refused, and everything else is read off this description.  Writing a list again finds every
symbol in its column and every target in its place (`WellFormed.writeAll_writeAll`).  A list in
another order has the same symbols and, where the order from each state on each symbol is kept, the
same last transitions (`WellFormed.alike_writeAll`); only the columns may differ.
-/

namespace AutomatonKit.Automaton

/-! ### Writing -/

/-- Writes a transition. -/
def write (d : Automaton) (t : Transition) : Automaton × Bool :=
  d.addTransition t.source t.symbol t.target

/-- Writes transitions one after the other. -/
def writeAll (d : Automaton) (ts : List Transition) : Automaton :=
  ts.foldl (fun d t => (d.write t).1) d

/-- Whether each of the transitions took effect, when they are written one after the other. -/
def writeResults (d : Automaton) : List Transition → List Bool
  | [] => []
  | t :: ts => (d.write t).2 :: (d.write t).1.writeResults ts

/-- Whether both ends of a transition are registered. -/
def joins (d : Automaton) (t : Transition) : Bool :=
  d.contains t.source && d.contains t.target

/-- The target of the last transition that leaves a state on a symbol. -/
def lastTarget? (ts : List Transition) (p : StateId) (c : Char) : Option StateId :=
  (ts.filter fun t => t.source = p ∧ t.symbol = c).getLast?.map Transition.target

variable {d d' : Automaton} {t : Transition} {ts ts' : List Transition}

theorem joins_iff : d.joins t = true ↔ t.source < d.stateCount ∧ t.target < d.stateCount := by
  rw [joins, Bool.and_eq_true, contains_iff, contains_iff]

theorem joins_congr (h : d'.states = d.states) (t : Transition) : d'.joins t = d.joins t := by
  rw [joins, joins, contains, contains, contains, contains, stateCount, stateCount, h]

theorem write_of_not_joins (h : ¬ d.joins t = true) : d.write t = (d, false) :=
  addTransition_of_not_lt _ (mt joins_iff.mpr h)

theorem write_of_joins (h : d.joins t = true) :
    d.write t =
      ({ d with
          alphabet := d.alphabet.insert t.symbol
          table := d.table.modify t.source (writeCell (d.alphabet.column t.symbol) t.target) },
        true) :=
  addTransition_of_lt _ (joins_iff.mp h).1 (joins_iff.mp h).2

theorem states_write (d : Automaton) (t : Transition) : (d.write t).1.states = d.states := by
  by_cases h : d.joins t = true
  · rw [write_of_joins h]
  · rw [write_of_not_joins h]

/-- **A transition takes effect** if both of its ends are registered, whatever is written before. -/
theorem writeResults_eq (d : Automaton) (ts : List Transition) :
    d.writeResults ts = ts.map d.joins := by
  induction ts generalizing d with
  | nil => rfl
  | cons t ts ih =>
    have hresult : (d.write t).2 = d.joins t := by
      by_cases h : d.joins t = true
      · rw [write_of_joins h, h]
      · rw [write_of_not_joins h, Bool.eq_false_iff.mpr h]
    rw [writeResults, ih, hresult, List.map_cons]
    exact congrArg _ (List.map_congr_left fun x _ => joins_congr (d.states_write t) x)

theorem lastTarget?_concat (ts : List Transition) (t : Transition) (p : StateId) (c : Char) :
    lastTarget? (ts ++ [t]) p c =
      if p = t.source ∧ c = t.symbol then some t.target else lastTarget? ts p c := by
  rw [lastTarget?, List.filter_append, List.filter_singleton]
  by_cases h : p = t.source ∧ c = t.symbol
  · obtain ⟨rfl, rfl⟩ := h
    simp
  · have h' : ¬ (t.source = p ∧ t.symbol = c) := fun hpc => h ⟨hpc.1.symm, hpc.2.symm⟩
    rw [if_neg h, decide_eq_false h']
    simp [lastTarget?]

/-! ### What a list of transitions does -/

/-- `d'` is what the transitions `ts` make of `d`. -/
structure Wrote (d : Automaton) (ts : List Transition) (d' : Automaton) : Prop where
  states_eq : d'.states = d.states
  start_eq : d'.start = d.start
  accepting_eq : d'.accepting = d.accepting
  /-- The symbols join the alphabet in the order of the transitions. -/
  alphabet_eq : d'.alphabet = (ts.map Transition.symbol).foldl Alphabet.insert d.alphabet
  /-- The last transition from a state on a symbol counts. -/
  successor_eq : ∀ p c, d'.successor p c = (lastTarget? ts p c).or (d.successor p c)

theorem WellFormed.write (hd : d.WellFormed) (t : Transition) : (d.write t).1.WellFormed :=
  hd.addTransition _ _ _

theorem WellFormed.writeAll (hd : d.WellFormed) (ts : List Transition) :
    (d.writeAll ts).WellFormed :=
  List.foldlRecOn ts _ hd fun _ h t _ => h.write t

/-- One more transition. -/
theorem Wrote.concat (h : Wrote d ts d') (hd' : d'.WellFormed) (ht : d'.joins t = true) :
    Wrote d (ts ++ [t]) (d'.write t).1 := by
  have hsuccessor := hd'.successor_addTransition t.symbol (joins_iff.mp ht).1 (joins_iff.mp ht).2
  refine ⟨?_, ?_, ?_, ?_, fun p c => ?_⟩
  · rw [states_write, h.states_eq]
  · rw [write_of_joins ht]
    exact h.start_eq
  · rw [write_of_joins ht]
    exact h.accepting_eq
  · rw [write_of_joins ht, List.map_append, List.foldl_append, ← h.alphabet_eq]
    rfl
  · rw [lastTarget?_concat]
    refine (hsuccessor p c).trans ?_
    split
    · rfl
    · exact h.successor_eq p c

/-- **What a list of transitions does** depends on those that are not refused. -/
theorem WellFormed.wrote_writeAll (hd : d.WellFormed) (ts : List Transition) :
    Wrote d (ts.filter d.joins) (d.writeAll ts) := by
  -- from the first transition on, because the last one counts
  induction ts using List.reverseRecOn with
  | nil => exact ⟨rfl, rfl, rfl, rfl, fun p c => (Option.none_or).symm⟩
  | append_singleton ts t ih =>
    have hwrite : d.writeAll (ts ++ [t]) = ((d.writeAll ts).write t).1 := List.foldl_append
    have hjoins : (d.writeAll ts).joins t = d.joins t := joins_congr ih.states_eq t
    rw [hwrite, List.filter_append, List.filter_singleton]
    by_cases ht : d.joins t = true
    · rw [ht]
      exact ih.concat (hd.writeAll ts) (hjoins.trans ht)
    · rw [Bool.eq_false_iff.mpr ht, write_of_not_joins (by rwa [hjoins])]
      simpa using ih

/-! ### The same transitions again -/

/-- **Writing transitions again changes nothing**, not even a column. -/
theorem WellFormed.writeAll_writeAll (hd : d.WellFormed) (ts : List Transition) :
    (d.writeAll ts).writeAll ts = d.writeAll ts := by
  have hfirst := hd.wrote_writeAll ts
  have hagain := (hd.writeAll ts).wrote_writeAll ts
  have hjoins : (d.writeAll ts).joins = d.joins := funext (joins_congr hfirst.states_eq)
  rw [hjoins] at hagain
  have hmem : ∀ c ∈ (ts.filter d.joins).map Transition.symbol,
      c ∈ (d.writeAll ts).alphabet.symbols := by
    intro c hc
    rw [hfirst.alphabet_eq]
    exact Alphabet.mem_foldl_insert.mpr (Or.inr hc)
  refine ((hd.writeAll ts).writeAll ts).ext_successor (hd.writeAll ts) hagain.states_eq
    (hagain.alphabet_eq.trans (Alphabet.foldl_insert_of_forall_mem hmem)) hagain.start_eq
    hagain.accepting_eq fun p c => ?_
  -- where there is a last transition, it has been written already
  rw [hagain.successor_eq, hfirst.successor_eq, ← Option.or_assoc, Option.or_self]

/-! ### The transitions in another order -/

/-- The transitions of a list that are written at the same place, in their order. -/
def writtenAt (d : Automaton) (p : StateId) (c : Char) (ts : List Transition) : List Transition :=
  ts.filter fun t => d.joins t ∧ t.source = p ∧ t.symbol = c

/-- The transitions `ts'` are `ts` in another order, and at each place those that are not refused have
kept theirs. -/
structure Rearranged (d : Automaton) (ts ts' : List Transition) : Prop where
  perm : ts'.Perm ts
  writtenAt_eq : ∀ p c, d.writtenAt p c ts' = d.writtenAt p c ts

/-- Only the places of the transitions themselves have to be looked at. -/
theorem rearranged_iff :
    d.Rearranged ts ts' ↔ ts'.Perm ts ∧
      ∀ t ∈ ts, d.writtenAt t.source t.symbol ts' = d.writtenAt t.source t.symbol ts := by
  refine ⟨fun h => ⟨h.perm, fun t _ => h.writtenAt_eq t.source t.symbol⟩, ?_⟩
  rintro ⟨hperm, h⟩
  refine ⟨hperm, fun p c => ?_⟩
  by_cases hpc : ∃ t ∈ ts, t.source = p ∧ t.symbol = c
  · obtain ⟨t, ht, rfl, rfl⟩ := hpc
    exact h t ht
  · have hnone : ∀ xs ⊆ ts, d.writtenAt p c xs = [] := fun xs hxs =>
      List.filter_eq_nil_iff.mpr fun t ht htpc => hpc ⟨t, hxs ht, (of_decide_eq_true htpc).2⟩
    rw [hnone _ hperm.subset, hnone _ (List.Subset.refl ts)]

instance (d : Automaton) (ts ts' : List Transition) : Decidable (d.Rearranged ts ts') :=
  decidable_of_iff' _ rearranged_iff

theorem filter_joins_eq_writtenAt (d : Automaton) (p : StateId) (c : Char)
    (ts : List Transition) :
    ((ts.filter d.joins).filter fun t => t.source = p ∧ t.symbol = c) = d.writtenAt p c ts := by
  rw [List.filter_filter, writtenAt]
  refine List.filter_congr fun t _ => ?_
  rw [Bool.eq_iff_iff]
  simp [and_comm]

/-- **The order of transitions matters only at each place.** -/
theorem WellFormed.alike_writeAll (hd : d.WellFormed) (h : d.Rearranged ts ts') :
    (d.writeAll ts').Alike (d.writeAll ts) := by
  have hts := hd.wrote_writeAll ts
  have hts' := hd.wrote_writeAll ts'
  refine ⟨hts'.states_eq.trans hts.states_eq.symm, hts'.start_eq.trans hts.start_eq.symm,
    hts'.accepting_eq.trans hts.accepting_eq.symm, fun c => ?_, fun p c => ?_⟩
  · have hsymbols := ((h.perm.filter d.joins).map Transition.symbol).mem_iff (a := c)
    rw [hts'.alphabet_eq, hts.alphabet_eq, Alphabet.mem_foldl_insert, Alphabet.mem_foldl_insert,
      hsymbols]
  · have hlast : lastTarget? (ts'.filter d.joins) p c = lastTarget? (ts.filter d.joins) p c := by
      rw [lastTarget?, lastTarget?, filter_joins_eq_writtenAt, filter_joins_eq_writtenAt,
        h.writtenAt_eq]
    rw [hts'.successor_eq, hts.successor_eq, hlast]

/-- Automata that are alike have as many transitions. -/
theorem Alike.transitionCount_eq {a b : Automaton} (h : a.Alike b) (ha : a.WellFormed)
    (hb : b.WellFormed) : a.transitionCount = b.transitionCount := by
  have hmem : ∀ t, t ∈ a.transitions ↔ t ∈ b.transitions := by
    intro t
    rw [ha.mem_transitions_iff, hb.mem_transitions_iff, h.successor_eq]
  exact ((List.perm_ext_iff_of_nodup a.nodup_transitions b.nodup_transitions).mpr hmem).length_eq

theorem Alike.accepts_eq {a b : Automaton} (h : a.Alike b) (w : List Char) :
    a.accepts w = b.accepts w :=
  accepts_congr h.start_eq (fun _ _ p c _ => h.successor_eq p c) fun _ _ _ _ => by
    rw [h.accepting_eq]

/-- **Transitions can be written again and in another order.**  Take an automaton in which nothing is
wrong, and transitions whose ends may be registered or not.  To write all of them twice is to write
them once.  And they may be written in another order, as long as those that leave the same state on
the same symbol and are not refused keep theirs: the two automata are equal and have as many
transitions, each transition takes effect in both runs or in none, and the same inputs are
accepted. -/
theorem writeAll_again_or_rearranged (d : Automaton) (hd : d.violation? = none)
    (ts : List Transition) :
    (d.writeAll ts).writeAll ts = d.writeAll ts ∧
    ∀ ts' : List Transition, d.Rearranged ts ts' →
      (d.writeAll ts').sameAs (d.writeAll ts) = true ∧
      (d.writeAll ts').transitionCount = (d.writeAll ts).transitionCount ∧
      (∀ i j : Nat, ts'[i]? = ts[j]? → (d.writeResults ts')[i]? = (d.writeResults ts)[j]?) ∧
      ∀ w, (d.writeAll ts').accepts w = (d.writeAll ts).accepts w := by
  rw [violation?_eq_none_iff] at hd
  refine ⟨hd.writeAll_writeAll ts, fun ts' h => ?_⟩
  have halike := hd.alike_writeAll h
  have hts := hd.writeAll ts
  have hts' := hd.writeAll ts'
  refine ⟨(sameAs_iff_alike hts' hts).mpr halike, halike.transitionCount_eq hts' hts, ?_,
    halike.accepts_eq⟩
  intro i j hij
  rw [writeResults_eq, writeResults_eq, List.getElem?_map, List.getElem?_map, hij]

/-- A junction of two states, the second of which is accepting. -/
def junction : Automaton where
  states := [{ name := "in" }, { name := "out", accepting := true }]
  alphabet := .ofList ['a']
  table := [[some 0], []]
  start := some 0
  accepting := .ofList [1]

/-- Transitions of which the second is refused and the last replaces the first. -/
def switched : List Transition :=
  [⟨0, 'b', 0⟩, ⟨0, 'b', 2⟩, ⟨1, 'c', 0⟩, ⟨0, 'b', 1⟩]

/-- The same transitions in another order. -/
def rerouted : List Transition :=
  [⟨1, 'c', 0⟩, ⟨0, 'b', 0⟩, ⟨0, 'b', 1⟩, ⟨0, 'b', 2⟩]

/-- The two orders give the junction different columns, and that is all. -/
theorem writeAll_again_or_rearranged_junction :
    junction.violation? = none ∧ junction.Rearranged switched rerouted ∧
      junction.writeAll rerouted ≠ junction.writeAll switched ∧
      (junction.writeAll rerouted).sameAs (junction.writeAll switched) = true ∧
      (junction.writeAll switched).writeAll switched = junction.writeAll switched ∧
      (junction.writeResults rerouted)[3]? = (junction.writeResults switched)[1]? := by
  have hd : junction.violation? = none := by decide
  have horder : junction.Rearranged switched rerouted := by decide
  obtain ⟨hagain, hrearranged⟩ := writeAll_again_or_rearranged junction hd switched
  obtain ⟨hsame, -, hresults, -⟩ := hrearranged rerouted horder
  exact ⟨hd, horder, by decide, hsame, hagain, hresults 3 1 rfl⟩

end AutomatonKit.Automaton
