import Mathlib
import AutomatonKit.Proofs.Automaton.Successor

/-!
# Automata that are given by a listing

A `Listing` names states, symbols, start states, accepting states and edges, each in an order and
possibly more than once.  `Listing.Describes` says which automaton is meant: a symbol counts where
it is listed first, the start state and the edges where they are listed last.

`Listing.add` says what an edit adds to a listing.  Building an automaton and adding to a listing go
hand in hand: `Describes.edit` for one edit, `Describes.editAll` for a run of edits.  A well-formed
automaton is determined by its listing (`Describes.unique`).
-/

namespace AutomatonKit

/-- What is listed of an automaton. -/
structure Listing where
  names : List String
  /-- The symbols, as often as they are mentioned. -/
  symbols : List Char
  /-- The states that are chosen as start state. -/
  starts : List StateId
  /-- The accepting states, as often as they are mentioned. -/
  accepted : List StateId
  /-- The edges, including those that a later edge replaces. -/
  edges : List Transition

namespace Listing

def empty : Listing :=
  ⟨[], [], [], [], []⟩

/-- The target of the last edge that leaves a state on a symbol. -/
def target? (l : Listing) (source : StateId) (symbol : Char) : Option StateId :=
  (l.edges.filter fun t => t.source = source ∧ t.symbol = symbol).getLast?.map Transition.target

/-- The automaton that is meant by a listing. -/
structure Describes (l : Listing) (d : Automaton) : Prop where
  /-- The states are the listed ones, with a flag on those that are listed as accepting. -/
  states_eq : d.states = l.names.mapIdx fun id name => ⟨name, decide (id ∈ l.accepted)⟩
  /-- The columns follow the first mention of the symbols. -/
  symbols_eq : d.alphabet.symbols = l.symbols.eraseDups
  /-- The start state is the one chosen last. -/
  start_eq : d.start = l.starts.getLast?
  isAccepting_iff : ∀ id, d.isAccepting id = true ↔ id ∈ l.accepted
  /-- The last edge from a state on a symbol counts, and there are no other transitions. -/
  successor_eq : ∀ source symbol, d.successor source symbol = l.target? source symbol

/-- What an edit adds to a listing: nothing if it refers to a state that is not listed. -/
def add (l : Listing) : Edit → Listing
  | .addState state =>
    { l with
      names := l.names ++ [state.name]
      accepted := l.accepted ++ if state.accepting then [l.names.length] else [] }
  | .setStart id => if id < l.names.length then { l with starts := l.starts ++ [id] } else l
  | .addAccepting id =>
    if id < l.names.length then { l with accepted := l.accepted ++ [id] } else l
  | .addSymbol symbol => { l with symbols := l.symbols ++ [symbol] }
  | .addTransition source symbol target =>
    if source < l.names.length ∧ target < l.names.length then
      { l with symbols := l.symbols ++ [symbol], edges := l.edges ++ [⟨source, symbol, target⟩] }
    else l

variable {l : Listing} {d : Automaton}

theorem describes_empty : empty.Describes .empty where
  states_eq := rfl
  symbols_eq := rfl
  start_eq := rfl
  isAccepting_iff _ := Automaton.isAccepting_iff
  successor_eq _ _ := rfl

namespace Describes

theorem length_names (h : l.Describes d) : l.names.length = d.stateCount := by
  rw [Automaton.stateCount, h.states_eq, List.length_mapIdx]

theorem map_name (h : l.Describes d) : d.states.map State.name = l.names := by
  refine List.ext_getElem? fun i => ?_
  rw [h.states_eq, List.getElem?_map, List.getElem?_mapIdx]
  cases l.names[i]? <;> rfl

theorem lt_of_mem_accepted (h : l.Describes d) (hd : d.WellFormed) {id : StateId}
    (hid : id ∈ l.accepted) : id < l.names.length := by
  rw [h.length_names]
  exact hd.lt_of_mem_accepting (Automaton.isAccepting_iff.mp ((h.isAccepting_iff id).mpr hid))

/-! ### One edit -/

theorem addState (h : l.Describes d) (hd : d.WellFormed) (s : State) :
    (l.add (.addState s)).Describes (d.addState s).1 where
  states_eq := by
    show d.states ++ [s] = _
    rw [add, List.mapIdx_append, h.states_eq]
    congr 1
    · -- the new number is none of the old ones, so their flags stay
      refine List.ext_getElem? fun i => ?_
      rw [List.getElem?_mapIdx, List.getElem?_mapIdx]
      cases hi : l.names[i]? with
      | none => rfl
      | some name =>
        have hne : i ≠ l.names.length := (List.getElem?_eq_some_iff.mp hi).1.ne
        cases hs : s.accepting <;> simp [hne]
    · -- and it was not listed as accepting before
      have hnew : l.names.length ∉ l.accepted :=
        fun hmem => Nat.lt_irrefl _ (h.lt_of_mem_accepted hd hmem)
      obtain ⟨name, accepting⟩ := s
      cases accepting <;> simp [hnew]
  symbols_eq := h.symbols_eq
  start_eq := h.start_eq
  isAccepting_iff id := by
    rw [Automaton.isAccepting_iff, Automaton.mem_accepting_addState, ← Automaton.isAccepting_iff,
      h.isAccepting_iff, add, List.mem_append, h.length_names]
    cases hs : s.accepting <;> simp [or_comm]
  successor_eq p c := (Automaton.successor_addState s p c).trans (h.successor_eq p c)

theorem setStart (h : l.Describes d) (id : StateId) :
    (l.add (.setStart id)).Describes (d.setStart id).1 := by
  rw [add, h.length_names]
  split
  · next hid =>
    rw [Automaton.setStart_of_lt hid]
    exact ⟨h.states_eq, h.symbols_eq, List.getLast?_concat.symm, h.isAccepting_iff, h.successor_eq⟩
  · next hid =>
    rw [Automaton.setStart_of_not_lt hid]
    exact h

theorem addAccepting (h : l.Describes d) (id : StateId) :
    (l.add (.addAccepting id)).Describes (d.addAccepting id).1 := by
  rw [add, h.length_names]
  split
  · next hid =>
    rw [Automaton.addAccepting_of_lt hid]
    refine ⟨?_, h.symbols_eq, h.start_eq, fun x => ?_, h.successor_eq⟩
    · refine List.ext_getElem? fun i => ?_
      show (d.states.modify id _)[i]? = _
      rw [h.states_eq, List.getElem?_modify, List.getElem?_mapIdx, List.getElem?_mapIdx]
      cases l.names[i]? with
      | none => rfl
      | some name => by_cases hi : id = i <;> simp [hi, eq_comm]
    · rw [Automaton.isAccepting_iff, IdSet.mem_insert, ← Automaton.isAccepting_iff,
        h.isAccepting_iff, List.mem_append, List.mem_singleton, or_comm]
  · next hid =>
    rw [Automaton.addAccepting_of_not_lt hid]
    exact h

theorem symbols_insert (h : l.Describes d) (c : Char) :
    (d.alphabet.insert c).symbols = (l.symbols ++ [c]).eraseDups := by
  have hd : d.alphabet = .ofList l.symbols :=
    Alphabet.ext_symbols (by rw [h.symbols_eq, Alphabet.symbols_ofList])
  rw [hd, ← Alphabet.symbols_ofList, Alphabet.ofList, Alphabet.ofList, List.foldl_append]
  rfl

theorem addSymbol (h : l.Describes d) (hd : d.WellFormed) (c : Char) :
    (l.add (.addSymbol c)).Describes (d.addSymbol c) :=
  ⟨h.states_eq, h.symbols_insert c, h.start_eq, h.isAccepting_iff,
    fun p x => (hd.successor_addSymbol c p x).trans (h.successor_eq p x)⟩

theorem addTransition (h : l.Describes d) (hd : d.WellFormed) (p : StateId) (c : Char)
    (q : StateId) : (l.add (.addTransition p c q)).Describes (d.addTransition p c q).1 := by
  rw [add, h.length_names]
  split
  · next hpq =>
    have hsuccessor := hd.successor_addTransition c hpq.1 hpq.2
    rw [Automaton.addTransition_of_lt c hpq.1 hpq.2] at hsuccessor ⊢
    refine ⟨h.states_eq, h.symbols_insert c, h.start_eq, h.isAccepting_iff, fun x y => ?_⟩
    rw [hsuccessor, target?, List.filter_append, List.filter_singleton]
    -- the new edge comes last, so it counts where it applies
    by_cases hxy : x = p ∧ y = c
    · obtain ⟨rfl, rfl⟩ := hxy
      simp
    · have hyx : ¬ (p = x ∧ c = y) := fun hyx => hxy ⟨hyx.1.symm, hyx.2.symm⟩
      rw [if_neg hxy, h.successor_eq, decide_eq_false hyx]
      simp [target?]
  · next hpq =>
    rw [Automaton.addTransition_of_not_lt c hpq]
    exact h

/-- **An edit adds to the listing what it does to the automaton.** -/
theorem edit (h : l.Describes d) (hd : d.WellFormed) (e : Edit) :
    (l.add e).Describes (d.edit e).1 := by
  cases e with
  | addState s => exact h.addState hd s
  | setStart id => exact h.setStart id
  | addAccepting id => exact h.addAccepting id
  | addSymbol c => exact h.addSymbol hd c
  | addTransition p c q => exact h.addTransition hd p c q

/-! ### All edits -/

theorem editAll (h : l.Describes d) (hd : d.WellFormed) (edits : List Edit) :
    (edits.foldl add l).Describes (d.editAll edits) := by
  induction edits generalizing l d with
  | nil => exact h
  | cons e edits ih => exact ih (h.edit hd e) (hd.edit e)

/-- **A listing describes one well-formed automaton at most.** -/
theorem unique {d' : Automaton} (h : l.Describes d) (h' : l.Describes d') (hd : d.WellFormed)
    (hd' : d'.WellFormed) : d = d' := by
  refine hd.ext_successor hd' (h.states_eq.trans h'.states_eq.symm) ?_
    (h.start_eq.trans h'.start_eq.symm) ?_ fun p c => ?_
  · exact Alphabet.ext_symbols (h.symbols_eq.trans h'.symbols_eq.symm)
  · refine IdSet.ext_mem fun id => ?_
    rw [← Automaton.isAccepting_iff, ← Automaton.isAccepting_iff, h.isAccepting_iff,
      h'.isAccepting_iff]
  · rw [h.successor_eq, h'.successor_eq]

end Describes

end Listing

end AutomatonKit
