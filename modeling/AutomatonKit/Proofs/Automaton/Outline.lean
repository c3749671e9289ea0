import Mathlib
import AutomatonKit.Proofs.Automaton.Successor

/-!
# Automata without tables

An `Outline` is an automaton as its users know it: states, a start state, a set of accepting states,
a set of symbols, and a finite map from a state and a symbol to the next state.  There are no rows
and no columns, and writing a transition is an update of the map.

`Automaton.Shows` says that an automaton and an outline cannot be told apart by any of the basic
reads.  An edit has the same reply for both and leaves two that show the same (`Shows.edit`), and so
does a run of edits (`Shows.editAll`).  `edits_refine_outline` states it for automata that are built
from nothing: a short row, a new column or a late state never shows.
-/

namespace AutomatonKit

/-- An automaton as its users know it. -/
structure Outline where
  states : List State
  start : Option StateId
  accepting : Finset StateId
  symbols : Finset Char
  /-- The target for each pair of a state and a symbol that has one. -/
  targets : Finmap fun _ : StateId × Char => StateId

namespace Outline

def empty : Outline :=
  ⟨[], none, ∅, ∅, ∅⟩

def edit (o : Outline) : Edit → Outline × Edit.Reply
  | .addState s =>
    ({ o with
        states := o.states ++ [s]
        accepting := if s.accepting then insert o.states.length o.accepting else o.accepting },
      .registered o.states.length)
  | .setStart id =>
    if id < o.states.length then ({ o with start := some id }, .applied true)
    else (o, .applied false)
  | .addAccepting id =>
    if id < o.states.length then
      ({ o with
          states := o.states.modify id fun s => { s with accepting := true }
          accepting := insert id o.accepting },
        .applied true)
    else (o, .applied false)
  | .addSymbol c => ({ o with symbols := insert c o.symbols }, .silent)
  | .addTransition p c q =>
    if p < o.states.length ∧ q < o.states.length then
      ({ o with symbols := insert c o.symbols, targets := o.targets.insert (p, c) q },
        .applied true)
    else (o, .applied false)

def editAll (o : Outline) (edits : List Edit) : Outline :=
  edits.foldl (fun o e => (o.edit e).1) o

end Outline

namespace Automaton

/-- What can be read of an automaton is what an outline says. -/
structure Shows (d : Automaton) (o : Outline) : Prop where
  state?_eq : ∀ id, d.state? id = o.states[id]?
  contains_eq : ∀ id, d.contains id = decide (id < o.states.length)
  start_eq : d.start = o.start
  isAccepting_eq : ∀ id, d.isAccepting id = decide (id ∈ o.accepting)
  contains_symbol_eq : ∀ c, d.alphabet.contains c = decide (c ∈ o.symbols)
  successor_eq : ∀ p c, d.successor p c = o.targets.lookup (p, c)

variable {d : Automaton} {o : Outline}

theorem Shows.intro (hstates : d.states = o.states) (hstart : d.start = o.start)
    (haccepting : ∀ id, id ∈ d.accepting.ids ↔ id ∈ o.accepting)
    (hsymbols : ∀ c, c ∈ d.alphabet.symbols ↔ c ∈ o.symbols)
    (hsuccessor : ∀ p c, d.successor p c = o.targets.lookup (p, c)) : d.Shows o where
  state?_eq id := by rw [state?, hstates]
  contains_eq id := by rw [contains, stateCount, hstates]
  start_eq := hstart
  isAccepting_eq id := by
    rw [Bool.eq_iff_iff, isAccepting_iff, decide_eq_true_eq]
    exact haccepting id
  contains_symbol_eq c := by
    rw [Bool.eq_iff_iff, Alphabet.contains_iff, decide_eq_true_eq]
    exact hsymbols c
  successor_eq := hsuccessor

namespace Shows

theorem states_eq (h : d.Shows o) : d.states = o.states :=
  List.ext_getElem? h.state?_eq

theorem stateCount_eq (h : d.Shows o) : d.stateCount = o.states.length := by
  rw [stateCount, h.states_eq]

theorem mem_accepting_iff (h : d.Shows o) (id : StateId) :
    id ∈ d.accepting.ids ↔ id ∈ o.accepting := by
  rw [← isAccepting_iff, h.isAccepting_eq, decide_eq_true_eq]

theorem mem_symbols_iff (h : d.Shows o) (c : Char) : c ∈ d.alphabet.symbols ↔ c ∈ o.symbols := by
  rw [← Alphabet.contains_iff, h.contains_symbol_eq, decide_eq_true_eq]

theorem mem_symbols_insert_iff (h : d.Shows o) (c x : Char) :
    x ∈ (d.alphabet.insert c).symbols ↔ x ∈ insert c o.symbols := by
  rw [Alphabet.mem_insert, h.mem_symbols_iff, Finset.mem_insert]

theorem empty : Automaton.empty.Shows .empty :=
  .intro rfl rfl (fun _ => Iff.rfl) (fun _ => Iff.rfl) fun _ _ => rfl

/-! ### One edit -/

theorem addState (h : d.Shows o) (s : State) :
    (d.addState s).1.Shows (o.edit (.addState s)).1 := by
  refine .intro ?_ h.start_eq (fun id => ?_) h.mem_symbols_iff fun p c => ?_
  · show d.states ++ [s] = o.states ++ [s]
    rw [h.states_eq]
  · rw [mem_accepting_addState, h.mem_accepting_iff, h.stateCount_eq]
    show _ ↔ id ∈ if s.accepting then _ else _
    cases s.accepting <;> simp
  · rw [successor_addState]
    exact h.successor_eq p c

theorem setStart (h : d.Shows o) (id : StateId) :
    (d.setStart id).1.Shows (o.edit (.setStart id)).1 ∧
      .applied (d.setStart id).2 = (o.edit (.setStart id)).2 := by
  rw [Outline.edit, ← h.stateCount_eq]
  by_cases hid : id < d.stateCount
  · rw [setStart_of_lt hid, if_pos hid]
    exact ⟨.intro h.states_eq rfl h.mem_accepting_iff h.mem_symbols_iff h.successor_eq, rfl⟩
  · rw [setStart_of_not_lt hid, if_neg hid]
    exact ⟨h, rfl⟩

theorem addAccepting (h : d.Shows o) (id : StateId) :
    (d.addAccepting id).1.Shows (o.edit (.addAccepting id)).1 ∧
      .applied (d.addAccepting id).2 = (o.edit (.addAccepting id)).2 := by
  rw [Outline.edit, ← h.stateCount_eq]
  by_cases hid : id < d.stateCount
  · rw [addAccepting_of_lt hid, if_pos hid]
    refine ⟨.intro ?_ h.start_eq (fun x => ?_) h.mem_symbols_iff h.successor_eq, rfl⟩
    · show d.states.modify id _ = o.states.modify id _
      rw [h.states_eq]
    · rw [IdSet.mem_insert, h.mem_accepting_iff, Finset.mem_insert]
  · rw [addAccepting_of_not_lt hid, if_neg hid]
    exact ⟨h, rfl⟩

theorem addSymbol (h : d.Shows o) (hd : d.WellFormed) (c : Char) :
    (d.addSymbol c).Shows (o.edit (.addSymbol c)).1 :=
  .intro h.states_eq h.start_eq h.mem_accepting_iff (h.mem_symbols_insert_iff c)
    fun p x => (hd.successor_addSymbol c p x).trans (h.successor_eq p x)

theorem addTransition (h : d.Shows o) (hd : d.WellFormed) (p : StateId) (c : Char) (q : StateId) :
    (d.addTransition p c q).1.Shows (o.edit (.addTransition p c q)).1 ∧
      .applied (d.addTransition p c q).2 = (o.edit (.addTransition p c q)).2 := by
  rw [Outline.edit, ← h.stateCount_eq]
  by_cases hpq : p < d.stateCount ∧ q < d.stateCount
  · have hsuccessor := hd.successor_addTransition c hpq.1 hpq.2
    rw [addTransition_of_lt c hpq.1 hpq.2] at hsuccessor ⊢
    rw [if_pos hpq]
    refine ⟨.intro h.states_eq h.start_eq h.mem_accepting_iff (h.mem_symbols_insert_iff c)
      fun x y => ?_, rfl⟩
    -- both sides are changed at the source and symbol of the write only
    rw [hsuccessor]
    by_cases hxy : x = p ∧ y = c
    · obtain ⟨rfl, rfl⟩ := hxy
      rw [if_pos ⟨rfl, rfl⟩, Finmap.lookup_insert]
    · have hne : (x, y) ≠ (p, c) := fun he => hxy (Prod.mk.inj he)
      rw [if_neg hxy, Finmap.lookup_insert_of_ne _ hne]
      exact h.successor_eq x y
  · rw [addTransition_of_not_lt c hpq, if_neg hpq]
    exact ⟨h, rfl⟩

/-- **An edit does the same to both**, and has the same reply. -/
theorem edit (h : d.Shows o) (hd : d.WellFormed) (e : Edit) :
    (d.edit e).1.Shows (o.edit e).1 ∧ (d.edit e).2 = (o.edit e).2 := by
  cases e with
  | addState s => exact ⟨h.addState s, congrArg Edit.Reply.registered h.stateCount_eq⟩
  | setStart id => exact h.setStart id
  | addAccepting id => exact h.addAccepting id
  | addSymbol c => exact ⟨h.addSymbol hd c, rfl⟩
  | addTransition p c q => exact h.addTransition hd p c q

/-! ### A run of edits -/

theorem editAll (h : d.Shows o) (hd : d.WellFormed) (edits : List Edit) :
    (d.editAll edits).Shows (o.editAll edits) := by
  induction edits generalizing d o with
  | nil => exact h
  | cons e edits ih => exact ih (h.edit hd e).1 (hd.edit e)

end Shows

/-- **The table is invisible.**  After any edits of the empty automaton, whatever numbers they refer
to, all that can be read is what the same edits make of an outline.  The next edit is always
possible and has the reply that the outline gives; if it is refused, it changes nothing at all.  The
flag of a state always says whether the state is accepting. -/
theorem edits_refine_outline (edits : List Edit) :
    (empty.editAll edits).Shows (Outline.empty.editAll edits) ∧
    (∀ e : Edit,
      (empty.editAll edits).edit? e = some ((empty.editAll edits).edit e) ∧
      ((empty.editAll edits).edit e).2 = ((Outline.empty.editAll edits).edit e).2 ∧
      (((empty.editAll edits).edit e).2 = .applied false →
        ((empty.editAll edits).edit e).1 = empty.editAll edits)) ∧
    ∀ (id : StateId) (s : State), (empty.editAll edits).state? id = some s →
      s.accepting = (empty.editAll edits).isAccepting id := by
  have hd : (empty.editAll edits).WellFormed := wellFormed_empty.editAll edits
  have hshows := Shows.empty.editAll wellFormed_empty edits
  refine ⟨hshows, fun e => ⟨hd.edit?_eq e, (hshows.edit hd e).2, edit_fst_of_refused⟩,
    fun id s hs => ?_⟩
  have hs : (empty.editAll edits).states[id]? = some s := hs
  rw [Bool.eq_iff_iff, isAccepting_iff, hd.mem_accepting_iff]
  simp [hs]

/-- Edits that refer to states before and after these are registered. -/
def scatteredEdits : List Edit :=
  [.setStart 0, .addState { name := "a", accepting := true }, .addSymbol 'y',
    .addTransition 0 'x' 1, .addState { name := "b" }, .addTransition 1 'x' 0,
    .addTransition 0 'x' 1, .addTransition 0 'x' 0, .setStart 1]

/-- After `scatteredEdits` a transition to an unregistered state is refused without any effect. -/
theorem edits_refine_outline_scattered :
    ((empty.editAll scatteredEdits).edit (.addTransition 1 'z' 2)).2 = .applied false ∧
    ((empty.editAll scatteredEdits).edit (.addTransition 1 'z' 2)).1 =
      empty.editAll scatteredEdits ∧
    (empty.editAll scatteredEdits).state? 0 = some ⟨"a", true⟩ ∧
    true = (empty.editAll scatteredEdits).isAccepting 0 := by
  obtain ⟨-, hedit, hflag⟩ := edits_refine_outline scatteredEdits
  have hrefused : ((empty.editAll scatteredEdits).edit (.addTransition 1 'z' 2)).2 =
      .applied false := by decide
  have hstate : (empty.editAll scatteredEdits).state? 0 = some ⟨"a", true⟩ := by decide
  exact ⟨hrefused, (hedit _).2.2 hrefused, hstate, hflag 0 _ hstate⟩

end Automaton

end AutomatonKit
