import Mathlib
import AutomatonKit.Proofs.Run.Walk

/-!
# What edits do to the accepted inputs

An input is accepted if the transition function leads from the start state to an accepting state
along all of it (`accepts_iff`).  So an edit matters to an input only where it changes the start
state, the accepting states, or a value of the transition function that the walk along the input
asks for.  `Reads` says which values these are: those at the states and symbols that the walk meets,
the pair at which it gets stuck included.  Two automata that agree on them lead to the same state
(`follow?_congr`) and record the same edges (`Run.record_congr`).

`edits_affect_accepts` goes through the edits.  A new symbol and a new state are on no walk.  A new
accepting state counts for the inputs that end in it, and a new transition for those that come to
its source and have its symbol to read there.  This needs a well-formed automaton: in another one
the column of a new symbol may have a target already, and an edge may lead to the number that a new
state is going to get.
-/

namespace AutomatonKit

namespace Automaton

variable {d d' : Automaton} {p q : StateId} {c : Char} {w : List Char}

/-! ### Following an input -/

theorem follow?_cons_of_successor (h : d.successor p c = some q) (w : List Char) :
    d.follow? p (c :: w) = d.follow? q w := by
  rw [follow?_cons, h, Option.bind_some]

theorem follow?_cons_of_none (h : d.successor p c = none) (w : List Char) :
    d.follow? p (c :: w) = none := by
  rw [follow?_cons, h, Option.bind_none]

/-- The transition function of a well-formed automaton leads from states to states. -/
theorem WellFormed.lt_of_follow? (h : d.WellFormed) (hp : p < d.stateCount)
    (hq : d.follow? p w = some q) : q < d.stateCount := by
  induction w generalizing p with
  | nil =>
    obtain rfl : p = q := Option.some.inj hq
    exact hp
  | cons c w ih =>
    cases hr : d.successor p c with
    | none =>
      rw [follow?_cons_of_none hr] at hq
      exact nomatch hq
    | some r =>
      rw [follow?_cons_of_successor hr] at hq
      exact ih (h.lt_of_successor hr).2 hq

/-- More transitions lead at least as far. -/
theorem follow?_mono (h : ∀ p c q, d.successor p c = some q → d'.successor p c = some q)
    (hq : d.follow? p w = some q) : d'.follow? p w = some q := by
  induction w generalizing p with
  | nil => exact hq
  | cons c w ih =>
    cases hr : d.successor p c with
    | none =>
      rw [follow?_cons_of_none hr] at hq
      exact nomatch hq
    | some r =>
      rw [follow?_cons_of_successor hr] at hq
      rw [follow?_cons_of_successor (h p c r hr)]
      exact ih hq

/-- The walk from a state along an input has to read a symbol in a state, whether there is an edge
for it or not. -/
inductive Reads (d : Automaton) : StateId → List Char → StateId → Char → Prop where
  | now (p : StateId) (c : Char) (w : List Char) : Reads d p (c :: w) p c
  | later {p q r : StateId} {c x : Char} {w : List Char} (first : d.successor p c = some q)
      (rest : Reads d q w r x) : Reads d p (c :: w) r x

/-- **Automata that agree on what the walk asks for** lead to the same state. -/
theorem follow?_congr (h : ∀ r x, d.Reads p w r x → d'.successor r x = d.successor r x) :
    d'.follow? p w = d.follow? p w := by
  induction w generalizing p with
  | nil => rfl
  | cons c w ih =>
    have hfirst : d'.successor p c = d.successor p c := h p c (.now p c w)
    rw [follow?_cons, follow?_cons, hfirst]
    cases hq : d.successor p c with
    | none => rfl
    | some q => exact ih fun r x hr => h r x (.later hq hr)

end Automaton

/-! ### Runs -/

namespace Run

open Automaton

variable {d d' : Automaton} {p q : StateId} {c : Char} {w : List Char}

/-- A run stops where there is no edge, for whatever reason. -/
theorem exists_halt_of_successor_eq_none (h : d.successor p c = none) (n : Nat) :
    ∃ r, (going p n).step d c = (going p n).halt r := by
  rcases step_cases (going p n) d c with ⟨p', q, -, hp, hq, -⟩ | ⟨r, -, hstep⟩
  · obtain rfl : p = p' := Option.some.inj hp
    rw [h] at hq
    exact nomatch hq
  · exact ⟨r, hstep⟩

theorem feed_going_of_follow? (h : d.follow? p w = some q) (n : Nat) :
    (going p n).feed d w = going q (n + w.length) := by
  induction w generalizing p n with
  | nil =>
    obtain rfl : p = q := Option.some.inj h
    rfl
  | cons c w ih =>
    cases hr : d.successor p c with
    | none =>
      rw [follow?_cons_of_none hr] at h
      exact nomatch h
    | some r =>
      rw [follow?_cons_of_successor hr] at h
      have hrest : (going r (n + 1)).feed d w = going q (n + 1 + w.length) := ih h (n + 1)
      rw [feed_cons, step_going_of_successor hr, List.length_cons, ← Nat.add_assoc,
        Nat.add_right_comm]
      exact hrest

/-- Where an input cannot be followed to its end, the run is halted and some of it is left. -/
theorem feed_going_of_follow?_eq_none (h : d.follow? p w = none) (n : Nat) :
    ((going p n).feed d w).isHalted = true ∧ ((going p n).feed d w).consumed < n + w.length := by
  induction w generalizing p n with
  | nil => exact nomatch h
  | cons c w ih =>
    rw [feed_cons, List.length_cons]
    cases hr : d.successor p c with
    | none =>
      obtain ⟨r, hstep⟩ := exists_halt_of_successor_eq_none hr n
      have hconsumed : ((going p n).halt r).1.consumed = n := rfl
      rw [hstep, feed_halt, hconsumed]
      exact ⟨rfl, by omega⟩
    | some r =>
      rw [follow?_cons_of_successor hr] at h
      obtain ⟨hhalted, hlt⟩ := ih h (n + 1)
      rw [step_going_of_successor hr]
      refine ⟨hhalted, ?_⟩
      show ((going r (n + 1)).feed d w).consumed < n + (w.length + 1)
      omega

/-- **A run consumes an input and ends in a state** exactly if the transition function leads there
from the start state. -/
theorem consumed_current_iff :
    ((start d).feed d w).consumed = w.length ∧ ((start d).feed d w).current = some q ↔
      ∃ s, d.start = some s ∧ d.follow? s w = some q := by
  cases hs : d.start with
  | none =>
    have hcurrent : ((start d).feed d w).current = none := by
      rw [feed_of_halted (halted_start_of_none hs)]
      exact hs
    simp [hcurrent]
  | some s =>
    rw [start_eq_going hs]
    cases hr : d.follow? s w with
    | none =>
      have hlt := (feed_going_of_follow?_eq_none hr 0).2
      constructor
      · rintro ⟨hconsumed, -⟩
        omega
      · rintro ⟨s', hs', hq⟩
        obtain rfl := Option.some.inj hs'
        rw [hr] at hq
        exact nomatch hq
    | some r =>
      rw [feed_going_of_follow? hr]
      show 0 + w.length = w.length ∧ some r = some q ↔ _
      simp [hr]

/-- **Automata that agree on what the walk asks for** record the same edges. -/
theorem record_congr (h : ∀ r x, d.Reads p w r x → d'.successor r x = d.successor r x) (n : Nat) :
    ((going p n).record d' w).1 = ((going p n).record d w).1 := by
  induction w generalizing p n with
  | nil => rfl
  | cons c w ih =>
    have hfirst : d'.successor p c = d.successor p c := h p c (.now p c w)
    cases hq : d.successor p c with
    | none =>
      -- both runs stop here, if not for the same reason
      obtain ⟨r, hstep⟩ := exists_halt_of_successor_eq_none hq n
      obtain ⟨r', hstep'⟩ := exists_halt_of_successor_eq_none (hfirst.trans hq) n
      rw [record_cons_of_halt hstep, record_cons_of_halt hstep']
    | some q =>
      have hrest : ((going q (n + 1)).record d' w).1 = ((going q (n + 1)).record d w).1 :=
        ih (fun r x hr => h r x (.later hq hr)) (n + 1)
      rw [record_cons_of_move (step_going_of_successor hq n),
        record_cons_of_move (step_going_of_successor (hfirst.trans hq) n)]
      exact congrArg (List.cons _) hrest

end Run

/-! ### Accepted inputs -/

namespace Automaton

variable {d d' : Automaton} {p q : StateId} {c : Char} {w : List Char}

/-- **An input is accepted** if the transition function leads from the start state to an accepting
state. -/
theorem accepts_iff :
    d.accepts w = true ↔
      ∃ s q, d.start = some s ∧ d.follow? s w = some q ∧ q ∈ d.accepting.ids := by
  rw [accepts, Run.accepts_eq_isAccepting_feed]
  cases hs : d.start with
  | none =>
    have hhalted := Run.halted_start_of_none hs
    rw [Run.feed_of_halted hhalted, Run.isAccepting, hhalted]
    simp
  | some s =>
    rw [Run.start_eq_going hs]
    cases hq : d.follow? s w with
    | none =>
      obtain ⟨hhalted, -⟩ := Run.feed_going_of_follow?_eq_none hq 0
      obtain ⟨r, hr⟩ := Option.isSome_iff_exists.mp hhalted
      rw [Run.isAccepting, hr]
      simp [hq]
    | some q =>
      rw [Run.feed_going_of_follow? hq]
      show d.isAccepting q = true ↔ _
      rw [isAccepting_iff]
      simp [hq]

/-- Two automata accept an input alike if they have the same start state, agree on what the walk
asks for, and agree on whether the state at its end is accepting. -/
theorem accepts_congr (hstart : d'.start = d.start)
    (hreads : ∀ s, d.start = some s → ∀ r x, d.Reads s w r x →
      d'.successor r x = d.successor r x)
    (haccepting : ∀ s q, d.start = some s → d.follow? s w = some q →
      (q ∈ d'.accepting.ids ↔ q ∈ d.accepting.ids)) :
    d'.accepts w = d.accepts w := by
  rw [Bool.eq_iff_iff, accepts_iff, accepts_iff, hstart]
  refine exists_congr fun s => exists_congr fun q => and_congr_right fun hs => ?_
  rw [follow?_congr (hreads s hs)]
  exact and_congr_right fun hq => haccepting s q hs hq

theorem steps_trace_congr (hstart : d'.start = d.start)
    (hreads : ∀ s, d.start = some s → ∀ r x, d.Reads s w r x →
      d'.successor r x = d.successor r x) :
    (d'.trace w).steps = (d.trace w).steps := by
  cases hs : d.start with
  | none => rw [trace_of_start_eq_none hs, trace_of_start_eq_none (hstart.trans hs)]
  | some s =>
    rw [trace_eq, trace_eq, Run.start_eq_going hs, Run.start_eq_going (hstart.trans hs)]
    exact Run.record_congr (hreads s hs) 0

/-! ### The edits -/

theorem WellFormed.accepts_addSymbol (h : d.WellFormed) (c : Char) (w : List Char) :
    (d.addSymbol c).accepts w = d.accepts w :=
  accepts_congr rfl (fun _ _ r x _ => h.successor_addSymbol c r x) fun _ _ _ _ => Iff.rfl

/-- No walk ends in a state that has just been registered. -/
theorem WellFormed.accepts_addState (h : d.WellFormed) (s : State) (w : List Char) :
    (d.addState s).1.accepts w = d.accepts w := by
  refine accepts_congr rfl (fun _ _ r x _ => successor_addState s r x) fun p q hp hq => ?_
  have hlt : q < d.stateCount := h.lt_of_follow? (h.start_lt p hp) hq
  rw [mem_accepting_addState]
  simp [hlt.ne]

theorem accepts_addAccepting (hq : q < d.stateCount) (w : List Char) :
    (d.addAccepting q).1.accepts w = true ↔
      d.accepts w = true ∨ ∃ s, d.start = some s ∧ d.follow? s w = some q := by
  have hsuccessor : ∀ p c, (d.addAccepting q).1.successor p c = d.successor p c := by
    intro p c
    rw [addAccepting_of_lt hq]
    rfl
  have hfollow : ∀ s, (d.addAccepting q).1.follow? s w = d.follow? s w :=
    fun s => follow?_congr fun p c _ => hsuccessor p c
  have hstart : (d.addAccepting q).1.start = d.start := by
    rw [addAccepting_of_lt hq]
  have haccepting : ∀ x, x ∈ (d.addAccepting q).1.accepting.ids ↔ x = q ∨ x ∈ d.accepting.ids := by
    intro x
    rw [addAccepting_of_lt hq]
    exact IdSet.mem_insert
  rw [accepts_iff, accepts_iff, hstart]
  simp only [hfollow, haccepting]
  constructor
  · rintro ⟨s, x, hs, hx, rfl | hmem⟩
    · exact Or.inr ⟨s, hs, hx⟩
    · exact Or.inl ⟨s, x, hs, hx, hmem⟩
  · rintro (⟨s, x, hs, hx, hmem⟩ | ⟨s, hs, hx⟩)
    · exact ⟨s, x, hs, hx, Or.inr hmem⟩
    · exact ⟨s, q, hs, hx, Or.inl rfl⟩

/-- A transition does not matter to a walk that does not ask for it. -/
theorem WellFormed.accepts_addTransition_of_not_reads (h : d.WellFormed) (hp : p < d.stateCount)
    (hq : q < d.stateCount) (hreads : ∀ s, d.start = some s → ¬ d.Reads s w p c) :
    (d.addTransition p c q).1.accepts w = d.accepts w ∧
      ((d.addTransition p c q).1.trace w).steps = (d.trace w).steps := by
  have hstart : (d.addTransition p c q).1.start = d.start := by
    rw [addTransition_of_lt c hp hq]
  have haccepting : (d.addTransition p c q).1.accepting = d.accepting := by
    rw [addTransition_of_lt c hp hq]
  have hagree : ∀ s, d.start = some s → ∀ r x, d.Reads s w r x →
      (d.addTransition p c q).1.successor r x = d.successor r x := by
    intro s hs r x hrx
    have hne : ¬ (r = p ∧ x = c) := by
      rintro ⟨rfl, rfl⟩
      exact hreads s hs hrx
    rw [h.successor_addTransition c hp hq, if_neg hne]
  refine ⟨accepts_congr hstart hagree fun _ _ _ _ => ?_, steps_trace_congr hstart hagree⟩
  rw [haccepting]

/-- A transition that replaces none takes no input away. -/
theorem WellFormed.accepts_addTransition_of_successor_eq_none (h : d.WellFormed)
    (hp : p < d.stateCount) (hq : q < d.stateCount) (hnone : d.successor p c = none)
    (haccepts : d.accepts w = true) : (d.addTransition p c q).1.accepts w = true := by
  have hmore : ∀ x y z, d.successor x y = some z →
      (d.addTransition p c q).1.successor x y = some z := by
    intro x y z hz
    have hne : ¬ (x = p ∧ y = c) := by
      rintro ⟨rfl, rfl⟩
      rw [hnone] at hz
      exact nomatch hz
    rw [h.successor_addTransition c hp hq, if_neg hne, hz]
  obtain ⟨s, r, hs, hr, hmem⟩ := accepts_iff.mp haccepts
  have hr' : (d.addTransition p c q).1.follow? s w = some r := follow?_mono hmore hr
  rw [addTransition_of_lt c hp hq] at hr' ⊢
  exact accepts_iff.mpr ⟨s, r, hs, hr', hmem⟩

/-- **What edits do to the accepted inputs.**  In an automaton in which nothing is wrong, neither a
new symbol nor a new state changes whether an input is accepted.  Where a state becomes accepting,
the inputs that are accepted are those from before and those that a run consumes and ends in this
state.  A transition that is written makes no difference to an input, nor to the edges of its trace,
unless the walk along the input has to read the symbol in the source; and if it replaces no other
transition, all inputs that were accepted before still are. -/
theorem edits_affect_accepts (d : Automaton) (hd : d.violation? = none) (w : List Char) :
    (∀ c, (d.addSymbol c).accepts w = d.accepts w) ∧
    (∀ s, (d.addState s).1.accepts w = d.accepts w) ∧
    (∀ q, (d.addAccepting q).2 = true →
      ((d.addAccepting q).1.accepts w = true ↔
        d.accepts w = true ∨
          ((Run.start d).feed d w).consumed = w.length ∧
            ((Run.start d).feed d w).current = some q)) ∧
    ∀ p c q, (d.addTransition p c q).2 = true →
      ((∀ s, d.start = some s → ¬ d.Reads s w p c) →
        (d.addTransition p c q).1.accepts w = d.accepts w ∧
          ((d.addTransition p c q).1.trace w).steps = (d.trace w).steps) ∧
      (d.successor p c = none → d.accepts w = true →
        (d.addTransition p c q).1.accepts w = true) := by
  rw [violation?_eq_none_iff] at hd
  refine ⟨fun c => hd.accepts_addSymbol c w, fun s => hd.accepts_addState s w, fun q hdone => ?_,
    fun p c q hdone => ?_⟩
  · have hq : q < d.stateCount := by
      by_contra hq
      rw [addAccepting_of_not_lt hq] at hdone
      exact nomatch hdone
    rw [accepts_addAccepting hq, Run.consumed_current_iff]
  · have hpq : p < d.stateCount ∧ q < d.stateCount := by
      by_contra hpq
      rw [addTransition_of_not_lt c hpq] at hdone
      exact nomatch hdone
    exact ⟨hd.accepts_addTransition_of_not_reads hpq.1 hpq.2,
      hd.accepts_addTransition_of_successor_eq_none hpq.1 hpq.2⟩

/-- Two states with an edge from the first to the second, which is accepting. -/
def relay : Automaton where
  states := [{ name := "idle" }, { name := "busy", accepting := true }]
  alphabet := .ofList ['a', 'b']
  table := [[some 1], []]
  start := some 0
  accepting := .ofList [1]

/-- In `relay` the input `ab` gets stuck at its second symbol.  An edge that leads back on the first
one makes no difference to it, and the shorter input `a` is still accepted. -/
theorem edits_affect_accepts_relay :
    relay.violation? = none ∧
    ((relay.addAccepting 0).2 = true ∧ (relay.addAccepting 0).1.accepts [] = true) ∧
    ((relay.addTransition 1 'a' 0).2 = true ∧
      (∀ s, relay.start = some s → ¬ relay.Reads s ['a', 'b'] 1 'a') ∧
      ((relay.addTransition 1 'a' 0).1.trace ['a', 'b']).steps = [⟨0, 'a', 1⟩]) ∧
    relay.successor 1 'a' = none ∧ relay.accepts ['a'] = true ∧
      (relay.addTransition 1 'a' 0).1.accepts ['a'] = true := by
  have hd : relay.violation? = none := by decide
  have haccepting : (relay.addAccepting 0).2 = true := by decide
  have hedge : (relay.addTransition 1 'a' 0).2 = true := by decide
  have hreads : ∀ s, relay.start = some s → ¬ relay.Reads s ['a', 'b'] 1 'a' := by
    rintro s hs hread
    obtain rfl : 0 = s := Option.some.inj hs
    cases hread with
    | later first rest =>
      obtain rfl := Option.some.inj first
      cases rest with
      | later first' _ => exact nomatch first'
  have hnone : relay.successor 1 'a' = none := by decide
  have haccepts : relay.accepts ['a'] = true := by decide
  obtain ⟨-, -, hempty, -⟩ := edits_affect_accepts relay hd []
  obtain ⟨-, -, -, hstuck⟩ := edits_affect_accepts relay hd ['a', 'b']
  obtain ⟨-, -, -, hshort⟩ := edits_affect_accepts relay hd ['a']
  refine ⟨hd, ⟨haccepting, (hempty 0 haccepting).mpr (Or.inr ⟨rfl, rfl⟩)⟩,
    ⟨hedge, hreads, ?_⟩, hnone, haccepts, (hshort 1 'a' 0 hedge).2 hnone haccepts⟩
  rw [((hstuck 1 'a' 0 hedge).1 hreads).2]
  decide

end Automaton

end AutomatonKit
