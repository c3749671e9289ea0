import Mathlib
import AutomatonKit.Proofs.Automaton.Successor
import AutomatonKit.Proofs.Run.Stepping

/-!
# Runs and the transition function

What a run on an input is meant to be can be said without any run: iterate the transition function
along the input as far as it is defined (`Automaton.follow?`), and then look at what comes next
(`Automaton.diagnosis`).  `Automaton.trace_follows_longest_walk` says that this is what a trace
records, and that its verdict is this diagnosis.

A step asks three questions in turn: whether the symbol is known, whether the row of the state has
any cell, and whether the edge exists.  An edge answers all three, in any automaton
(`step_going_of_successor`).  Where there is no edge, the second question stands for whether any
edge leaves the state only because rows of a well-formed automaton do not end in an empty cell
(`step_going_of_none`).
-/

namespace AutomatonKit

namespace Automaton

/-! ### Walks -/

/-- Edges that lead from one state to another: each is an edge of the automaton and begins where the
one before it ends. -/
inductive Walk (d : Automaton) : StateId → List Transition → StateId → Prop where
  | nil (p : StateId) : Walk d p [] p
  | cons {p q last : StateId} {c : Char} {edges : List Transition}
      (first : d.successor p c = some q) (rest : Walk d q edges last) :
      Walk d p (⟨p, c, q⟩ :: edges) last

/-- The state to which the transition function leads from a state when it is iterated along an
input, if it is defined all the way. -/
def follow? (d : Automaton) (p : StateId) (w : List Char) : Option StateId :=
  w.foldlM d.successor p

variable {d : Automaton} {p q : StateId} {c : Char} {edges : List Transition} {w rest : List Char}

theorem follow?_cons (d : Automaton) (p : StateId) (c : Char) (w : List Char) :
    d.follow? p (c :: w) = (d.successor p c).bind fun q => d.follow? q w :=
  List.foldlM_cons ..

/-- To follow the symbols of a walk and some more is to follow these from its end. -/
theorem Walk.follow?_append (h : d.Walk p edges q) (rest : List Char) :
    d.follow? p (edges.map Transition.symbol ++ rest) = d.follow? q rest := by
  induction h with
  | nil p => rfl
  | cons first _ ih => rw [List.map_cons, List.cons_append, follow?_cons, first, Option.bind_some, ih]

theorem Walk.getLast?_targets (h : d.Walk p edges q) :
    (p :: edges.map Transition.target).getLast? = some q := by
  induction h with
  | nil p => rfl
  | cons first _ ih => rw [List.map_cons, List.getLast?_cons_cons, ih]

/-- Along every input there is a walk that cannot be continued. -/
theorem exists_stuck_walk (d : Automaton) (p : StateId) (w : List Char) :
    ∃ edges q rest, d.Walk p edges q ∧ w = edges.map Transition.symbol ++ rest ∧
      ∀ c ∈ rest.head?, d.successor q c = none := by
  induction w generalizing p with
  | nil => exact ⟨[], p, [], .nil p, rfl, by simp⟩
  | cons c w ih =>
    cases hq : d.successor p c with
    | none => exact ⟨[], p, c :: w, .nil p, rfl, by simpa using hq⟩
    | some q =>
      obtain ⟨edges, last, rest, hwalk, hw, hrest⟩ := ih q
      refine ⟨⟨p, c, q⟩ :: edges, last, rest, .cons hq hwalk, ?_, hrest⟩
      rw [hw]
      rfl

/-- A walk that cannot be continued along an input is as long as any prefix of the input along which
the transition function is defined. -/
theorem Walk.isGreatest_length (h : d.Walk p edges q) (hw : w = edges.map Transition.symbol ++ rest)
    (hrest : ∀ c ∈ rest.head?, d.successor q c = none) :
    IsGreatest {n | n ≤ w.length ∧ (d.follow? p (w.take n)).isSome = true} edges.length := by
  have hlen : (edges.map Transition.symbol).length = edges.length := List.length_map ..
  constructor
  · refine ⟨by rw [hw, List.length_append, hlen]; omega, ?_⟩
    rw [hw, ← hlen, List.take_left, ← List.append_nil (edges.map _), h.follow?_append]
    rfl
  · rintro n ⟨hn, hsome⟩
    by_contra hlt
    rw [hw, List.take_append, List.take_of_length_le (by omega), hlen, h.follow?_append] at hsome
    rw [hw, List.length_append, hlen] at hn
    -- a longer prefix would have to follow the symbol at which the walk ends
    cases rest with
    | nil =>
      rw [List.length_nil] at hn
      omega
    | cons c rest =>
      obtain ⟨k, hk⟩ : ∃ k, n - edges.length = k + 1 := ⟨n - edges.length - 1, by omega⟩
      rw [hk, List.take_succ_cons, follow?_cons, hrest c (by simp)] at hsome
      simp at hsome

/-! ### What there is to say about an input -/

/-- No edge leaves the state. -/
def IsSink (d : Automaton) (p : StateId) : Prop :=
  ∀ c, d.successor p c = none

theorem isSink_iff_all {d : Automaton} {p : StateId} :
    d.alphabet.symbols.all (fun c => d.successor p c = none) = true ↔ d.IsSink p := by
  rw [List.all_eq_true, IsSink]
  simp only [decide_eq_true_eq]
  constructor
  · intro h c
    by_cases hc : c ∈ d.alphabet.symbols
    · exact h c hc
    · exact successor_of_not_mem hc p
  · intro h c _
    exact h c

instance (d : Automaton) (p : StateId) : Decidable (d.IsSink p) :=
  decidable_of_iff _ isSink_iff_all

/-- Why a symbol at a given position cannot be read in a state from which no edge on the symbol
leaves. -/
def obstacle (d : Automaton) (position : Nat) (p : StateId) (c : Char) : Rejection :=
  if c ∉ d.alphabet.symbols then .outsideAlphabet position c
  else if d.IsSink p then .noOutgoing position p
  else .missingTransition position p c

/-- What there is to say about an input that leads to a state with its first `n` symbols and no
further, given the symbol that comes next, if there is one. -/
def diagnosis (d : Automaton) (n : Nat) (q : StateId) : Option Char → Verdict
  | none => if q ∈ d.accepting.ids then .accepted else .rejected (.notAccepting q)
  | some c => .rejected (d.obstacle n q c)

end Automaton

/-! ### Runs along walks -/

namespace Run

open Automaton

variable {d : Automaton} {p q : StateId} {c : Char} {edges : List Transition} {rest : List Char}

/-- A run that is in a state and is not halted. -/
def going (p : StateId) (consumed : Nat) : Run :=
  ⟨some p, consumed, none⟩

theorem start_eq_going (h : d.start = some p) : start d = going p 0 := by
  rw [start, h]
  rfl

theorem halted_start_of_none (h : d.start = none) : (start d).halted = some .noStartState := by
  rw [start, h]
  rfl

/-- An edge passes all checks of a step. -/
theorem step_going_of_successor (hq : d.successor p c = some q) (n : Nat) :
    (going p n).step d c = (going p n).move ⟨p, c, q⟩ := by
  have hc : d.alphabet.contains c = true :=
    Alphabet.contains_iff.mpr (mem_symbols_of_successor hq)
  show (going p n).stepFrom d p c = _
  rw [stepFrom, hc, hasOutgoing_of_successor hq, hq]
  rfl

/-- **Where there is no edge**, the checks of a step find the obstacle. -/
theorem step_going_of_none (hd : d.WellFormed) (hnone : d.successor p c = none) (n : Nat) :
    (going p n).step d c = (going p n).halt (d.obstacle n p c) := by
  have hsink : d.hasOutgoing p = true ↔ ¬ d.IsSink p := by
    rw [hd.hasOutgoing_iff, IsSink, not_forall]
    exact exists_congr fun c => Option.ne_none_iff_exists'.symm
  show (going p n).stepFrom d p c = _
  rw [stepFrom, hnone, obstacle]
  by_cases hc : c ∈ d.alphabet.symbols
  · rw [Alphabet.contains_iff.mpr hc, if_neg (not_not.mpr hc)]
    by_cases hp : d.IsSink p
    · rw [Bool.eq_false_iff.mpr (mt hsink.mp (not_not.mpr hp)), if_pos hp]
      rfl
    · rw [hsink.mpr hp, if_neg hp]
      rfl
  · rw [Bool.eq_false_iff.mpr (mt Alphabet.contains_iff.mp hc), if_pos hc]
    rfl

/-- A run follows a walk to its end and records its edges. -/
theorem record_feed_of_walk (h : d.Walk p edges q) (n : Nat) :
    ((going p n).record d (edges.map Transition.symbol)).1 = edges ∧
      (going p n).feed d (edges.map Transition.symbol) = going q (n + edges.length) := by
  induction h generalizing n with
  | nil p => exact ⟨rfl, rfl⟩
  | cons first _ ih =>
    obtain ⟨hrecord, hfeed⟩ := ih (n + 1)
    have hstep := step_going_of_successor first n
    rw [List.map_cons, feed_cons, record_cons_of_move hstep, hstep, List.length_cons]
    refine ⟨congrArg _ hrecord, hfeed.trans ?_⟩
    rw [Nat.add_assoc, Nat.add_comm 1]

/-- A run that cannot follow the next symbol records nothing more, and its verdict is the
diagnosis. -/
theorem record_feed_of_stuck (hd : d.WellFormed) (n : Nat)
    (hrest : ∀ c ∈ rest.head?, d.successor q c = none) :
    ((going q n).record d rest).1 = [] ∧
      ((going q n).feed d rest).verdict d = d.diagnosis n q rest.head? := by
  cases rest with
  | nil =>
    refine ⟨rfl, ?_⟩
    show (if d.isAccepting q then _ else _) = if _ then _ else _
    exact if_congr isAccepting_iff rfl rfl
  | cons c rest =>
    have hstep := step_going_of_none hd (hrest c (by simp)) n
    rw [record_cons_of_halt hstep, feed_cons, hstep, feed_halt]
    exact ⟨rfl, rfl⟩

end Run

/-! ### Traces -/

/-- A trace follows a walk that takes it along the first `n` symbols of an input from one state to
another. -/
structure Trace.Follows (t : Trace) (d : Automaton) (w : List Char) (s : StateId) (n : Nat)
    (q : StateId) : Prop where
  walk : d.Walk s t.steps q
  symbols_eq : t.steps.map Transition.symbol = w.take n
  length_steps : t.steps.length = n
  /-- The path consists of the first state and the targets of the edges. -/
  path_eq : t.path = s :: t.steps.map Transition.target
  length_path : t.path.length = n + 1
  getLast?_path : t.path.getLast? = some q
  finalState?_eq : t.finalState? = some q

namespace Automaton

variable {d : Automaton} {s q : StateId} {edges : List Transition} {rest : List Char}

theorem trace_of_start_eq_none (h : d.start = none) (w : List Char) :
    d.trace w = ⟨none, [], .rejected .noStartState⟩ := by
  have hhalted := Run.halted_start_of_none h
  rw [trace_eq, h, Run.record_of_halted hhalted, Run.feed_of_halted hhalted, Run.verdict, hhalted]

/-- The trace of an input along which there is a walk that cannot be continued. -/
theorem trace_of_stuck_walk (hd : d.WellFormed) (hs : d.start = some s) (hwalk : d.Walk s edges q)
    (hrest : ∀ c ∈ rest.head?, d.successor q c = none) :
    d.trace (edges.map Transition.symbol ++ rest) =
      ⟨some s, edges, d.diagnosis edges.length q rest.head?⟩ := by
  obtain ⟨hrecord, hfeed⟩ := Run.record_feed_of_walk hwalk 0
  obtain ⟨hnil, hverdict⟩ := Run.record_feed_of_stuck hd (0 + edges.length) hrest
  rw [trace_eq, Run.start_eq_going hs, hs, Run.record_append_fst, hrecord, Run.feed_append, hfeed,
    hnil, hverdict, List.append_nil, Nat.zero_add]

/-- **Simulation is exact.**  Without a start state a trace is empty.  Otherwise it follows the
longest prefix of the input along which the transition function can be iterated from the start
state, and its verdict is what there is to say about the end of this walk and the symbol after
it.  An input is accepted if this is its verdict. -/
theorem trace_follows_longest_walk (d : Automaton) (hd : d.violation? = none) (w : List Char) :
    (d.start = none →
      (d.trace w).path = [] ∧ (d.trace w).steps = [] ∧
        (d.trace w).verdict = .rejected .noStartState) ∧
    (∀ s, d.start = some s → ∃ n q,
      IsGreatest {m | m ≤ w.length ∧ (d.follow? s (w.take m)).isSome = true} n ∧
      d.follow? s (w.take n) = some q ∧
      (d.trace w).Follows d w s n q ∧
      (d.trace w).verdict = d.diagnosis n q w[n]?) ∧
    (d.accepts w = true ↔ (d.trace w).verdict = .accepted) := by
  rw [violation?_eq_none_iff] at hd
  refine ⟨fun h => ?_, fun s hs => ?_, ?_⟩
  · rw [trace_of_start_eq_none h]
    exact ⟨rfl, rfl, rfl⟩
  · obtain ⟨edges, q, rest, hwalk, rfl, hrest⟩ := exists_stuck_walk d s w
    have hlen : (edges.map Transition.symbol).length = edges.length := List.length_map ..
    have htake : (edges.map Transition.symbol ++ rest).take edges.length =
        edges.map Transition.symbol := by
      rw [← hlen, List.take_left]
    refine ⟨edges.length, q, hwalk.isGreatest_length rfl hrest, ?_, ?_, ?_⟩
    · rw [htake, ← List.append_nil (edges.map _), hwalk.follow?_append]
      rfl
    · have hlast := hwalk.getLast?_targets
      rw [trace_of_stuck_walk hd hs hwalk hrest]
      refine ⟨hwalk, htake.symm, rfl, rfl, ?_, hlast, ?_⟩
      · simp [Trace.path]
      · rw [List.getLast?_cons, List.getLast?_map] at hlast
        show (edges.getLast?.map Transition.target).or (some s) = some q
        rw [← hlast]
        cases edges.getLast? <;> rfl
    · rw [trace_of_stuck_walk hd hs hwalk hrest, List.getElem?_append_right (Nat.le_of_eq hlen),
        hlen, Nat.sub_self, ← List.head?_eq_getElem?]
  · rw [accepts_eq, Trace.isAccepted]
    cases (d.trace w).verdict <;> simp [Verdict.isAccepted]

/-- Two states, with an edge to the second and none from it. -/
def deadEnd : Automaton where
  states := [{ name := "entry" }, { name := "exit" }]
  alphabet := .ofList ['a', 'b']
  table := [[none, some 1], []]
  start := some 0
  accepting := .empty

/-- In `deadEnd` the input `baa` leads along one edge, and there is none to follow from there. -/
theorem trace_follows_longest_walk_deadEnd :
    deadEnd.violation? = none ∧ deadEnd.start = some 0 ∧ ∃ n q,
      (deadEnd.trace ['b', 'a', 'a']).Follows deadEnd ['b', 'a', 'a'] 0 n q ∧
        (deadEnd.trace ['b', 'a', 'a']).verdict = .rejected (.noOutgoing n q) := by
  have hd : deadEnd.violation? = none := by decide
  obtain ⟨-, hwalk, -⟩ := trace_follows_longest_walk deadEnd hd ['b', 'a', 'a']
  obtain ⟨n, q, -, hq, hfollows, hverdict⟩ := hwalk 0 rfl
  refine ⟨hd, rfl, n, q, hfollows, ?_⟩
  have hn : n = 1 := by
    rw [← hfollows.length_steps]
    decide
  rw [hverdict, hn]
  rw [hn] at hq
  obtain rfl : 1 = q := Option.some.inj hq
  decide

end Automaton

end AutomatonKit
