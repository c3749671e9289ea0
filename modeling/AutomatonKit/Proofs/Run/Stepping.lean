import Mathlib
import AutomatonKit.Run.Trace

/-!
# Reading an input in pieces

Four loops read an input: `Run.feed`, `Run.record`, `Run.accepts`, and a caller who performs one
`Run.step` after the other.  They end at different symbols when the run gets stuck, yet all of them
come to the same run, because a halted run stays as it is (`feed_of_halted`).

* `step_cases` says what a single step can do.
* `feed_append` and `foldl_step_eq_feed` say that neither the pieces of an input matter nor whether
  they are fed or stepped through.
* `consumed_feed` and `current_feed` compare the run with the edges that are recorded.
* `deliver_agrees_with_trace` puts this together for an input that is delivered in portions.

None of this needs a well-formed automaton.
-/

namespace AutomatonKit

namespace Run

variable {run : Run} {d : Automaton} {c : Char} {edge : Transition} {r : Rejection}

/-! ### One step -/

/-- **What a symbol does to a run**: either the run follows an edge, or it keeps its place and is
halted from then on, if it was not before. -/
theorem step_cases (run : Run) (d : Automaton) (c : Char) :
    (∃ p q, run.halted = none ∧ run.current = some p ∧ d.successor p c = some q ∧
      run.step d c = run.move ⟨p, c, q⟩) ∨
    ∃ r, (run.halted = none ∨ run.halted = some r) ∧ run.step d c = run.halt r := by
  obtain ⟨current, consumed, halted⟩ := run
  cases halted with
  | some r => exact Or.inr ⟨r, Or.inr rfl, rfl⟩
  | none =>
    cases current with
    | none => exact Or.inr ⟨.noStartState, Or.inl rfl, rfl⟩
    | some p =>
      show (∃ p' q, _ ∧ _ ∧ _ ∧ stepFrom _ d p c = _) ∨ ∃ r, _ ∧ stepFrom _ d p c = _
      unfold stepFrom
      split
      · exact Or.inr ⟨_, Or.inl rfl, rfl⟩
      · split
        · exact Or.inr ⟨_, Or.inl rfl, rfl⟩
        · cases hq : d.successor p c with
          | none => exact Or.inr ⟨_, Or.inl rfl, rfl⟩
          | some q => exact Or.inl ⟨p, q, rfl, rfl, hq, rfl⟩

/-- A halted run answers every symbol with its rejection. -/
theorem step_of_halted (h : run.halted = some r) (d : Automaton) (c : Char) :
    run.step d c = (run, .halted r) := by
  unfold step
  rw [h]

/-! ### Feeding -/

/-- A halted run stays as it is. -/
theorem feed_of_halted (h : run.halted = some r) (d : Automaton) (w : List Char) :
    run.feed d w = run := by
  cases w with
  | nil => rfl
  | cons c w => rw [feed, step_of_halted h]

theorem feed_halt (run : Run) (r : Rejection) (d : Automaton) (w : List Char) :
    (run.halt r).1.feed d w = (run.halt r).1 :=
  feed_of_halted rfl d w

theorem feed_cons (run : Run) (d : Automaton) (c : Char) (w : List Char) :
    run.feed d (c :: w) = (run.step d c).1.feed d w := by
  rcases step_cases run d c with ⟨p, q, -, -, -, hstep⟩ | ⟨r, -, hstep⟩
  · rw [feed, hstep]
    rfl
  · rw [feed, hstep]
    exact (feed_halt run r d w).symm

/-- Stepping through an input, without regard to the outcomes, is feeding it. -/
theorem foldl_step_eq_feed (run : Run) (d : Automaton) (w : List Char) :
    w.foldl (fun run c => (run.step d c).1) run = run.feed d w := by
  induction w generalizing run with
  | nil => rfl
  | cons c w ih => rw [List.foldl_cons, ih, feed_cons]

theorem feed_append (run : Run) (d : Automaton) (u v : List Char) :
    run.feed d (u ++ v) = (run.feed d u).feed d v := by
  rw [← foldl_step_eq_feed, List.foldl_append, foldl_step_eq_feed, foldl_step_eq_feed]

/-! ### Recording -/

theorem record_cons_of_move (h : run.step d c = run.move edge) (w : List Char) :
    run.record d (c :: w) =
      (edge :: ((run.move edge).1.record d w).1, ((run.move edge).1.record d w).2) := by
  rw [record, h]
  rfl

theorem record_cons_of_halt (h : run.step d c = run.halt r) (w : List Char) :
    run.record d (c :: w) = ([], (run.halt r).1) := by
  rw [record, h]
  rfl

theorem record_of_halted (h : run.halted = some r) (d : Automaton) (w : List Char) :
    run.record d w = ([], run) := by
  cases w with
  | nil => rfl
  | cons c w => rw [record, step_of_halted h]

/-- The run at the end of a record is the one that was fed. -/
theorem record_snd (run : Run) (d : Automaton) (w : List Char) :
    (run.record d w).2 = run.feed d w := by
  induction w generalizing run with
  | nil => rfl
  | cons c w ih =>
    rcases step_cases run d c with ⟨p, q, -, -, -, hstep⟩ | ⟨r, -, hstep⟩
    · rw [record_cons_of_move hstep, feed_cons, hstep]
      exact ih _
    · rw [record_cons_of_halt hstep, feed_cons, hstep]
      exact (feed_halt run r d w).symm

/-- The edges of an input are those of its first part and then those that the run follows from
there. -/
theorem record_append_fst (run : Run) (d : Automaton) (u v : List Char) :
    (run.record d (u ++ v)).1 = (run.record d u).1 ++ ((run.feed d u).record d v).1 := by
  induction u generalizing run with
  | nil => rfl
  | cons c u ih =>
    rw [List.cons_append, feed_cons]
    rcases step_cases run d c with ⟨p, q, -, -, -, hstep⟩ | ⟨r, -, hstep⟩
    · rw [record_cons_of_move hstep, record_cons_of_move hstep, hstep, ih, List.cons_append]
    · -- the run is halted by `c`, so nothing is recorded of what follows
      have hhalted : (run.halt r).1.halted = some r := rfl
      rw [record_cons_of_halt hstep, record_cons_of_halt hstep, hstep, feed_halt,
        record_of_halted hhalted, List.append_nil]

/-- Every edge that is recorded is one symbol consumed. -/
theorem consumed_feed (run : Run) (d : Automaton) (w : List Char) :
    (run.feed d w).consumed = run.consumed + (run.record d w).1.length := by
  induction w generalizing run with
  | nil => rfl
  | cons c w ih =>
    rcases step_cases run d c with ⟨p, q, -, -, -, hstep⟩ | ⟨r, -, hstep⟩
    · rw [feed_cons, record_cons_of_move hstep, hstep, ih, List.length_cons]
      show run.consumed + 1 + _ = _
      omega
    · rw [feed_cons, record_cons_of_halt hstep, hstep, feed_halt]
      rfl

/-- The run is in the target of the last edge that is recorded, or where it was if there is none. -/
theorem current_feed (run : Run) (d : Automaton) (w : List Char) :
    (run.feed d w).current =
      ((run.record d w).1.getLast?.map Transition.target).or run.current := by
  induction w generalizing run with
  | nil => rfl
  | cons c w ih =>
    rcases step_cases run d c with ⟨p, q, -, -, -, hstep⟩ | ⟨r, -, hstep⟩
    · rw [feed_cons, record_cons_of_move hstep, hstep, ih, List.getLast?_cons]
      cases ((run.move ⟨p, c, q⟩).1.record d w).1.getLast? <;> rfl
    · rw [feed_cons, record_cons_of_halt hstep, hstep, feed_halt]
      rfl

/-! ### Acceptance and verdict -/

theorem isAccepting_eq_isAccepted_verdict (run : Run) (d : Automaton) :
    run.isAccepting d = (run.verdict d).isAccepted := by
  unfold isAccepting verdict
  cases run.halted with
  | some r => rfl
  | none =>
    cases run.current with
    | none => rfl
    | some p => cases h : d.isAccepting p <;> simp [h, Verdict.isAccepted]

theorem accepts_eq_isAccepting_feed (run : Run) (d : Automaton) (w : List Char) :
    run.accepts d w = (run.feed d w).isAccepting d := by
  induction w generalizing run with
  | nil => rfl
  | cons c w ih =>
    rcases step_cases run d c with ⟨p, q, -, -, -, hstep⟩ | ⟨r, -, hstep⟩
    · rw [accepts, feed_cons, hstep]
      exact ih _
    · -- the early exit answers what the halted run would
      rw [accepts, feed_cons, hstep, feed_halt]
      rfl

end Run

/-! ### Traces -/

theorem Automaton.trace_eq (d : Automaton) (w : List Char) :
    d.trace w = ⟨d.start, ((Run.start d).record d w).1, ((Run.start d).feed d w).verdict d⟩ := by
  rw [← Run.record_snd]
  rfl

theorem Automaton.accepts_eq (d : Automaton) (w : List Char) :
    d.accepts w = (d.trace w).isAccepted := by
  rw [trace_eq, accepts, Run.accepts_eq_isAccepting_feed, Run.isAccepting_eq_isAccepted_verdict]
  rfl

/-! ### Delivery in portions -/

/-- A piece of an input, and the way in which it is delivered to a run. -/
inductive Portion where
  /-- The symbols are fed all at once. -/
  | fed (symbols : List Char)
  /-- The run makes a step for each symbol, also when it has been halted. -/
  | stepped (symbols : List Char)

def Portion.symbols : Portion → List Char
  | fed symbols => symbols
  | stepped symbols => symbols

namespace Run

def receive (d : Automaton) (run : Run) : Portion → Run
  | .fed symbols => run.feed d symbols
  | .stepped symbols => symbols.foldl (fun run c => (run.step d c).1) run

/-- Delivers the portions of an input one after the other. -/
def deliver (run : Run) (d : Automaton) (portions : List Portion) : Run :=
  portions.foldl (receive d) run

/-- What a run that has read an input has in common with the trace of this input. -/
structure AgreesWithTrace (run : Run) (d : Automaton) (w : List Char) : Prop where
  verdict_eq : run.verdict d = (d.trace w).verdict
  current_eq : run.current = (d.trace w).finalState?
  consumed_eq : run.consumed = (d.trace w).steps.length
  isAccepting_eq : run.isAccepting d = (run.verdict d).isAccepted
  accepts_eq : d.accepts w = (run.verdict d).isAccepted

theorem receive_eq_feed (run : Run) (d : Automaton) (portion : Portion) :
    run.receive d portion = run.feed d portion.symbols := by
  cases portion with
  | fed symbols => rfl
  | stepped symbols => exact foldl_step_eq_feed run d symbols

/-- Only the symbols of the portions matter. -/
theorem deliver_eq_feed (run : Run) (d : Automaton) (portions : List Portion) :
    run.deliver d portions = run.feed d (portions.flatMap Portion.symbols) := by
  induction portions generalizing run with
  | nil => rfl
  | cons portion portions ih =>
    rw [List.flatMap_cons, feed_append, ← receive_eq_feed]
    exact ih _

theorem agreesWithTrace_feed (d : Automaton) (w : List Char) :
    ((start d).feed d w).AgreesWithTrace d w where
  verdict_eq := by rw [Automaton.trace_eq]
  current_eq := by
    rw [Automaton.trace_eq]
    exact current_feed (start d) d w
  consumed_eq := by
    rw [Automaton.trace_eq, consumed_feed]
    exact Nat.zero_add _
  isAccepting_eq := isAccepting_eq_isAccepted_verdict _ d
  accepts_eq := by
    rw [Automaton.accepts_eq, Automaton.trace_eq]
    rfl

/-- **A streamed run equals a one-shot run.**  Whatever the portions in which an input is delivered,
the run at the end is the same and agrees with the trace of the whole input.  A halted run is not
changed by anything that is delivered to it, and so an input that halts the run has the verdict and
the edges of each of its extensions. -/
theorem deliver_agrees_with_trace (d : Automaton) :
    (∀ portions : List Portion,
      (∀ others : List Portion,
        others.flatMap Portion.symbols = portions.flatMap Portion.symbols →
          (start d).deliver d others = (start d).deliver d portions) ∧
      ((start d).deliver d portions).AgreesWithTrace d (portions.flatMap Portion.symbols)) ∧
    (∀ (run : Run) (r : Rejection), run.halted = some r →
      (∀ c, run.step d c = (run, .halted r)) ∧ ∀ portions, run.deliver d portions = run) ∧
    ∀ u v : List Char, ((start d).feed d u).isHalted = true →
      (d.trace (u ++ v)).verdict = (d.trace u).verdict ∧
        (d.trace (u ++ v)).steps = (d.trace u).steps := by
  refine ⟨fun portions => ⟨fun others h => ?_, ?_⟩, fun run r h => ⟨?_, fun portions => ?_⟩,
    fun u v h => ?_⟩
  · rw [deliver_eq_feed, deliver_eq_feed, h]
  · rw [deliver_eq_feed]
    exact agreesWithTrace_feed d _
  · exact step_of_halted h d
  · rw [deliver_eq_feed, feed_of_halted h]
  · obtain ⟨r, hr⟩ := Option.isSome_iff_exists.mp h
    rw [Automaton.trace_eq, Automaton.trace_eq, feed_append, feed_of_halted hr]
    refine ⟨rfl, ?_⟩
    show ((start d).record d (u ++ v)).1 = ((start d).record d u).1
    rw [record_append_fst, record_of_halted hr, List.append_nil]

/-- Two states between which a single symbol leads back and forth. -/
def toggle : Automaton where
  states := [{ name := "off" }, { name := "on", accepting := true }]
  alphabet := .ofList ['t']
  table := [[some 1], [some 0]]
  start := some 0
  accepting := .ofList [1]

/-- A foreign symbol halts a run of `toggle` for good, whether it is fed or stepped through. -/
theorem deliver_agrees_with_trace_toggle :
    (start toggle).deliver toggle [.fed ['t'], .stepped ['x', 't'], .fed []] =
      (start toggle).deliver toggle [.stepped ['t', 'x'], .fed ['t']] ∧
    ((start toggle).feed toggle ['t', 'x']).halted = some (.outsideAlphabet 1 'x') ∧
    ((start toggle).feed toggle ['t', 'x']).deliver toggle [.stepped ['t'], .fed ['t']] =
      (start toggle).feed toggle ['t', 'x'] ∧
    (toggle.trace (['t', 'x'] ++ ['t'])).verdict = (toggle.trace ['t', 'x']).verdict := by
  obtain ⟨hportions, hhalted, hextension⟩ := deliver_agrees_with_trace toggle
  have hx : ((start toggle).feed toggle ['t', 'x']).halted = some (.outsideAlphabet 1 'x') := by
    decide
  exact ⟨(hportions _).1 _ rfl, hx, (hhalted _ _ hx).2 _,
    (hextension ['t', 'x'] ['t'] (by decide)).1⟩

end Run

end AutomatonKit
