import Mathlib
import AutomatonKit.Proofs.Lint.Report

/-!
# What lint says about all inputs

Lint looks at an automaton once, and yet its report says something about every input there is.

* An input of known symbols gets stuck in some state if and only if lint reports a state as
  incomplete that it does not report as unreachable (`lint_predicts_stuck_inputs`).
* No input is accepted if and only if lint reports that there is no start state, or reports all
  accepting states as unreachable (`lint_decides_emptiness`).

Both go through the states that inputs lead to.  An input gets stuck if it leads to a state and is
followed by a symbol without an edge there (`exists_of_missesEdge`, `exists_missesEdge`), and it is
accepted if it leads to an accepting state (`exists_accepts_iff`).
-/

namespace AutomatonKit

/-- The input got stuck at a symbol of the alphabet. -/
inductive Verdict.MissesEdge : Verdict → Prop where
  | noOutgoing (position : Nat) (state : StateId) : MissesEdge (.rejected (.noOutgoing position state))
  | missingTransition (position : Nat) (state : StateId) (symbol : Char) :
      MissesEdge (.rejected (.missingTransition position state symbol))

namespace Automaton

variable {d : Automaton} {q : StateId} {c : Char} {n : Nat} {w : List Char}

/-! ### Inputs that get stuck -/

theorem missesEdge_obstacle_iff :
    (Verdict.rejected (d.obstacle n q c)).MissesEdge ↔ c ∈ d.alphabet.symbols := by
  unfold obstacle
  by_cases hc : c ∈ d.alphabet.symbols
  · rw [if_neg (not_not.mpr hc)]
    refine iff_of_true ?_ hc
    split
    · exact .noOutgoing n q
    · exact .missingTransition n q c
  · rw [if_pos hc]
    exact iff_of_false nofun hc

/-- An input that does not get stuck at a symbol of the alphabet comes to its end, or to a symbol
that is foreign. -/
theorem diagnosis_cases (d : Automaton) (n : Nat) (q : StateId) (next : Option Char) :
    d.diagnosis n q next = .accepted ∨ d.diagnosis n q next = .rejected (.notAccepting q) ∨
      (∃ c, d.diagnosis n q next = .rejected (.outsideAlphabet n c)) ∨
      (d.diagnosis n q next).MissesEdge := by
  cases next with
  | none =>
    by_cases hq : q ∈ d.accepting.ids
    · exact Or.inl (if_pos hq)
    · exact Or.inr (Or.inl (if_neg hq))
  | some c =>
    by_cases hc : c ∈ d.alphabet.symbols
    · exact Or.inr (Or.inr (Or.inr (missesEdge_obstacle_iff.mpr hc)))
    · refine Or.inr (Or.inr (Or.inl ⟨c, ?_⟩))
      rw [diagnosis, obstacle, if_pos hc]

/-- The verdict on an input is the diagnosis at the state to which it leads before it cannot be
followed any further. -/
theorem WellFormed.exists_verdict_eq (h : d.WellFormed) {s : StateId} (hs : d.start = some s)
    (w : List Char) :
    ∃ n q next, d.Leads s q ∧ (∀ c ∈ next, d.successor q c = none) ∧
      (d.trace w).verdict = d.diagnosis n q next := by
  obtain ⟨edges, q, rest, hwalk, rfl, hrest⟩ := exists_stuck_walk d s w
  refine ⟨edges.length, q, rest.head?, .of_walk hwalk, hrest, ?_⟩
  rw [trace_of_stuck_walk h hs hwalk hrest]

theorem WellFormed.verdict_cases (h : d.WellFormed) (hs : d.start ≠ none) (w : List Char) :
    (d.trace w).verdict = .accepted ∨ (∃ q, (d.trace w).verdict = .rejected (.notAccepting q)) ∨
      (∃ n c, (d.trace w).verdict = .rejected (.outsideAlphabet n c)) ∨
      (d.trace w).verdict.MissesEdge := by
  obtain ⟨s, hs⟩ := Option.ne_none_iff_exists'.mp hs
  obtain ⟨n, q, next, -, -, hverdict⟩ := h.exists_verdict_eq hs w
  rw [hverdict]
  rcases diagnosis_cases d n q next with haccepted | hend | ⟨c, hforeign⟩ | hmisses
  · exact Or.inl haccepted
  · exact Or.inr (Or.inl ⟨q, hend⟩)
  · exact Or.inr (Or.inr (Or.inl ⟨n, c, hforeign⟩))
  · exact Or.inr (Or.inr (Or.inr hmisses))

/-- Where an input gets stuck at a symbol of the alphabet, the state that it has come to has no edge
for this symbol. -/
theorem WellFormed.exists_of_missesEdge (h : d.WellFormed)
    (hmisses : (d.trace w).verdict.MissesEdge) :
    ∃ q c, d.Reaches q ∧ c ∈ d.alphabet.symbols ∧ d.successor q c = none := by
  cases hs : d.start with
  | none =>
    rw [trace_of_start_eq_none hs] at hmisses
    exact nomatch hmisses
  | some s =>
    obtain ⟨n, q, next, hleads, hnone, hverdict⟩ := h.exists_verdict_eq hs w
    rw [hverdict] at hmisses
    cases next with
    | none =>
      rw [diagnosis] at hmisses
      split at hmisses <;> exact nomatch hmisses
    | some c =>
      exact ⟨q, c, (reaches_iff_leads hs).mpr hleads, missesEdge_obstacle_iff.mp hmisses,
        hnone c rfl⟩

/-- An input that leads to a state gets stuck there at any symbol of the alphabet without an
edge. -/
theorem WellFormed.exists_missesEdge (h : d.WellFormed) (hq : d.Reaches q)
    (hc : c ∈ d.alphabet.symbols) (hnone : d.successor q c = none) :
    ∃ w, (∀ x ∈ w, x ∈ d.alphabet.symbols) ∧ (d.trace w).verdict.MissesEdge := by
  obtain ⟨s, hs, w, hw⟩ := reaches_iff.mp hq
  obtain ⟨edges, hwalk, hsymbols⟩ := exists_walk_of_follow? hw
  refine ⟨w ++ [c], fun x hx => ?_, ?_⟩
  · rcases List.mem_append.mp hx with hx | hx
    · exact mem_symbols_of_follow? hw hx
    · rw [List.mem_singleton.mp hx]
      exact hc
  · have hstuck : ∀ x ∈ [c].head?, d.successor q x = none := by
      intro x hx
      obtain rfl : c = x := Option.some.inj hx
      exact hnone
    rw [← hsymbols, trace_of_stuck_walk h hs hwalk hstuck]
    exact missesEdge_obstacle_iff.mpr hc

/-! ### Inputs that are accepted -/

theorem exists_accepts_iff :
    (∃ w, d.accepts w = true) ↔ ∃ q ∈ d.accepting.ids, d.Reaches q := by
  simp only [accepts_iff, reaches_iff]
  constructor
  · rintro ⟨w, s, q, hs, hw, hq⟩
    exact ⟨q, hq, s, hs, w, hw⟩
  · rintro ⟨q, hq, s, hs, w, hw⟩
    exact ⟨w, s, q, hs, hw, hq⟩

theorem accepts_eq_false_iff : d.accepts w = false ↔ ∃ r, (d.trace w).verdict = .rejected r := by
  rw [accepts_eq, Trace.isAccepted]
  cases (d.trace w).verdict <;> simp [Verdict.isAccepted]

end Automaton

namespace Lint

variable {d : Automaton} {issues : List Issue} {q : StateId}

/-! ### Reports and reached states -/

namespace Reports

/-- A registered state is reported as unreachable by its name, or not at all. -/
theorem exists_unreachable_iff (h : Reports d issues) (hs : d.start ≠ none)
    (hq : q < d.stateCount) : (∃ name, .unreachable q name ∈ issues) ↔ ¬ d.Reaches q := by
  constructor
  · rintro ⟨name, hname⟩
    exact ((h.unreachable_iff q name).mp hname).2.1
  · intro hreaches
    obtain ⟨state, hstate⟩ := exists_state?_eq hq
    exact ⟨state.name, (h.unreachable_iff q _).mpr ⟨hs, hreaches, state, hstate, rfl⟩⟩

/-- **A state is reported as incomplete and not as unreachable** if an input leads to it and there
is a symbol without an edge. -/
theorem exists_incomplete_iff (h : Reports d issues) (hd : d.WellFormed) (hs : d.start ≠ none) :
    (∃ q name missing, .incomplete q name missing ∈ issues ∧
        ∀ name', .unreachable q name' ∉ issues) ↔
      ∃ q c, d.Reaches q ∧ c ∈ d.alphabet.symbols ∧ d.successor q c = none := by
  constructor
  · rintro ⟨q, name, missing, hincomplete, hunreachable⟩
    obtain ⟨state, hstate, hne, -, -⟩ := (h.incomplete_iff q name missing).mp hincomplete
    obtain ⟨c, hc⟩ := List.exists_mem_of_ne_nil _ hne
    obtain ⟨hsymbol, hnone⟩ := mem_missingSymbols_iff.mp hc
    refine ⟨q, c, ?_, hsymbol, hnone⟩
    by_contra hreaches
    obtain ⟨name', hname'⟩ :=
      (h.exists_unreachable_iff hs (lt_of_state?_eq hstate)).mpr hreaches
    exact hunreachable name' hname'
  · rintro ⟨q, c, hreaches, hsymbol, hnone⟩
    obtain ⟨s, hstart, hleads⟩ := Automaton.reaches_iff.mp hreaches
    have hq : q < d.stateCount := hleads.lt_stateCount hd (hd.start_lt s hstart)
    obtain ⟨state, hstate⟩ := exists_state?_eq hq
    have hne : missingSymbols d q ≠ [] :=
      List.ne_nil_of_mem (mem_missingSymbols_iff.mpr ⟨hsymbol, hnone⟩)
    have hincomplete : .incomplete q state.name (missingSymbols d q) ∈ issues :=
      (h.incomplete_iff q _ _).mpr ⟨state, hstate, hne, rfl, rfl⟩
    exact ⟨q, state.name, missingSymbols d q, hincomplete, fun name hname =>
      (h.exists_unreachable_iff hs hq).mp ⟨name, hname⟩ hreaches⟩

end Reports

/-! ### Stuck inputs -/

/-- **Lint predicts stuck inputs.**  Take an automaton in which nothing is wrong, and what the
standard checks report of it.  If there is a start state, then some input of known symbols gets
stuck for want of an edge if and only if a state is reported as incomplete that is not reported as
unreachable.  The symbols that are listed with an incomplete state are those without an edge from
it, in the order of the columns and each of them once.  If nothing is reported, every input is
accepted, or ends in a state that is not accepting, or comes to a foreign symbol. -/
theorem lint_predicts_stuck_inputs (d : Automaton) (hd : d.violation? = none) :
    ∃ issues, Rules.standard.check d = .ok issues ∧
      (d.start ≠ none →
        ((∃ w, (∀ c ∈ w, d.alphabet.contains c = true) ∧ (d.trace w).verdict.MissesEdge) ↔
          ∃ q name missing, .incomplete q name missing ∈ issues ∧
            ∀ name', .unreachable q name' ∉ issues)) ∧
      (∀ q name missing, .incomplete q name missing ∈ issues →
        (∀ c, c ∈ missing ↔ d.alphabet.contains c = true ∧ d.successor q c = none) ∧
          missing.Sublist d.alphabet.symbols ∧ missing.Nodup) ∧
      (issues = [] → ∀ w,
        (d.trace w).verdict = .accepted ∨
          (∃ q, (d.trace w).verdict = .rejected (.notAccepting q)) ∨
          ∃ n c, (d.trace w).verdict = .rejected (.outsideAlphabet n c)) := by
  rw [Automaton.violation?_eq_none_iff] at hd
  obtain ⟨issues, hissues, hreports⟩ := exists_reports hd
  refine ⟨issues, hissues, fun hs => ?_, fun q name missing hincomplete => ?_, fun hnil w => ?_⟩
  · rw [hreports.exists_incomplete_iff hd hs]
    simp only [Alphabet.contains_iff]
    constructor
    · rintro ⟨w, -, hmisses⟩
      exact hd.exists_of_missesEdge hmisses
    · rintro ⟨q, c, hreaches, hsymbol, hnone⟩
      exact hd.exists_missesEdge hreaches hsymbol hnone
  · obtain ⟨state, -, -, -, rfl⟩ := (hreports.incomplete_iff q name missing).mp hincomplete
    have hsublist : (missingSymbols d q).Sublist d.alphabet.symbols := List.filter_sublist
    refine ⟨fun c => ?_, hsublist, d.alphabet.nodup.sublist hsublist⟩
    rw [mem_missingSymbols_iff, Alphabet.contains_iff]
  · -- nothing is reported, so there is a start state and no state that inputs get stuck in
    have hs : d.start ≠ none := by
      intro hs
      have hmem := hreports.noStartState_iff.mpr hs
      rw [hnil] at hmem
      exact List.not_mem_nil hmem
    rcases hd.verdict_cases hs w with haccepted | hend | hforeign | hmisses
    · exact Or.inl haccepted
    · exact Or.inr (Or.inl hend)
    · exact Or.inr (Or.inr hforeign)
    · obtain ⟨q, name, missing, hincomplete, -⟩ :=
        (hreports.exists_incomplete_iff hd hs).mpr (hd.exists_of_missesEdge hmisses)
      rw [hnil] at hincomplete
      exact absurd hincomplete List.not_mem_nil

/-- A bridge that is let down and pulled up, and a ruin that no edge leads to.  A bridge that is up
has no edge for the second symbol. -/
def drawbridge : Automaton where
  states := [{ name := "down" }, { name := "up" }, { name := "ruin", accepting := true }]
  alphabet := .ofList ['a', 'b']
  table := [[some 1, some 0], [some 0], [some 2, some 0]]
  start := some 0
  accepting := .ofList [2]

/-- Lint finds the state of `drawbridge` in which inputs get stuck, and nothing in
`Run.toggle`. -/
theorem lint_predicts_stuck_inputs_drawbridge :
    (drawbridge.violation? = none ∧ drawbridge.start ≠ none ∧
      Rules.standard.check drawbridge = .ok [.unreachable 2 "ruin", .incomplete 1 "up" ['b']] ∧
      (∃ w, (∀ c ∈ w, drawbridge.alphabet.contains c = true) ∧
        (drawbridge.trace w).verdict.MissesEdge) ∧
      ['b'].Sublist drawbridge.alphabet.symbols) ∧
    Run.toggle.violation? = none ∧ Rules.standard.check Run.toggle = .ok [] ∧
      ((Run.toggle.trace ['t', 'x']).verdict = .accepted ∨
        (∃ q, (Run.toggle.trace ['t', 'x']).verdict = .rejected (.notAccepting q)) ∨
        ∃ n c, (Run.toggle.trace ['t', 'x']).verdict = .rejected (.outsideAlphabet n c)) := by
  have hbridge : drawbridge.violation? = none := by decide
  have hstart : drawbridge.start ≠ none := nofun
  have hreport : Rules.standard.check drawbridge =
      .ok [.unreachable 2 "ruin", .incomplete 1 "up" ['b']] := by cbv
  have htoggle : Run.toggle.violation? = none := by decide
  have hclean : Rules.standard.check Run.toggle = .ok [] := by cbv
  obtain ⟨issues, hissues, hstuck, hmissing, -⟩ := lint_predicts_stuck_inputs drawbridge hbridge
  obtain rfl := Except.ok.inj (hreport.symm.trans hissues)
  obtain ⟨found, hfound, -, -, hverdict⟩ := lint_predicts_stuck_inputs Run.toggle htoggle
  refine ⟨⟨hbridge, hstart, hreport, ?_, ?_⟩, htoggle, hclean, ?_⟩
  · refine (hstuck hstart).mpr ⟨1, "up", ['b'], by simp, fun name => ?_⟩
    simp
  · exact (hmissing 1 "up" ['b'] (by simp)).2.1
  · exact hverdict (Except.ok.inj (hfound.symm.trans hclean)) _

/-! ### Emptiness -/

/-- **Lint decides emptiness.**  Take an automaton in which nothing is wrong, and what the standard
checks report of it.  No input is accepted if and only if it is reported that there is no start
state, or every accepting state is reported as unreachable.  Whenever an issue of the start state or
of the accepting states is reported, it is true that every input is rejected, as its message says. -/
theorem lint_decides_emptiness (d : Automaton) (hd : d.violation? = none) :
    ∃ issues, Rules.standard.check d = .ok issues ∧
      ((∀ w, d.accepts w = false) ↔
        .noStartState ∈ issues ∨
          ∀ q, d.isAccepting q = true → ∃ name, .unreachable q name ∈ issues) ∧
      (.noAcceptStates ∈ issues → ∀ q, d.isAccepting q = false) ∧
      ∀ issue ∈ issues, issue = .noStartState ∨ issue = .noAcceptStates →
        "every input is rejected".toList <:+ issue.message.toList ∧
          ∀ w, d.accepts w = false ∧ ∃ r, (d.trace w).verdict = .rejected r := by
  rw [Automaton.violation?_eq_none_iff] at hd
  obtain ⟨issues, hissues, hreports⟩ := exists_reports hd
  have hempty : (∀ w, d.accepts w = false) ↔ ∀ q ∈ d.accepting.ids, ¬ d.Reaches q := by
    have hnot := not_congr (Automaton.exists_accepts_iff (d := d))
    simpa using hnot
  have hrejected : (∀ q ∈ d.accepting.ids, ¬ d.Reaches q) → ∀ w, d.accepts w = false ∧
      ∃ r, (d.trace w).verdict = .rejected r :=
    fun h w => ⟨hempty.mpr h w, Automaton.accepts_eq_false_iff.mp (hempty.mpr h w)⟩
  have haccepting : .noAcceptStates ∈ issues → d.accepting.ids = [] :=
    hreports.noAcceptStates_iff.mp
  have hstart : .noStartState ∈ issues → ∀ q ∈ d.accepting.ids, ¬ d.Reaches q :=
    fun h q _ => Automaton.not_reaches_of_start_eq_none (hreports.noStartState_iff.mp h)
  refine ⟨issues, hissues, ?_, fun hmem q => ?_, ?_⟩
  · simp only [hempty, Automaton.isAccepting_iff]
    constructor
    · intro h
      by_cases hs : d.start = none
      · exact Or.inl (hreports.noStartState_iff.mpr hs)
      · exact Or.inr fun q hq =>
          (hreports.exists_unreachable_iff hs (hd.lt_of_mem_accepting hq)).mpr (h q hq)
    · rintro (hmem | h) q hq
      · exact hstart hmem q hq
      · obtain ⟨name, hname⟩ := h q hq
        exact ((hreports.unreachable_iff q name).mp hname).2.1
  · rw [Bool.eq_false_iff, Ne, Automaton.isAccepting_iff, haccepting hmem]
    exact List.not_mem_nil
  · rintro issue hmem (rfl | rfl)
    · exact ⟨by decide, hrejected (hstart hmem)⟩
    · refine ⟨by decide, hrejected fun q hq => ?_⟩
      rw [haccepting hmem] at hq
      exact absurd hq List.not_mem_nil

/-- In `drawbridge` there is an accepting state, but no input leads to it.  An automaton without
states has no start state and no accepting ones, and both reports are right about it. -/
theorem lint_decides_emptiness_drawbridge :
    (drawbridge.violation? = none ∧
      Rules.standard.check drawbridge = .ok [.unreachable 2 "ruin", .incomplete 1 "up" ['b']] ∧
      ∀ w, drawbridge.accepts w = false) ∧
    Automaton.empty.violation? = none ∧
      Rules.standard.check .empty = .ok [.noStartState, .noAcceptStates] ∧
      Automaton.empty.isAccepting 0 = false ∧
      ∃ r, (Automaton.empty.trace ['a']).verdict = .rejected r := by
  have hbridge : drawbridge.violation? = none := by decide
  have hreport : Rules.standard.check drawbridge =
      .ok [.unreachable 2 "ruin", .incomplete 1 "up" ['b']] := by cbv
  have hempty : Automaton.empty.violation? = none := by decide
  have hnothing : Rules.standard.check .empty = .ok [.noStartState, .noAcceptStates] := by cbv
  obtain ⟨issues, hissues, hiff, -⟩ := lint_decides_emptiness drawbridge hbridge
  obtain rfl := Except.ok.inj (hreport.symm.trans hissues)
  obtain ⟨issues, hissues, -, haccepting, hrejected⟩ := lint_decides_emptiness .empty hempty
  obtain rfl := Except.ok.inj (hnothing.symm.trans hissues)
  refine ⟨⟨hbridge, hreport, hiff.mpr (Or.inr fun q hq => ?_)⟩, hempty, hnothing,
    haccepting (by simp) 0, ?_⟩
  · obtain rfl : q = 2 := by simpa [drawbridge, IdSet.mem_ofList] using
      Automaton.isAccepting_iff.mp hq
    exact ⟨"ruin", by simp⟩
  · exact ((hrejected .noStartState (by simp) (Or.inl rfl)).2 ['a']).2

end Lint

end AutomatonKit
