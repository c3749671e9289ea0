import Mathlib
import AutomatonKit.Proofs.Automaton.Building
import AutomatonKit.Proofs.Automaton.Outline
import AutomatonKit.Proofs.Run.Walk

/-!
# Equal automata

`Automaton.sameAs` lists the edges of two automata and compares the lists as sets, just as it
compares the symbols.  So it does not see in which columns the symbols stand, nor how long the rows
are.

For well-formed automata this is the comparison `Automaton.Alike` of all that has a meaning
(`sameAs_iff_alike`), and it is the same to say that both show one outline (`Shows.alike`,
`Alike.shows`).  Since an edit does to an automaton what it does to any outline that the automaton
shows, equal automata remain equal under edits (`Alike.edit`).  Traces follow the transition
function, so equal automata have equal traces (`Alike.trace_eq`).  `sameAs_congruence` puts this
together.
-/

namespace AutomatonKit.Automaton

/-! ### The comparison -/

theorem sameTransitions_iff {a b : Automaton} :
    a.sameTransitions b = true ↔ ∀ t, t ∈ a.transitions ↔ t ∈ b.transitions := by
  rw [sameTransitions, Bool.and_eq_true, List.all_eq_true, List.all_eq_true]
  simp only [List.contains_iff_mem]
  exact ⟨fun h t => ⟨h.1 t, h.2 t⟩, fun h => ⟨fun t => (h t).mp, fun t => (h t).mpr⟩⟩

theorem sameAs_iff {a b : Automaton} :
    a.sameAs b = true ↔
      a.states = b.states ∧ a.start = b.start ∧ a.accepting = b.accepting ∧
        (∀ c, c ∈ a.alphabet.symbols ↔ c ∈ b.alphabet.symbols) ∧
        ∀ t, t ∈ a.transitions ↔ t ∈ b.transitions := by
  simp only [sameAs, Bool.and_eq_true, beq_iff_eq, Alphabet.sameSymbols_iff, sameTransitions_iff,
    and_assoc]

/-- All parts are compared as values or as sets, so this is an equivalence, even for automata that
no edits build. -/
theorem sameAs_equivalence : Equivalence fun a b : Automaton => a.sameAs b = true where
  refl _ := sameAs_iff.mpr ⟨rfl, rfl, rfl, fun _ => Iff.rfl, fun _ => Iff.rfl⟩
  symm h := by
    obtain ⟨hstates, hstart, haccepting, hsymbols, hedges⟩ := sameAs_iff.mp h
    exact sameAs_iff.mpr ⟨hstates.symm, hstart.symm, haccepting.symm, fun c => (hsymbols c).symm,
      fun t => (hedges t).symm⟩
  trans h h' := by
    obtain ⟨hstates, hstart, haccepting, hsymbols, hedges⟩ := sameAs_iff.mp h
    obtain ⟨hstates', hstart', haccepting', hsymbols', hedges'⟩ := sameAs_iff.mp h'
    exact sameAs_iff.mpr ⟨hstates.trans hstates', hstart.trans hstart',
      haccepting.trans haccepting', fun c => (hsymbols c).trans (hsymbols' c),
      fun t => (hedges t).trans (hedges' t)⟩

/-- Two automata have the same meaning: they differ at most in the columns of their symbols. -/
structure Alike (a b : Automaton) : Prop where
  states_eq : a.states = b.states
  start_eq : a.start = b.start
  accepting_eq : a.accepting = b.accepting
  mem_symbols_iff : ∀ c, c ∈ a.alphabet.symbols ↔ c ∈ b.alphabet.symbols
  successor_eq : ∀ p c, a.successor p c = b.successor p c

variable {a b : Automaton} {o : Outline}

/-- **Equality of well-formed automata**: the listed edges are those of the transition function. -/
theorem sameAs_iff_alike (ha : a.WellFormed) (hb : b.WellFormed) :
    a.sameAs b = true ↔ a.Alike b := by
  rw [sameAs_iff]
  constructor
  · rintro ⟨hstates, hstart, haccepting, hsymbols, hedges⟩
    refine ⟨hstates, hstart, haccepting, hsymbols, fun p c => Option.ext fun q => ?_⟩
    have hedge := hedges ⟨p, c, q⟩
    rwa [ha.mem_transitions_iff, hb.mem_transitions_iff] at hedge
  · intro h
    refine ⟨h.states_eq, h.start_eq, h.accepting_eq, h.mem_symbols_iff, fun t => ?_⟩
    rw [ha.mem_transitions_iff, hb.mem_transitions_iff, h.successor_eq]

/-! ### Edits -/

theorem WellFormed.exists_shows (ha : a.WellFormed) : ∃ o, a.Shows o := by
  have hshows := Shows.empty.editAll wellFormed_empty a.buildingEdits
  rw [editAll_buildingEdits ha] at hshows
  exact ⟨_, hshows⟩

theorem Shows.alike (h : a.Shows o) (h' : b.Shows o) : a.Alike b where
  states_eq := h.states_eq.trans h'.states_eq.symm
  start_eq := h.start_eq.trans h'.start_eq.symm
  accepting_eq := IdSet.ext_mem fun id => (h.mem_accepting_iff id).trans
    (h'.mem_accepting_iff id).symm
  mem_symbols_iff c := (h.mem_symbols_iff c).trans (h'.mem_symbols_iff c).symm
  successor_eq p c := (h.successor_eq p c).trans (h'.successor_eq p c).symm

theorem Alike.shows (h : a.Alike b) (ho : a.Shows o) : b.Shows o :=
  .intro (h.states_eq.symm.trans ho.states_eq) (h.start_eq.symm.trans ho.start_eq)
    (fun id => h.accepting_eq ▸ ho.mem_accepting_iff id)
    (fun c => (h.mem_symbols_iff c).symm.trans (ho.mem_symbols_iff c))
    fun p c => (h.successor_eq p c).symm.trans (ho.successor_eq p c)

/-- **An edit keeps automata alike** and has the same reply for both. -/
theorem Alike.edit (h : a.Alike b) (ha : a.WellFormed) (hb : b.WellFormed) (e : Edit) :
    (a.edit e).1.Alike (b.edit e).1 ∧ (a.edit e).2 = (b.edit e).2 := by
  obtain ⟨o, ho⟩ := ha.exists_shows
  obtain ⟨hedit, hreply⟩ := ho.edit ha e
  obtain ⟨hedit', hreply'⟩ := (h.shows ho).edit hb e
  exact ⟨hedit.alike hedit', hreply.trans hreply'.symm⟩

theorem Alike.editAll (h : a.Alike b) (ha : a.WellFormed) (hb : b.WellFormed)
    (edits : List Edit) : (a.editAll edits).Alike (b.editAll edits) := by
  induction edits generalizing a b with
  | nil => exact h
  | cons e edits ih => exact ih (h.edit ha hb e).1 (ha.edit e) (hb.edit e)

/-! ### Traces -/

theorem Alike.walk {p q : StateId} {edges : List Transition} (h : a.Alike b)
    (hwalk : a.Walk p edges q) : b.Walk p edges q := by
  induction hwalk with
  | nil p => exact .nil p
  | cons first _ ih => exact .cons ((h.successor_eq _ _).symm.trans first) ih

theorem Alike.isSink_iff (h : a.Alike b) (p : StateId) : a.IsSink p ↔ b.IsSink p :=
  forall_congr' fun c => by rw [h.successor_eq p c]

theorem Alike.diagnosis_eq (h : a.Alike b) (n : Nat) (q : StateId) (next : Option Char) :
    a.diagnosis n q next = b.diagnosis n q next := by
  cases next with
  | none =>
    unfold diagnosis
    rw [h.accepting_eq]
  | some c =>
    have hsink : (if a.IsSink q then Rejection.noOutgoing n q else .missingTransition n q c) =
        if b.IsSink q then .noOutgoing n q else .missingTransition n q c :=
      if_congr (h.isSink_iff q) rfl rfl
    exact congrArg Verdict.rejected (if_congr (not_congr (h.mem_symbols_iff c)) rfl hsink)

/-- **Automata that are alike have the same traces.** -/
theorem Alike.trace_eq (h : a.Alike b) (ha : a.WellFormed) (hb : b.WellFormed) (w : List Char) :
    a.trace w = b.trace w := by
  cases hs : a.start with
  | none =>
    rw [trace_of_start_eq_none hs, trace_of_start_eq_none (h.start_eq.symm.trans hs)]
  | some s =>
    -- both get stuck at the end of the same walk
    obtain ⟨edges, q, rest, hwalk, rfl, hrest⟩ := exists_stuck_walk a s w
    have hrest' : ∀ c ∈ rest.head?, b.successor q c = none :=
      fun c hc => (h.successor_eq q c).symm.trans (hrest c hc)
    rw [trace_of_stuck_walk ha hs hwalk hrest,
      trace_of_stuck_walk hb (h.start_eq.symm.trans hs) (h.walk hwalk) hrest', h.diagnosis_eq]

/-! ### The congruence -/

/-- **Equality is a congruence that ignores the order of the columns and nothing else.**  It is an
equivalence.  Two automata in which nothing is wrong are equal if and only if they have the same
states, start state and accepting states, the same set of symbols and the same transition function;
if moreover their columns are the same, they are identical.  Equal automata have the same traces,
and each edit has the same reply for both and leaves two equal automata, and so does a run of
edits. -/
theorem sameAs_congruence :
    (Equivalence fun a b : Automaton => a.sameAs b = true) ∧
    ∀ a b : Automaton, a.violation? = none → b.violation? = none →
      (a.sameAs b = true ↔
        a.states = b.states ∧ a.start = b.start ∧ a.accepting = b.accepting ∧
          (∀ c, c ∈ a.alphabet.symbols ↔ c ∈ b.alphabet.symbols) ∧
          ∀ p c, a.successor p c = b.successor p c) ∧
      (a.sameAs b = true →
        (a.alphabet = b.alphabet → a = b) ∧
        (∀ w, a.trace w = b.trace w) ∧
        (∀ e : Edit, ∃ a' b' reply, a.edit? e = some (a', reply) ∧ b.edit? e = some (b', reply) ∧
          a'.sameAs b' = true) ∧
        ∀ edits : List Edit, (a.editAll edits).sameAs (b.editAll edits) = true) := by
  refine ⟨sameAs_equivalence, fun a b ha hb => ?_⟩
  rw [violation?_eq_none_iff] at ha hb
  rw [sameAs_iff_alike ha hb]
  refine ⟨⟨fun h => ?_, ?_⟩, fun h => ⟨fun halphabet => ?_, h.trace_eq ha hb, fun e => ?_,
    fun edits => ?_⟩⟩
  · exact ⟨h.states_eq, h.start_eq, h.accepting_eq, h.mem_symbols_iff, h.successor_eq⟩
  · rintro ⟨hstates, hstart, haccepting, hsymbols, hsuccessor⟩
    exact ⟨hstates, hstart, haccepting, hsymbols, hsuccessor⟩
  · exact ha.ext_successor hb h.states_eq halphabet h.start_eq h.accepting_eq h.successor_eq
  · obtain ⟨hedit, hreply⟩ := h.edit ha hb e
    refine ⟨(a.edit e).1, (b.edit e).1, (a.edit e).2, ha.edit?_eq e, ?_, ?_⟩
    · rw [hb.edit?_eq e, hreply]
    · exact (sameAs_iff_alike (ha.edit e) (hb.edit e)).mpr hedit
  · exact (sameAs_iff_alike (ha.editAll edits) (hb.editAll edits)).mpr (h.editAll ha hb edits)

/-- A gate that a coin opens. -/
def coinFirst : Automaton where
  states := [{ name := "shut" }, { name := "open", accepting := true }]
  alphabet := .ofList ['c', 'p']
  table := [[some 1], [none, some 0]]
  start := some 0
  accepting := .ofList [1]

/-- The same gate with the columns exchanged, so that the rows have other lengths. -/
def pushFirst : Automaton :=
  { coinFirst with
    alphabet := .ofList ['p', 'c']
    table := [[none, some 1], [some 0]] }

/-- The two gates are equal though not identical, and remain equal when a transition with a new
symbol is written. -/
theorem sameAs_congruence_gate :
    coinFirst.violation? = none ∧ pushFirst.violation? = none ∧ coinFirst ≠ pushFirst ∧
      coinFirst.sameAs pushFirst = true ∧
      coinFirst.trace ['c', 'p', 'p'] = pushFirst.trace ['c', 'p', 'p'] ∧
      ∃ a b reply, coinFirst.edit? (.addTransition 0 'x' 1) = some (a, reply) ∧
        pushFirst.edit? (.addTransition 0 'x' 1) = some (b, reply) ∧ a.sameAs b = true := by
  have ha : coinFirst.violation? = none := by decide
  have hb : pushFirst.violation? = none := by decide
  have hsame : coinFirst.sameAs pushFirst = true := by decide
  obtain ⟨-, htrace, hedit, -⟩ := (sameAs_congruence.2 coinFirst pushFirst ha hb).2 hsame
  exact ⟨ha, hb, by decide, hsame, htrace _, hedit _⟩

end AutomatonKit.Automaton
