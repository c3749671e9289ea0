import Mathlib
import AutomatonKit.Proofs.Automaton.Equality
import AutomatonKit.Proofs.Blueprint.Outcome

/-!
# Calls in another order

A blueprint is put together call by call, and names may be referred to before they are declared.
Several states that are declared at once count as a call each.  So the order of the calls says
little.  It numbers the states, it decides between several choices of a start state and between
several transitions from one state on one symbol, and it numbers the columns, which nobody sees.

`Reordered` are calls that have been permuted without touching any of this but the columns.  Both
sequences can be built or neither can, since soundness does not depend on the order
(`Reordered.isSound`), and they specify the same automaton up to its columns (`Reordered.alike`).
`Interleaved` are calls of which each kind comes in the same order.  They make the same blueprint, so
building it has the same outcome in every respect (`ofCalls_eq_of_interleaved`).
-/

namespace AutomatonKit.Blueprint

/-- The transitions that are called for from a state on a symbol, in the order of the calls. -/
def transitionsAt (source : String) (c : Char) (calls : List Call) : List NamedTransition :=
  (calls.filterMap Call.transition?).filter fun t => t.source = source ∧ t.symbol = c

/-- The calls have been permuted, where the declarations of states, the choices of a start state, and
the transitions from any state on any symbol keep their order. -/
structure Reordered (calls calls' : List Call) : Prop where
  perm : calls.Perm calls'
  states_eq : calls.filterMap Call.state? = calls'.filterMap Call.state?
  starts_eq : calls.filterMap Call.start? = calls'.filterMap Call.start?
  transitionsAt_eq : ∀ source c, transitionsAt source c calls = transitionsAt source c calls'

variable {calls calls' : List Call}

/-- Only the places of the transitions themselves have to be looked at. -/
theorem reordered_iff :
    Reordered calls calls' ↔ calls.Perm calls' ∧
      calls.filterMap Call.state? = calls'.filterMap Call.state? ∧
      calls.filterMap Call.start? = calls'.filterMap Call.start? ∧
      ∀ t ∈ calls.filterMap Call.transition?,
        transitionsAt t.source t.symbol calls = transitionsAt t.source t.symbol calls' := by
  constructor
  · intro h
    exact ⟨h.perm, h.states_eq, h.starts_eq, fun t _ => h.transitionsAt_eq t.source t.symbol⟩
  · rintro ⟨hperm, hstates, hstarts, h⟩
    refine ⟨hperm, hstates, hstarts, fun source c => ?_⟩
    by_cases hat : ∃ t ∈ calls.filterMap Call.transition?, t.source = source ∧ t.symbol = c
    · obtain ⟨t, ht, rfl, rfl⟩ := hat
      exact h t ht
    · have hnone : ∀ cs, cs.Perm calls → transitionsAt source c cs = [] := fun cs hcs =>
        List.filter_eq_nil_iff.mpr fun t ht htat =>
          hat ⟨t, (hcs.filterMap Call.transition?).subset ht, of_decide_eq_true htat⟩
      rw [hnone _ (List.Perm.refl calls), hnone _ hperm.symm]

instance (calls calls' : List Call) : Decidable (Reordered calls calls') :=
  decidable_of_iff' _ reordered_iff

/-- The calls of each kind are the same and in the same order. -/
@[mk_iff]
structure Interleaved (calls calls' : List Call) : Prop where
  states_eq : calls.filterMap Call.state? = calls'.filterMap Call.state?
  symbols_eq : calls.filterMap Call.symbol? = calls'.filterMap Call.symbol?
  starts_eq : calls.filterMap Call.start? = calls'.filterMap Call.start?
  accepting_eq : calls.filterMap Call.accepting? = calls'.filterMap Call.accepting?
  transitions_eq : calls.filterMap Call.transition? = calls'.filterMap Call.transition?

instance (calls calls' : List Call) : Decidable (Interleaved calls calls') :=
  decidable_of_iff' _ (interleaved_iff calls calls')

/-- Calls that are interleaved in another way make the same blueprint. -/
theorem ofCalls_eq_of_interleaved (h : Interleaved calls calls') :
    ofCalls calls = ofCalls calls' := by
  rw [ofCalls_eq, ofCalls_eq, sections, sections, h.states_eq, h.symbols_eq, h.starts_eq,
    h.accepting_eq, h.transitions_eq]

namespace Reordered

variable {d d' : Automaton}

theorem symm (h : Reordered calls calls') : Reordered calls' calls :=
  ⟨h.perm.symm, h.states_eq.symm, h.starts_eq.symm,
    fun source c => (h.transitionsAt_eq source c).symm⟩

theorem start_eq (h : Reordered calls calls') : (sections calls).start = (sections calls').start :=
  congrArg List.getLast? h.starts_eq

theorem mem_accepting_iff (h : Reordered calls calls') {n : String} :
    n ∈ (sections calls).accepting ↔ n ∈ (sections calls').accepting :=
  (h.perm.filterMap Call.accepting?).mem_iff

theorem transitions_perm (h : Reordered calls calls') :
    (sections calls).transitions.Perm (sections calls').transitions :=
  h.perm.filterMap Call.transition?

theorem lastTarget?_eq (h : Reordered calls calls') (source : String) (c : Char) :
    (sections calls).lastTarget? source c = (sections calls').lastTarget? source c :=
  congrArg (fun ts => ts.getLast?.map NamedTransition.target) (h.transitionsAt_eq source c)

/-- **Soundness does not depend on the order** of the calls. -/
theorem isSound (h : Reordered calls calls') (hsound : (sections calls).IsSound) :
    (sections calls').IsSound := by
  have hstates : (sections calls').states = (sections calls).states := h.states_eq.symm
  refine ⟨?_, fun n hn => ?_, fun n hn => ?_, fun t ht => ?_⟩
  · rw [hstates]
    exact hsound.distinct
  · rw [hstates]
    exact hsound.start n (h.start_eq.trans hn)
  · rw [hstates]
    exact hsound.accepting n (h.mem_accepting_iff.mpr hn)
  · rw [hstates]
    exact hsound.transitions t (h.transitions_perm.mem_iff.mpr ht)

/-- **What is specified does not depend on the order**, apart from the columns. -/
theorem alike (h : Reordered calls calls') (hd : (sections calls).Specifies d)
    (hd' : (sections calls').Specifies d') : d.Alike d' := by
  have hstates : (sections calls').states = (sections calls).states := h.states_eq.symm
  refine ⟨?_, ?_, ?_, fun c => ?_, fun p c => ?_⟩
  · rw [hd.states_eq, hd'.states_eq, hstates]
    refine List.map_congr_left fun n _ => ?_
    rw [decide_eq_decide.mpr h.mem_accepting_iff]
  · refine Option.ext fun id => ?_
    rw [hd.start_iff, hd'.start_iff, hstates, h.start_eq]
  · refine IdSet.ext_mem fun id => ?_
    rw [← Automaton.isAccepting_iff, ← Automaton.isAccepting_iff, hd.isAccepting_iff,
      hd'.isAccepting_iff, hstates]
    exact exists_congr fun n => and_congr_left fun _ => h.mem_accepting_iff
  · have hsymbols := (h.perm.filterMap Call.symbol?).append
      (h.transitions_perm.map NamedTransition.symbol)
    rw [hd.symbols_eq, hd'.symbols_eq, List.mem_eraseDups, List.mem_eraseDups]
    exact hsymbols.mem_iff
  · refine Option.ext fun q => ?_
    rw [hd.successor_iff, hd'.successor_iff, hstates]
    simp only [h.lastTarget?_eq]

end Reordered

/-- **The order of the calls hardly matters.**  Permute calls, but keep the declarations of states in
their order, and likewise the choices of a start state and the transitions from any one state on any
one symbol.  Either both sequences can be built or neither can, and the two automata are equal and
have the same traces.  If the calls of each kind keep their order and are only interleaved in another
way, the outcome is the same in every respect: the columns of the automaton, or else the fault. -/
theorem build_of_permuted_calls :
    (∀ calls calls' : List Call, Reordered calls calls' →
      ((∃ d, (ofCalls calls).build = .ok d) ↔ ∃ d', (ofCalls calls').build = .ok d') ∧
      ∀ d d', (ofCalls calls).build = .ok d → (ofCalls calls').build = .ok d' →
        d.sameAs d' = true ∧ ∀ w, d.trace w = d'.trace w) ∧
    ∀ calls calls' : List Call, Interleaved calls calls' →
      (ofCalls calls).build = (ofCalls calls').build := by
  refine ⟨fun calls calls' h => ⟨?_, fun d d' hd hd' => ?_⟩, fun calls calls' h => ?_⟩
  · rw [exists_build_iff, exists_build_iff, ofCalls_eq, ofCalls_eq]
    exact ⟨h.isSound, h.symm.isSound⟩
  · have hspec : (sections calls).Specifies d := ofCalls_eq calls ▸ specifies_build hd
    have hspec' : (sections calls').Specifies d' := ofCalls_eq calls' ▸ specifies_build hd'
    have halike := h.alike hspec hspec'
    have hwell := wellFormed_build hd
    have hwell' := wellFormed_build hd'
    exact ⟨(Automaton.sameAs_iff_alike hwell hwell').mpr halike, halike.trace_eq hwell hwell'⟩
  · rw [ofCalls_eq_of_interleaved h]

/-- A vending machine.  The start state is chosen twice, and a transition replaces another one. -/
def vending : List Call :=
  [.state "idle", .state "paid", .symbol 'r', .start "paid", .start "idle",
    .transition ⟨"idle", 'c', "idle"⟩, .transition ⟨"paid", 'r', "idle"⟩,
    .transition ⟨"idle", 'c', "paid"⟩, .accepting "paid", .accepting "idle"]

/-- The calls of `vending` from last to first, but for the order that matters. -/
def vendingBackwards : List Call :=
  [.accepting "idle", .accepting "paid", .transition ⟨"idle", 'c', "idle"⟩,
    .transition ⟨"idle", 'c', "paid"⟩, .transition ⟨"paid", 'r', "idle"⟩, .start "paid",
    .start "idle", .state "idle", .state "paid", .symbol 'r']

/-- The states of `vending` after everything else, and one of them misspelt. -/
def vendingMisspelt : List Call :=
  [.symbol 'r', .start "paid", .start "idle", .transition ⟨"idle", 'c', "idle"⟩,
    .transition ⟨"paid", 'r', "idle"⟩, .accepting "paid", .state "idle", .state "payed"]

/-- Both orders of the calls build the vending machine, and the misspelt state is found wherever it
is declared. -/
theorem build_of_permuted_calls_vending :
    Reordered vending vendingBackwards ∧
    (∃ d d', (ofCalls vending).build = .ok d ∧ (ofCalls vendingBackwards).build = .ok d' ∧
      d.sameAs d' = true ∧ d.trace ['c', 'r'] = d'.trace ['c', 'r']) ∧
    Interleaved vendingMisspelt (.state "idle" :: .state "payed" :: vendingMisspelt.take 6) ∧
    (ofCalls vendingMisspelt).build =
      (ofCalls (.state "idle" :: .state "payed" :: vendingMisspelt.take 6)).build := by
  have hreordered : Reordered vending vendingBackwards := by decide
  have hinterleaved :
      Interleaved vendingMisspelt (.state "idle" :: .state "payed" :: vendingMisspelt.take 6) := by
    decide
  obtain ⟨hbuilt, hsame⟩ := build_of_permuted_calls.1 _ _ hreordered
  obtain ⟨d, hd⟩ : ∃ d, (ofCalls vending).build = .ok d := ⟨_, rfl⟩
  obtain ⟨d', hd'⟩ := hbuilt.mp ⟨d, hd⟩
  obtain ⟨hequal, htrace⟩ := hsame d d' hd hd'
  exact ⟨hreordered, ⟨d, d', hd, hd', hequal, htrace _⟩, hinterleaved,
    build_of_permuted_calls.2 _ _ hinterleaved⟩

end AutomatonKit.Blueprint
