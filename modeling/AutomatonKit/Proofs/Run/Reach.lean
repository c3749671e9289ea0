import Mathlib
import AutomatonKit.Proofs.Run.Language

/-!
# The states that inputs lead to

`Automaton.Leads` says that the transition function leads from one state to another along some
input, and `Automaton.Reaches` that a run from the start state consumes some input and ends in the
state.  `reaches_iff` joins the two.  The states that a state leads to are the least set that
contains it and the targets of the edges of its members (`Leads.refl`, `Leads.snoc`,
`Leads.mem_of_closed`), and this is all that has to be known about inputs where states are searched
for.

`exists_walk_of_follow?` goes back from an input to the edges along it, which all bear symbols of
the alphabet (`mem_symbols_of_follow?`).
-/

namespace AutomatonKit.Automaton

variable {d : Automaton} {p q r : StateId} {c : Char} {w : List Char}

/-! ### The edges along an input -/

theorem follow?_append (d : Automaton) (p : StateId) (u v : List Char) :
    d.follow? p (u ++ v) = (d.follow? p u).bind fun q => d.follow? q v :=
  List.foldlM_append

theorem exists_walk_of_follow? (h : d.follow? p w = some q) :
    ∃ edges, d.Walk p edges q ∧ edges.map Transition.symbol = w := by
  induction w generalizing p with
  | nil =>
    obtain rfl : p = q := Option.some.inj h
    exact ⟨[], .nil p, rfl⟩
  | cons c w ih =>
    rw [follow?_cons, Option.bind_eq_some_iff] at h
    obtain ⟨r, first, hrest⟩ := h
    obtain ⟨edges, hwalk, hsymbols⟩ := ih hrest
    exact ⟨⟨p, c, r⟩ :: edges, .cons first hwalk, by rw [List.map_cons, hsymbols]⟩

/-- There are edges for symbols of the alphabet only. -/
theorem mem_symbols_of_follow? (h : d.follow? p w = some q) (hc : c ∈ w) :
    c ∈ d.alphabet.symbols := by
  induction w generalizing p with
  | nil => exact nomatch hc
  | cons x w ih =>
    rw [follow?_cons, Option.bind_eq_some_iff] at h
    obtain ⟨r, first, hrest⟩ := h
    rcases List.mem_cons.mp hc with rfl | hc
    · exact mem_symbols_of_successor first
    · exact ih hrest hc

/-! ### Leading from state to state -/

/-- The transition function leads from one state to another along some input. -/
def Leads (d : Automaton) (p q : StateId) : Prop :=
  ∃ w, d.follow? p w = some q

namespace Leads

theorem refl (d : Automaton) (p : StateId) : d.Leads p p :=
  ⟨[], rfl⟩

theorem snoc (h : d.Leads p q) (last : d.successor q c = some r) : d.Leads p r := by
  obtain ⟨w, hw⟩ := h
  refine ⟨w ++ [c], ?_⟩
  rw [follow?_append, hw, Option.bind_some, follow?_cons_of_successor last]
  rfl

/-- **No input leads out of a set** that contains the targets of the edges of its members. -/
theorem mem_of_closed {s : StateId → Prop} (h : d.Leads p q)
    (hclosed : ∀ x c y, s x → d.successor x c = some y → s y) (hp : s p) : s q := by
  obtain ⟨w, hw⟩ := h
  induction w generalizing p with
  | nil =>
    obtain rfl : p = q := Option.some.inj hw
    exact hp
  | cons c w ih =>
    rw [follow?_cons, Option.bind_eq_some_iff] at hw
    obtain ⟨x, first, hrest⟩ := hw
    exact ih (hclosed p c x hp first) hrest

theorem of_walk {edges : List Transition} (h : d.Walk p edges q) : d.Leads p q :=
  ⟨edges.map Transition.symbol ++ [], h.follow?_append []⟩

theorem lt_stateCount (h : d.Leads p q) (hd : d.WellFormed) (hp : p < d.stateCount) :
    q < d.stateCount :=
  h.mem_of_closed (fun _ _ _ _ hy => (hd.lt_of_successor hy).2) hp

end Leads

/-! ### Reaching a state from the start -/

/-- The run on some input consumes the whole input and ends in a state. -/
def Reaches (d : Automaton) (q : StateId) : Prop :=
  ∃ w, ((Run.start d).feed d w).consumed = w.length ∧ ((Run.start d).feed d w).current = some q

theorem reaches_iff : d.Reaches q ↔ ∃ s, d.start = some s ∧ d.Leads s q := by
  unfold Reaches Leads
  simp only [Run.consumed_current_iff]
  constructor
  · rintro ⟨w, s, hs, hw⟩
    exact ⟨s, hs, w, hw⟩
  · rintro ⟨s, hs, w, hw⟩
    exact ⟨w, s, hs, hw⟩

theorem reaches_iff_leads (hs : d.start = some p) : d.Reaches q ↔ d.Leads p q := by
  rw [reaches_iff, hs]
  simp

theorem not_reaches_of_start_eq_none (h : d.start = none) : ¬ d.Reaches q := by
  rw [reaches_iff, h]
  simp

end AutomatonKit.Automaton
