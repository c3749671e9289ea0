import Mathlib
import AutomatonKit.Blueprint
import AutomatonKit.Proofs.Automaton.Building

/-!
# What building a blueprint does

A blueprint that can be built is built by edits, `Blueprint.edits`: its states and symbols, then the
start state, the accepting states and the transitions, with each name replaced by the number of the
state (`eq_editAll_of_build`).  Therefore nothing is wrong with what is built (`wellFormed_build`).
-/

namespace AutomatonKit.Blueprint

theorem bind_eq_ok_iff {ε α β : Type} {x : Except ε α} {f : α → Except ε β} {b : β} :
    (x >>= f) = .ok b ↔ ∃ a, x = .ok a ∧ f a = .ok b := by
  cases x with
  | error e =>
    constructor
    · intro h
      exact nomatch h
    · rintro ⟨a, ha, -⟩
      exact nomatch ha
  | ok a =>
    constructor
    · intro h
      exact ⟨a, rfl, h⟩
    · rintro ⟨a', ha, h⟩
      rw [Except.ok.inj ha]
      exact h

theorem resolve_eq_ok_iff {b : Blueprint} {fault : String → Fault} {name : String} {id : StateId} :
    b.resolve fault name = .ok id ↔ b.idOf? name = some id := by
  unfold resolve
  cases b.idOf? name <;> simp

/-! ### The edits of a blueprint -/

/-- The edge that a transition between declared states describes. -/
def edge? (b : Blueprint) (t : NamedTransition) : Option Transition :=
  (b.idOf? t.source).bind fun p => (b.idOf? t.target).map fun q => ⟨p, t.symbol, q⟩

/-- The edits that build a blueprint.  A name that is not declared has no edit. -/
def edits (b : Blueprint) : List Edit :=
  Automaton.declaringEdits b.states ++ b.symbols.map .addSymbol ++
    (b.start.bind b.idOf?).toList.map .setStart ++
    (b.accepting.filterMap b.idOf?).map .addAccepting ++
    (b.transitions.filterMap b.edge?).map Transition.edit

variable {b : Blueprint} {d d' : Automaton}

theorem declare_eq_editAll (b : Blueprint) :
    b.declare =
      Automaton.empty.editAll (Automaton.declaringEdits b.states ++ b.symbols.map .addSymbol) := by
  rw [Automaton.editAll_append, Automaton.editAll, Automaton.editAll, Automaton.declaringEdits,
    List.foldl_map, List.foldl_map]
  rfl

theorem eq_editAll_of_buildStart (h : b.buildStart d = .ok d') :
    d' = d.editAll ((b.start.bind b.idOf?).toList.map .setStart) := by
  unfold buildStart at h
  cases hstart : b.start with
  | none =>
    rw [hstart] at h
    exact (Except.ok.inj h).symm
  | some name =>
    rw [hstart] at h
    obtain ⟨id, hid, hd⟩ := bind_eq_ok_iff.mp h
    rw [Option.bind_some, resolve_eq_ok_iff.mp hid]
    exact (Except.ok.inj hd).symm

theorem eq_editAll_of_foldlM_buildAccepting {names : List String}
    (h : names.foldlM b.buildAccepting d = .ok d') :
    d' = d.editAll ((names.filterMap b.idOf?).map .addAccepting) := by
  induction names generalizing d with
  | nil => exact (Except.ok.inj h).symm
  | cons name names ih =>
    rw [List.foldlM_cons] at h
    -- the fold goes on, so the name was resolved and has an edit
    obtain ⟨d₁, h₁, hrest⟩ := bind_eq_ok_iff.mp h
    obtain ⟨id, hid, hd₁⟩ := bind_eq_ok_iff.mp h₁
    rw [List.filterMap_cons_some (resolve_eq_ok_iff.mp hid), ih hrest, ← Except.ok.inj hd₁]
    rfl

theorem eq_editAll_of_foldlM_buildTransition {ts : List NamedTransition}
    (h : ts.foldlM b.buildTransition d = .ok d') :
    d' = d.editAll ((ts.filterMap b.edge?).map Transition.edit) := by
  induction ts generalizing d with
  | nil => exact (Except.ok.inj h).symm
  | cons t ts ih =>
    rw [List.foldlM_cons] at h
    obtain ⟨d₁, h₁, hrest⟩ := bind_eq_ok_iff.mp h
    obtain ⟨p, hp, h₂⟩ := bind_eq_ok_iff.mp h₁
    obtain ⟨q, hq, hd₁⟩ := bind_eq_ok_iff.mp h₂
    have hedge : b.edge? t = some ⟨p, t.symbol, q⟩ := by
      rw [edge?, resolve_eq_ok_iff.mp hp, resolve_eq_ok_iff.mp hq]
      rfl
    rw [List.filterMap_cons_some hedge, ih hrest, ← Except.ok.inj hd₁]
    rfl

/-- **A blueprint that can be built is built by its edits.** -/
theorem eq_editAll_of_build (h : b.build = .ok d) : d = Automaton.empty.editAll b.edits := by
  unfold build at h
  split at h
  · exact nomatch h
  · obtain ⟨d₁, h₁, h⟩ := bind_eq_ok_iff.mp h
    obtain ⟨d₂, h₂, h₃⟩ := bind_eq_ok_iff.mp h
    rw [eq_editAll_of_foldlM_buildTransition h₃, eq_editAll_of_foldlM_buildAccepting h₂,
      eq_editAll_of_buildStart h₁, declare_eq_editAll]
    simp only [edits, Automaton.editAll_append]

theorem wellFormed_build (h : b.build = .ok d) : d.WellFormed := by
  rw [eq_editAll_of_build h]
  exact Automaton.wellFormed_empty.editAll b.edits

end AutomatonKit.Blueprint
