import Mathlib
import AutomatonKit.Lint.Rules
import AutomatonKit.Proofs.Run.Reach

/-!
# The search along the edges

`Searches` is the search for unreachable states as it goes, turn by turn.  It fails only where it
comes to a number that is not registered.  In a well-formed automaton the start state and the
targets of all edges are registered, so every search comes to its end (`exists_searches`), and so
does every choice of checks (`exists_check`).  A state is pending once, when it has been met, so
there are as many turns as there are states to meet (`Searches.turns_eq`).

What the turns of a search that began at a state keep is `Invariant`: the states that have been met
are led to from there, and the edges of a state that has been met are followed unless it is still
pending (`Invariant.turn`).  When none is pending, the states met are closed under edges, and what
is left are exactly the states that the first one does not lead to (`Invariant.mem_iff`).
-/

namespace AutomatonKit.Lint

variable {d : Automaton} {unseen pending ids : List StateId} {s p q : StateId} {n : Nat}

/-! ### Edges -/

theorem danglingIn?_eq_none_iff {ids : List StateId} :
    danglingIn? d ids = none ↔ ∀ id ∈ ids, id < d.stateCount := by
  unfold danglingIn?
  rw [List.find?_eq_none]
  refine forall₂_congr fun id _ => ?_
  rw [← Automaton.contains_iff]
  cases d.contains id <;> simp

theorem mem_targets_iff {p q : StateId} :
    q ∈ targets d p ↔ ∃ c, d.successor p c = some q := by
  unfold targets
  rw [List.mem_map]
  constructor
  · rintro ⟨⟨c, _⟩, hedge, rfl⟩
    exact ⟨c, (Automaton.mem_outgoing_iff d).mp hedge⟩
  · rintro ⟨c, hc⟩
    exact ⟨(c, q), (Automaton.mem_outgoing_iff d).mpr hc, rfl⟩

theorem lt_of_mem_targets (h : d.WellFormed) {p q : StateId} (hq : q ∈ targets d p) :
    q < d.stateCount := by
  obtain ⟨c, hc⟩ := mem_targets_iff.mp hq
  exact (h.lt_of_successor hc).2

theorem mem_common {others : List StateId} : q ∈ common ids others ↔ q ∈ ids ∧ q ∈ others := by
  rw [common, List.mem_filter, List.contains_iff_mem]

theorem mem_without {others : List StateId} : q ∈ without ids others ↔ q ∈ ids ∧ q ∉ others := by
  rw [without, List.mem_filter, Bool.not_eq_true', ← Bool.not_eq_true, List.contains_iff_mem]

/-! ### Turns -/

/-- How a search goes that has met all states but `unseen` and still has to follow the edges of the
states of `pending`: it takes a number of turns, and `ids` are the states that it does not come to.
A turn takes up one pending state, and the targets of its edges that have not been met before become
pending. -/
inductive Searches (d : Automaton) :
    (unseen pending ids : List StateId) → (turns : Nat) → Prop where
  | done (unseen : List StateId) : Searches d unseen [] unseen 0
  | turn {unseen rest ids : List StateId} {state : StateId} {turns : Nat}
      (registered : ∀ q ∈ targets d state, q < d.stateCount)
      (next : Searches d (without unseen (targets d state))
        (rest ++ common unseen (targets d state)) ids turns) :
      Searches d unseen (state :: rest) ids (turns + 1)

/-- In a well-formed automaton every search comes to its end, wherever it begins. -/
theorem exists_searches (h : d.WellFormed) (unseen pending : List StateId) :
    ∃ ids turns, Searches d unseen pending ids turns := by
  induction unseen, pending using search.induct d with
  | case1 unseen => exact ⟨unseen, 0, .done unseen⟩
  | case2 unseen state rest id hdangling =>
    -- a target that is not registered would be missing in the check of the targets
    rw [danglingIn?_eq_none_iff.mpr fun q hq => lt_of_mem_targets h hq] at hdangling
    exact nomatch hdangling
  | case3 unseen state rest hnone ih =>
    obtain ⟨ids, turns, hnext⟩ := ih
    exact ⟨ids, turns + 1, .turn (danglingIn?_eq_none_iff.mp hnone) hnext⟩

namespace Searches

theorem search_eq (h : Searches d unseen pending ids n) : search d unseen pending = .ok ids := by
  induction h with
  | done unseen => rw [search]
  | turn registered _ ih =>
    rw [search, danglingIn?_eq_none_iff.mpr registered]
    exact ih

/-- **Each state is taken up once**: the turns are as many as the states that were pending or have
been met on the way. -/
theorem turns_eq (h : Searches d unseen pending ids n) :
    n + ids.length = unseen.length + pending.length := by
  induction h with
  | done unseen => exact Nat.zero_add _
  | @turn unseen rest ids state turns _ _ ih =>
    have hsplit := length_common_add_length_without unseen (targets d state)
    rw [List.length_append] at ih
    rw [List.length_cons]
    omega

/-- The states that are left are among the unseen ones, in the same order. -/
theorem sublist (h : Searches d unseen pending ids n) : ids.Sublist unseen := by
  induction h with
  | done unseen => exact List.Sublist.refl unseen
  | turn _ _ ih => exact ih.trans List.filter_sublist

end Searches

/-! ### What the turns keep -/

/-- What holds between the turns of a search that began at a state. -/
structure Invariant (d : Automaton) (start : StateId) (unseen pending : List StateId) : Prop where
  start_met : start ∉ unseen
  /-- The state where the search began leads to every state that has been met. -/
  leads_of_met : ∀ q < d.stateCount, q ∉ unseen → d.Leads start q
  leads_of_pending : ∀ p ∈ pending, d.Leads start p
  /-- A state that has been met is pending, or its edges have been followed. -/
  closed : ∀ p, p ∉ unseen → p ∈ pending ∨ ∀ q ∈ targets d p, q ∉ unseen

namespace Invariant

/-- One turn keeps the invariant. -/
theorem turn {rest : List StateId} (h : Invariant d s unseen (p :: rest)) :
    Invariant d s (without unseen (targets d p)) (rest ++ common unseen (targets d p)) := by
  have htargets : ∀ q ∈ targets d p, d.Leads s q := by
    intro q hq
    obtain ⟨c, hc⟩ := mem_targets_iff.mp hq
    exact (h.leads_of_pending p List.mem_cons_self).snoc hc
  have hseen : ∀ {q}, q ∉ unseen → q ∉ without unseen (targets d p) :=
    fun hq hmem => hq (mem_without.mp hmem).1
  refine ⟨hseen h.start_met, fun q hlt hq => ?_, fun q hq => ?_, fun x hx => ?_⟩
  · by_cases hunseen : q ∈ unseen
    · by_contra hleads
      exact hq (mem_without.mpr ⟨hunseen, fun hmem => hleads (htargets q hmem)⟩)
    · exact h.leads_of_met q hlt hunseen
  · rcases List.mem_append.mp hq with hq | hq
    · exact h.leads_of_pending q (List.mem_cons_of_mem _ hq)
    · exact htargets q (mem_common.mp hq).2
  · by_cases hunseen : x ∈ unseen
    · -- it has been met in this turn
      have hmem : x ∈ targets d p := by
        by_contra hmem
        exact hx (mem_without.mpr ⟨hunseen, hmem⟩)
      exact Or.inl (List.mem_append_right _ (mem_common.mpr ⟨hunseen, hmem⟩))
    · rcases h.closed x hunseen with hpending | hfollowed
      · rcases List.mem_cons.mp hpending with rfl | hrest
        · exact Or.inr fun q hq hmem => (mem_without.mp hmem).2 hq
        · exact Or.inl (List.mem_append_left _ hrest)
      · exact Or.inr fun q hq => hseen (hfollowed q hq)

/-- The invariant is kept to the end of the search, when no state is pending. -/
theorem of_searches (h : Invariant d s unseen pending) (hs : Searches d unseen pending ids n) :
    Invariant d s ids [] := by
  induction hs with
  | done unseen => exact h
  | turn _ _ ih => exact ih h.turn

/-- **What a search leaves** are the states that the first one does not lead to. -/
theorem mem_iff (h : Invariant d s ids []) (hq : q < d.stateCount) : q ∈ ids ↔ ¬ d.Leads s q := by
  constructor
  · intro hmem hleads
    have hclosed : ∀ x c y, x ∉ ids → d.successor x c = some y → y ∉ ids := by
      intro x c y hx hy
      rcases h.closed x hx with hnil | hfollowed
      · exact absurd hnil List.not_mem_nil
      · exact hfollowed y (mem_targets_iff.mpr ⟨c, hy⟩)
    exact hleads.mem_of_closed hclosed h.start_met hmem
  · intro hleads
    by_contra hmem
    exact hleads (h.leads_of_met q hq hmem)

end Invariant

/-! ### The search from the start state -/

theorem invariant_start (h : d.WellFormed) (s : StateId) :
    Invariant d s (without d.ids [s]) [s] := by
  have hmet : ∀ {q}, q ∉ without d.ids [s] ↔ (q < d.stateCount → q = s) := by
    intro q
    rw [mem_without, Automaton.ids, List.mem_range, List.mem_singleton, not_and_not_right]
  refine ⟨hmet.mpr fun _ => rfl, fun q hlt hq => ?_, fun p hp => ?_, fun x hx => ?_⟩
  · rw [hmet.mp hq hlt]
    exact .refl d s
  · rw [List.mem_singleton.mp hp]
    exact .refl d s
  · by_cases hlt : x < d.stateCount
    · exact Or.inl (List.mem_singleton.mpr (hmet.mp hx hlt))
    · -- no edge leaves a number without a state
      refine Or.inr fun q hq => ?_
      obtain ⟨c, hc⟩ := mem_targets_iff.mp hq
      exact absurd (h.lt_of_successor hc).1 hlt

/-- One state is the first to be met. -/
theorem length_without_start (hs : s < d.stateCount) :
    (without d.ids [s]).length + 1 = d.stateCount := by
  have hone : (common d.ids [s]).length = 1 := by
    have hmem : s ∈ d.ids := List.mem_range.mpr hs
    have hcount : d.ids.count s = 1 := List.count_eq_one_of_mem List.nodup_range hmem
    rw [← hcount, List.count_eq_length_filter, common]
    congr 2
    funext q
    rw [List.contains_cons, List.contains_nil, Bool.or_false]
  have hsplit := length_common_add_length_without d.ids [s]
  rw [hone, Automaton.ids, List.length_range] at hsplit
  rw [Automaton.ids]
  omega

/-- **The search from the start state** takes up every state that is reached, once, and what it
leaves are the states that are not reached, ascending. -/
theorem exists_unreachableStates_of_start (h : d.WellFormed) (hs : d.start = some s) :
    ∃ ids turns, unreachableStates d = .ok ids ∧
      Searches d (without d.ids [s]) [s] ids turns ∧ turns + ids.length = d.stateCount ∧
      ids.Pairwise (· < ·) ∧ ∀ q, q ∈ ids ↔ q < d.stateCount ∧ ¬ d.Reaches q := by
  have hlt : s < d.stateCount := h.start_lt s hs
  obtain ⟨ids, turns, hsearches⟩ := exists_searches h (without d.ids [s]) [s]
  have hsublist : ids.Sublist d.ids := hsearches.sublist.trans List.filter_sublist
  refine ⟨ids, turns, ?_, hsearches, ?_, List.pairwise_lt_range.sublist hsublist, fun q => ?_⟩
  · rw [unreachableStates, hs]
    exact (if_pos (Automaton.contains_iff.mpr hlt)).trans hsearches.search_eq
  · rw [hsearches.turns_eq]
    exact length_without_start hlt
  · rw [Automaton.reaches_iff_leads hs]
    constructor
    · intro hq
      have hcount : q < d.stateCount := List.mem_range.mp (hsublist.subset hq)
      exact ⟨hcount, (((invariant_start h s).of_searches hsearches).mem_iff hcount).mp hq⟩
    · rintro ⟨hcount, hleads⟩
      exact (((invariant_start h s).of_searches hsearches).mem_iff hcount).mpr hleads

theorem unreachableStates_of_start_eq_none (h : d.start = none) : unreachableStates d = .ok [] := by
  rw [unreachableStates, h]

theorem exists_unreachableStates (h : d.WellFormed) : ∃ ids, unreachableStates d = .ok ids := by
  cases hs : d.start with
  | none => exact ⟨[], unreachableStates_of_start_eq_none hs⟩
  | some s =>
    obtain ⟨ids, -, hids, -⟩ := exists_unreachableStates_of_start h hs
    exact ⟨ids, hids⟩

/-- **Checking a well-formed automaton does not fail**, whichever checks are chosen. -/
theorem exists_check (h : d.WellFormed) (rules : Rules) :
    ∃ issues, rules.check d = .ok issues := by
  obtain ⟨ids, hids⟩ := exists_unreachableStates h
  unfold Rules.check Rules.validate Rules.builtInIssues unreachableIssues
  rw [hids]
  cases rules.reachability <;> exact ⟨_, rfl⟩

end AutomatonKit.Lint
