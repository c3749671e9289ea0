import Mathlib
import AutomatonKit.Proofs.Blueprint
import AutomatonKit.Proofs.Description.Reading
import AutomatonKit.Proofs.Lint.Search
import AutomatonKit.Snapshot.Binary
import AutomatonKit.Snapshot.Json

/-!
# Every index is in bounds

A transition is written into a row of the table, and the search for unreachable states marks
states, without asking first whether there is such a row or such a mark.  Only automata from stored
text could lack them, and a snapshot that is read has been checked.

`Automaton.Obtained` are the ways in which one comes by an automaton.  All of them give a well-formed
one (`Obtained.wellFormed`), for the check of a snapshot finds everything that could be wrong.  Edits
keep it so (`WellFormed.editAll?_eq`), and in a well-formed automaton every index is in bounds
(`WellFormed.indicesInBounds`).
-/

namespace AutomatonKit

variable {d : Automaton}

/-! ### What is read has been checked -/

namespace Snapshot

/-- A snapshot that passes the check is passed on as it is, and there is nothing wrong with its
automaton. -/
theorem violation?_eq_none_of_validate {s s' : Snapshot} (h : s.validate = .ok s') :
    s'.automaton.violation? = none := by
  unfold validate at h
  split at h
  · exact nomatch h
  · split at h
    · exact nomatch h
    · next hnone => rwa [← Except.ok.inj h]

theorem violation?_eq_none_of_ofJson {text : String} {s : Snapshot} (h : ofJson text = .ok s) :
    s.automaton.violation? = none := by
  unfold ofJson at h
  split at h
  · exact violation?_eq_none_of_validate h
  · exact nomatch h

theorem violation?_eq_none_of_ofBytes {bytes : Binary.Bytes} {s : Snapshot}
    (h : ofBytes bytes = .ok s) : s.automaton.violation? = none := by
  unfold ofBytes at h
  split at h
  · exact violation?_eq_none_of_validate h
  · exact nomatch h

end Snapshot

namespace Automaton

/-- The ways in which an automaton is obtained, before it is edited. -/
inductive Obtained : Automaton → Prop where
  /-- Begin with an automaton without states. -/
  | empty : Obtained .empty
  | read (text : String) : Obtained (Description.read text).automaton
  | build {calls : List Blueprint.Call} {d : Automaton}
      (h : (Blueprint.ofCalls calls).build = .ok d) : Obtained d
  | ofJson {text : String} {s : Snapshot} (h : Snapshot.ofJson text = .ok s) : Obtained s.automaton
  | ofBytes {bytes : Binary.Bytes} {s : Snapshot} (h : Snapshot.ofBytes bytes = .ok s) :
      Obtained s.automaton

theorem Obtained.wellFormed (h : d.Obtained) : d.WellFormed := by
  cases h with
  | empty => exact wellFormed_empty
  | read text => exact Description.Reading.wellFormed_foldl_readLine _
  | build h => exact Blueprint.wellFormed_build h
  | ofJson h => exact (violation?_eq_none_iff _).mp (Snapshot.violation?_eq_none_of_ofJson h)
  | ofBytes h => exact (violation?_eq_none_iff _).mp (Snapshot.violation?_eq_none_of_ofBytes h)

/-! ### Edits -/

/-- Performs edits one after the other, as long as every row that they write into exists. -/
def editAll? (d : Automaton) (edits : List Edit) : Option Automaton :=
  edits.foldlM (fun d e => (d.edit? e).map (·.1)) d

theorem WellFormed.editAll?_eq (h : d.WellFormed) (edits : List Edit) :
    d.editAll? edits = some (d.editAll edits) := by
  induction edits generalizing d with
  | nil => rfl
  | cons e edits ih =>
    unfold editAll? at ih ⊢
    rw [List.foldlM_cons, h.edit?_eq e]
    exact ih (h.edit e)

/-! ### Indices -/

/-- Every number that is used as an index lies in the list that it is used with.  There is a row for
the source of each transition that can be written.  The search for unreachable states has a mark for
each registered state; it needs those of the start state, of the targets of edges, and in the end
those of all states. -/
structure IndicesInBounds (d : Automaton) : Prop where
  row_lt : ∀ p, d.contains p = true → p < d.table.length
  start_lt : ∀ p, d.start = some p → p < d.stateCount
  target_lt : ∀ p, ∀ q ∈ Lint.targets d p, q < d.stateCount
  state_lt : ∀ entry ∈ d.numberedStates, entry.2 < d.stateCount

theorem WellFormed.indicesInBounds (h : d.WellFormed) : d.IndicesInBounds where
  row_lt p hp := by
    rw [h.length_table]
    exact contains_iff.mp hp
  start_lt := h.start_lt
  target_lt _ _ hq := Lint.lt_of_mem_targets h hq
  state_lt entry hentry := by
    rw [numberedStates] at hentry
    exact (List.getElem?_eq_some_iff.mp (List.mk_mem_zipIdx_iff_getElem?.mp hentry)).1

/-- **No index is ever out of bounds.**  Take an automaton that was obtained in any way, and edit it
in any way.  Every transition finds the row that it is written into, and so does every edit after
it.  All marks of the search for unreachable states exist, so the search comes to its end and every
check does. -/
theorem editAll?_indicesInBounds (d : Automaton) (h : d.Obtained) (edits : List Edit) :
    ∃ d', d.editAll? edits = some d' ∧ d'.IndicesInBounds ∧
      (∀ e, d'.edit? e = some (d'.edit e)) ∧
      (∃ ids, Lint.unreachableStates d' = .ok ids) ∧
      ∀ rules : Lint.Rules, ∃ issues, rules.check d' = .ok issues := by
  have hd := h.wellFormed
  have hd' := hd.editAll edits
  exact ⟨d.editAll edits, hd.editAll?_eq edits, hd'.indicesInBounds, hd'.edit?_eq,
    Lint.exists_unreachableStates hd', Lint.exists_check hd'⟩

/-- A stored gate that was edited by hand: its members are in another order, one is unknown, and a
symbol is listed twice. -/
def gateText : String :=
  "\x7b\"id\": \"gate\", \"version\": 1, \"note\": [], \"automaton\": \x7b\"table\": [[0]]," ++
    "\"alphabet\": [\"x\", \"x\"], \"states\": [\x7b\"accepting\": false, \"name\": \"a\"\x7d], " ++
    "\"accepting\": [], \"start\": 0\x7d, \"created_at\": \"2024-02-29T00:00:00Z\"\x7d"

/-- The gate that `gateText` holds. -/
def gate : Snapshot where
  version := 1
  id := "gate"
  createdAt := ⟨⟨2024, 2, 29⟩, 0, 0, 0, 0⟩
  automaton :=
    { states := [{ name := "a" }]
      alphabet := .ofList ['x']
      table := [[some 0]]
      start := some 0
      accepting := .empty }

/-- Edits of the gate that refer to states before and after these are registered. -/
theorem editAll?_indicesInBounds_gate :
    Snapshot.ofJson gateText = .ok gate ∧
      ∃ d', gate.automaton.editAll? [.addTransition 0 'y' 1, .setStart 7, .addState { name := "b" },
        .addTransition 1 'x' 0, .addTransition 0 'y' 1] = some d' ∧ d'.IndicesInBounds := by
  have hread : Snapshot.ofJson gateText = .ok gate := by decide +kernel
  obtain ⟨d', hedits, hbounds, -⟩ := editAll?_indicesInBounds gate.automaton (.ofJson hread)
    [.addTransition 0 'y' 1, .setStart 7, .addState { name := "b" }, .addTransition 1 'x' 0,
      .addTransition 0 'y' 1]
  exact ⟨hread, d', hedits, hbounds⟩

end Automaton

end AutomatonKit
