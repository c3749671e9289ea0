import Mathlib
import AutomatonKit.Proofs.Blueprint
import AutomatonKit.Proofs.Description.Reading

/-!
# The check accepts what edits build

`noViolation_iff_exists_edits`: the check `Automaton.violation?` finds nothing wrong with an
automaton if and only if some run of edits builds this very automaton, columns and row lengths
included.  Edits keep an automaton well-formed, which is the one direction; the other is
`editAll_buildingEdits`.  What a description or a blueprint yields is built by edits and therefore
passes the check.
-/

namespace AutomatonKit

/-- **The check is exact.**  It passes the automata that a run of edits builds from the empty one,
and no others; in particular it passes every automaton that is read from a description or built
from a blueprint. -/
theorem noViolation_iff_exists_edits :
    (∀ d : Automaton,
      d.violation? = none ↔ ∃ edits : List Edit, Automaton.empty.editAll edits = d) ∧
    (∀ text : String, (Description.read text).automaton.violation? = none) ∧
    (∀ (calls : List Blueprint.Call) (d : Automaton),
      (Blueprint.ofCalls calls).build = .ok d → d.violation? = none) := by
  refine ⟨fun d => ?_, fun text => ?_, fun calls d hd => ?_⟩
  · rw [Automaton.violation?_eq_none_iff]
    constructor
    · intro h
      exact ⟨d.buildingEdits, Automaton.editAll_buildingEdits h⟩
    · rintro ⟨edits, rfl⟩
      exact Automaton.wellFormed_empty.editAll edits
  · rw [Automaton.violation?_eq_none_iff]
    exact Description.Reading.wellFormed_foldl_readLine _
  · rw [Automaton.violation?_eq_none_iff, Blueprint.eq_editAll_of_build hd]
    exact Automaton.wellFormed_empty.editAll _

/-- A blueprint with one accepting state and a loop is built, and the result passes the check. -/
theorem noViolation_of_loop_blueprint :
    ∃ d, (Blueprint.ofCalls [.state "a", .start "a", .accepting "a",
      .transition ⟨"a", 'x', "a"⟩]).build = .ok d ∧ d.violation? = none :=
  ⟨_, rfl, noViolation_iff_exists_edits.2.2 [.state "a", .start "a", .accepting "a",
    .transition ⟨"a", 'x', "a"⟩] _ rfl⟩

end AutomatonKit
