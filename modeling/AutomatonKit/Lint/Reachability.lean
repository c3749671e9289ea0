import AutomatonKit.Automaton.Basic

/-!
# Reachability

The states that no input leads to are found by a search along the edges from the start state.  The
search keeps two lists: the states that it has not met yet, and the states that it has met and whose
edges it has still to follow.  A step takes one state off the second list and moves the targets of
its edges from the first list to the second.

The search fails on an automaton with a start state or an edge that leads out of the registered
states, which only stored text can bring about.
-/

namespace AutomatonKit.Lint

/-- An edge or the choice of the start state leads to a state that is not registered. -/
structure DanglingId where
  /-- The number that is not registered. -/
  id : StateId
deriving DecidableEq

/-- The first number of a list that is not registered. -/
def danglingIn? (d : Automaton) (ids : List StateId) : Option StateId :=
  ids.find? fun id => !d.contains id

/-- The states that edges lead to from a state. -/
def targets (d : Automaton) (source : StateId) : List StateId :=
  (d.outgoing source).map (·.2)

def common (ids others : List StateId) : List StateId :=
  ids.filter fun id => others.contains id

def without (ids others : List StateId) : List StateId :=
  ids.filter fun id => !others.contains id

theorem length_common_add_length_without (ids others : List StateId) :
    (common ids others).length + (without ids others).length = ids.length := by
  induction ids with
  | nil => rfl
  | cons id ids ih =>
    unfold common without at ih ⊢
    rw [List.filter_cons, List.filter_cons, List.length_cons]
    cases others.contains id <;>
      simp only [Bool.not_true, Bool.not_false, Bool.false_eq_true, if_true, if_false,
        List.length_cons] <;> omega

/-- The states of `unseen` that the search does not come to, when it has still to follow the edges
of the states of `pending`. -/
def search (d : Automaton) (unseen pending : List StateId) : Except DanglingId (List StateId) :=
  match pending with
  | [] => .ok unseen
  | state :: rest =>
    match danglingIn? d (targets d state) with
    | some id => .error ⟨id⟩
    | none =>
      search d (without unseen (targets d state)) (rest ++ common unseen (targets d state))
termination_by unseen.length + pending.length
decreasing_by
  -- a target moves from one list to the other, and the state at hand leaves both
  have h := length_common_add_length_without unseen (targets d state)
  simp only [List.length_append, List.length_cons]
  omega

/-- The states that no input leads to, ascending.  Without a start state none is listed. -/
def unreachableStates (d : Automaton) : Except DanglingId (List StateId) :=
  match d.start with
  | none => .ok []
  | some start =>
    if d.contains start then search d (without d.ids [start]) [start]
    else .error ⟨start⟩

end AutomatonKit.Lint
