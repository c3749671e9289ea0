import AutomatonKit.Lint.Issue

/-!
# Results of checks

A check either succeeds or fails with the issues that it has found.  A failure has at least one
issue, so that success and failure can be told apart by the issues alone.  `Validation.all` puts the
results of several checks together.  It does not stop at the first failure: what it fails with are
the issues of all failures, in their order.
-/

namespace AutomatonKit.Lint

/-- The result of a check: a value, or a failure with one issue or more. -/
inductive Validation (α : Type) where
  | success (value : α)
  | failure (first : Issue) (more : List Issue)
deriving DecidableEq

namespace Validation

variable {α β : Type}

/-- A failure with a single issue. -/
def fail (issue : Issue) : Validation α :=
  .failure issue []

/-- The result of a check that lists what it finds. -/
def ofIssues : List Issue → Validation Unit
  | [] => .success ()
  | first :: more => .failure first more

instance : Coe (List Issue) (Validation Unit) :=
  ⟨ofIssues⟩

/-- The issues of a failure; a success has none. -/
def issues : Validation α → List Issue
  | .success _ => []
  | .failure first more => first :: more

def map (f : α → β) : Validation α → Validation β
  | .success value => .success (f value)
  | .failure first more => .failure first more

/-- The results of several checks together: all values, or the issues of all failures. -/
def all : List (Validation α) → Validation (List α)
  | [] => .success []
  | .success value :: results => (all results).map (value :: ·)
  | .failure first more :: results => .failure first (more ++ (all results).issues)

theorem issues_map (f : α → β) (result : Validation α) : (result.map f).issues = result.issues := by
  cases result <;> rfl

/-- No issue is lost, and none comes twice, when results are put together. -/
theorem issues_all (results : List (Validation α)) :
    (all results).issues = results.flatMap issues := by
  induction results with
  | nil => rfl
  | cons result results ih =>
    rw [List.flatMap_cons, ← ih]
    cases result with
    | success value => exact issues_map _ _
    | failure first more => rfl

end Validation

end AutomatonKit.Lint
