import Mathlib
import AutomatonKit.Proofs.Lint.Report

/-!
# Every issue is reported, in a fixed order

What is reported depends on the calls that choose the checks in two ways only: on which built-in
checks are among them, and on the further checks in the order in which they were added
(`Rules.has_ofList`, `Rules.custom_ofList`).  The built-in checks come first, in an order of their
own, then the further ones.

The results are put together at the end.  Of this step nothing is used but `Accumulates`: that
successes give a success, and failures one failure with the issues of all of them in their order.
Then the issues of the outcome are those of the results (`Accumulates.issues_eq`), and the outcome is
a success exactly if there are none.  `validate_accumulates` puts this together.
-/

namespace AutomatonKit.Lint

/-! ### The choice that calls make -/

/-- The further check that a call adds, if it does not turn on a built-in one. -/
def Rule.custom? : Rule → Option (Automaton → Validation Unit)
  | .custom check => some check
  | _ => none

attribute [ext] Rules

namespace Rules

variable {rules : Rules} {rule : Rule} {calls calls' : List Rule}

/-- Whether a choice of checks has what a call asks for. -/
def Has (rules : Rules) : Rule → Prop
  | .requireStart => rules.requireStart = true
  | .requireAccepting => rules.requireAccepting = true
  | .reachability => rules.reachability = true
  | .completeness => rules.completeness = true
  | .distinctNames => rules.distinctNames = true
  | .custom check => check ∈ rules.custom

/-- A call adds what it asks for and takes nothing away. -/
theorem has_add {call : Rule} : (rules.add call).Has rule ↔ rules.Has rule ∨ rule = call := by
  cases call <;> cases rule <;> simp [Has, add]

theorem has_foldl_add : (calls.foldl add rules).Has rule ↔ rules.Has rule ∨ rule ∈ calls := by
  induction calls generalizing rules with
  | nil => simp
  | cons call calls ih => rw [List.foldl_cons, ih, has_add, List.mem_cons, or_assoc]

/-- **The choice has what the calls ask for**, however often and in whatever order. -/
theorem has_ofList : (ofList calls).Has rule ↔ rule ∈ calls := by
  have hnone : ¬ ({} : Rules).Has rule := by cases rule <;> simp [Has]
  rw [ofList, has_foldl_add, or_iff_right hnone]

theorem custom_foldl_add :
    (calls.foldl add rules).custom = rules.custom ++ calls.filterMap Rule.custom? := by
  induction calls generalizing rules with
  | nil => simp
  | cons call calls ih =>
    rw [List.foldl_cons, ih]
    cases call with
    | custom check => simp [add, Rule.custom?]
    | _ => rfl

/-- The further checks are in the order of the calls that added them. -/
theorem custom_ofList : (ofList calls).custom = calls.filterMap Rule.custom? :=
  custom_foldl_add.trans (List.nil_append _)

/-- **The order of the calls does not matter**, except among those that add further checks. -/
theorem ofList_congr (hbuiltIn : ∀ rule, rule.custom? = none → (rule ∈ calls' ↔ rule ∈ calls))
    (hcustom : calls'.filterMap Rule.custom? = calls.filterMap Rule.custom?) :
    ofList calls' = ofList calls := by
  have hhas : ∀ rule, rule.custom? = none →
      ((ofList calls').Has rule ↔ (ofList calls).Has rule) := by
    intro rule hrule
    rw [has_ofList, has_ofList, hbuiltIn rule hrule]
  apply Rules.ext
  · exact Bool.eq_iff_iff.mpr (hhas .requireStart rfl)
  · exact Bool.eq_iff_iff.mpr (hhas .requireAccepting rfl)
  · exact Bool.eq_iff_iff.mpr (hhas .reachability rfl)
  · exact Bool.eq_iff_iff.mpr (hhas .completeness rfl)
  · exact Bool.eq_iff_iff.mpr (hhas .distinctNames rfl)
  · rw [custom_ofList, custom_ofList, hcustom]

end Rules

/-! ### Putting results together -/

namespace Validation

variable {result : Validation Unit}

theorem issues_eq_nil_iff : result.issues = [] ↔ result = .success () := by
  cases result <;> simp [issues]

end Validation

/-- A way of putting results together that loses no issue. -/
structure Accumulates (combine : List (Validation Unit) → Validation (List Unit)) : Prop where
  /-- Successes give the list of their values. -/
  successes : ∀ values, combine (values.map .success) = .success values
  /-- Where there is a failure, the issues of all failures are collected in their order. -/
  failures : ∀ results, (∃ result ∈ results, result.issues ≠ []) →
    (combine results).issues = results.flatMap Validation.issues

theorem accumulates_all : Accumulates Validation.all where
  successes values := by
    induction values with
    | nil => rfl
    | cons value values ih =>
      rw [List.map_cons, Validation.all, ih]
      rfl
  failures results _ := Validation.issues_all results

theorem Accumulates.issues_eq {combine : List (Validation Unit) → Validation (List Unit)}
    (h : Accumulates combine) (results : List (Validation Unit)) :
    (combine results).issues = results.flatMap Validation.issues := by
  by_cases hfailure : ∃ result ∈ results, result.issues ≠ []
  · exact h.failures results hfailure
  · have hsuccess : ∀ result ∈ results, result = .success () := by
      intro result hresult
      by_contra hne
      exact hfailure ⟨result, hresult, mt Validation.issues_eq_nil_iff.mp hne⟩
    have hvalues : results = (List.replicate results.length ()).map .success := by
      rw [List.map_replicate]
      exact List.eq_replicate_of_mem hsuccess
    have hnone : results.flatMap Validation.issues = [] := by
      apply List.flatMap_eq_nil_iff.mpr
      intro result hresult
      rw [hsuccess result hresult]
      rfl
    rw [hnone, hvalues, h.successes]
    rfl

/-! ### The outcome -/

variable {d : Automaton} {combine : List (Validation Unit) → Validation (List Unit)}

/-- The outcome has the issues of the built-in checks and then those of the further ones. -/
theorem exists_validate (hcombine : Accumulates combine) {rules : Rules} {found : List Issue}
    (h : rules.builtInIssues d = .ok found) :
    ∃ outcome, rules.validate combine d = .ok outcome ∧
      outcome.issues = found ++ rules.custom.flatMap fun check => (check d).issues := by
  have hfound : (found.map Validation.fail).flatMap (Validation.issues (α := Unit)) = found := by
    rw [List.flatMap_map]
    exact List.flatMap_singleton' found
  refine ⟨(combine (found.map .fail ++ rules.custom.map fun check => check d)).map fun _ => (),
    ?_, ?_⟩
  · rw [Rules.validate, h]
    rfl
  · rw [Validation.issues_map, hcombine.issues_eq, List.flatMap_append, hfound, List.flatMap_map]

open Classical in
/-- The issues of the built-in checks that calls turn on. -/
theorem builtInIssues_ofList {unreachable : List Issue} (h : unreachableIssues d = .ok unreachable)
    (calls : List Rule) :
    (Rules.ofList calls).builtInIssues d = .ok (
      (if .requireStart ∈ calls ∧ d.start = none then [.noStartState] else []) ++
      (if .requireAccepting ∈ calls ∧ d.accepting.ids = [] then [.noAcceptStates] else []) ++
      (if .reachability ∈ calls then unreachable else []) ++
      (if .completeness ∈ calls then incompleteIssues d else []) ++
      (if .distinctNames ∈ calls then duplicateIssues d else [])) := by
  have hhas : ∀ rule, rule ∈ calls ↔ (Rules.ofList calls).Has rule :=
    fun rule => Rules.has_ofList.symm
  have hstart : startIssues d = if d.start = none then [.noStartState] else [] := by
    unfold startIssues
    cases d.start <;> rfl
  have haccepting : acceptingIssues d = if d.accepting.ids = [] then [.noAcceptStates] else [] := by
    unfold acceptingIssues
    cases d.accepting.ids <;> rfl
  simp only [hhas, Rules.Has, ite_and, ← hstart, ← haccepting]
  unfold Rules.builtInIssues
  rw [h]
  cases (Rules.ofList calls).reachability <;> rfl

open Classical in
/-- **Checking accumulates everything in a fixed order.**  Take any calls that choose checks, and any
way of putting results together that loses no issue.  In an automaton in which nothing is wrong the
check for unreachable states gives a list, and checking has an outcome.  It is a success exactly if
every built-in check that is turned on finds nothing and every further check succeeds.  Its issues
are those of the built-in checks that are turned on, in their fixed order, and then those of the
further checks, in the order in which these were added.  The same outcome results from all calls
that turn on the same built-in checks and add the same further ones, and the standard choice is that
of all five built-in checks. -/
theorem validate_accumulates (hcombine : Accumulates combine) (calls : List Rule) (d : Automaton)
    (hd : d.violation? = none) :
    ∃ unreachable outcome, unreachableIssues d = .ok unreachable ∧
      (Rules.ofList calls).validate combine d = .ok outcome ∧
      (Rules.ofList calls).check d = .ok outcome.issues ∧
      (outcome = .success () ↔
        (.requireStart ∈ calls → d.start ≠ none) ∧
        (.requireAccepting ∈ calls → d.accepting.ids ≠ []) ∧
        (.reachability ∈ calls → unreachable = []) ∧
        (.completeness ∈ calls → incompleteIssues d = []) ∧
        (.distinctNames ∈ calls → duplicateIssues d = []) ∧
        ∀ check, .custom check ∈ calls → check d = .success ()) ∧
      outcome.issues =
        (if .requireStart ∈ calls ∧ d.start = none then [.noStartState] else []) ++
        (if .requireAccepting ∈ calls ∧ d.accepting.ids = [] then [.noAcceptStates] else []) ++
        (if .reachability ∈ calls then unreachable else []) ++
        (if .completeness ∈ calls then incompleteIssues d else []) ++
        (if .distinctNames ∈ calls then duplicateIssues d else []) ++
        (calls.filterMap Rule.custom?).flatMap (fun check => (check d).issues) ∧
      (∀ calls', (∀ rule, rule.custom? = none → (rule ∈ calls' ↔ rule ∈ calls)) →
        calls'.filterMap Rule.custom? = calls.filterMap Rule.custom? →
        (Rules.ofList calls').validate combine d = .ok outcome) ∧
      Rules.standard = Rules.ofList
        [.requireStart, .requireAccepting, .reachability, .completeness, .distinctNames] := by
  rw [Automaton.violation?_eq_none_iff] at hd
  obtain ⟨unreachable, hunreachable, -⟩ := exists_unreachableIssues hd
  have hfound := builtInIssues_ofList hunreachable calls
  obtain ⟨outcome, houtcome, hissues⟩ := exists_validate hcombine hfound
  have hcheck := check_eq hfound
  rw [← hissues] at hcheck
  rw [Rules.custom_ofList] at hissues
  refine ⟨unreachable, outcome, hunreachable, houtcome, hcheck, ?_, hissues,
    fun calls' hbuiltIn hcustom => ?_, rfl⟩
  · have hmem : ∀ check, check ∈ calls.filterMap Rule.custom? ↔ .custom check ∈ calls := by
      intro check
      rw [← Rules.custom_ofList]
      show (Rules.ofList calls).Has (.custom check) ↔ _
      exact Rules.has_ofList
    rw [← Validation.issues_eq_nil_iff, hissues]
    simp only [List.append_eq_nil_iff, ite_eq_right_iff, List.flatMap_eq_nil_iff, hmem,
      Validation.issues_eq_nil_iff, List.cons_ne_nil, imp_false, not_and, and_assoc, ne_eq]
  · rw [Rules.ofList_congr hbuiltIn hcustom]
    exact houtcome

/-- Two states with the same name but for case, and neither a start state nor an accepting state. -/
def quarry : Automaton where
  states := [{ name := "pit" }, { name := "PIT" }]
  alphabet := .ofList ['x']
  table := [[some 1], [some 0]]
  start := none
  accepting := .empty

/-- Calls that turn a check on twice, and add further checks before, between and after. -/
def quarryCalls : List Rule :=
  [.custom fun _ => .failure (.customCheckFailed "first") [.customCheckFailed "second"],
    .distinctNames, .reachability, .requireStart,
    .require (fun d => decide (d.stateCount ≤ 5)) "too many states", .distinctNames,
    .require (fun d => d.accepts []) "nothing is accepted"]

/-- In `quarry` two built-in checks that are on report an issue, one further check reports two and
another one reports one.  A check that is off reports nothing.  With the built-in checks turned on
first, once each and in another order, the outcome is the same. -/
theorem validate_accumulates_quarry :
    Accumulates Validation.all ∧ quarry.violation? = none ∧
      ∃ outcome, (Rules.ofList quarryCalls).validate Validation.all quarry = .ok outcome ∧
        outcome.issues = [.noStartState, .duplicateName "PIT" 0 1, .customCheckFailed "first",
          .customCheckFailed "second", .customCheckFailed "nothing is accepted"] ∧
        (Rules.ofList (.requireStart :: .reachability :: .distinctNames ::
          quarryCalls.filter fun rule => rule.custom?.isSome)).validate Validation.all quarry =
            .ok outcome := by
  have hd : quarry.violation? = none := by decide
  have hlist : (Rules.ofList quarryCalls).check quarry = .ok [.noStartState,
      .duplicateName "PIT" 0 1, .customCheckFailed "first", .customCheckFailed "second",
      .customCheckFailed "nothing is accepted"] := by cbv
  obtain ⟨unreachable, outcome, -, houtcome, hcheck, -, -, hsame, -⟩ :=
    validate_accumulates accumulates_all quarryCalls quarry hd
  refine ⟨accumulates_all, hd, outcome, houtcome, Except.ok.inj (hcheck.symm.trans hlist), ?_⟩
  apply hsame
  · intro rule hrule
    cases rule <;> simp_all [quarryCalls, Rule.require, Rule.custom?]
  · rfl

end AutomatonKit.Lint
