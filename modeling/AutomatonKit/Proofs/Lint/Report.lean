import Mathlib
import AutomatonKit.Proofs.Lint.Search

/-!
# What lint reports

`Reports` says which issues the standard choice of checks reports of an automaton: when there is
none of the start state or of the accepting states, which states it reports as unreachable, and
which as incomplete and with what symbols.  `exists_reports` is the proof for well-formed automata.
It goes through the checks one by one, since the issues of each are of a kind of their own.

The check for unreachable states is the one that runs an algorithm.  `unreachableIssues_exact` says
that its search ends and that its report lists every state that no input leads to, once and in
order, and nothing else.
-/

namespace AutomatonKit.Lint

variable {d : Automaton} {ids : List StateId} {q : StateId} {name : String} {issue : Issue}

/-! ### Numbered states -/

theorem mem_numberedStates_iff {state : State} :
    (state, q) ∈ d.numberedStates ↔ d.state? q = some state :=
  List.mk_mem_zipIdx_iff_getElem?

theorem lt_of_state?_eq {state : State} (h : d.state? q = some state) : q < d.stateCount :=
  (List.getElem?_eq_some_iff.mp h).1

theorem exists_state?_eq (h : q < d.stateCount) : ∃ state, d.state? q = some state :=
  ⟨_, List.getElem?_eq_getElem h⟩

theorem map_snd_numberedStates (d : Automaton) : d.numberedStates.map Prod.snd = d.ids := by
  rw [Automaton.numberedStates, List.zipIdx_map_snd, Automaton.ids, List.range_eq_range']
  rfl

/-! ### Unreachable states -/

/-- The number and the name of a state that is reported as unreachable. -/
def Issue.unreachable? : Issue → Option (StateId × String)
  | .unreachable state name => some (state, name)
  | _ => none

/-- The numbers of some states with their names, ascending. -/
def namedStates (d : Automaton) (ids : List StateId) : List (StateId × String) :=
  (d.numberedStates.filter fun entry => ids.contains entry.2).map fun entry =>
    (entry.2, entry.1.name)

theorem mem_namedStates_iff :
    (q, name) ∈ namedStates d ids ↔
      q ∈ ids ∧ ∃ state, d.state? q = some state ∧ state.name = name := by
  rw [namedStates, List.mem_map]
  constructor
  · rintro ⟨⟨state, id⟩, hentry, heq⟩
    obtain ⟨rfl, rfl⟩ := Prod.mk.inj heq
    obtain ⟨hmem, hid⟩ := List.mem_filter.mp hentry
    exact ⟨List.contains_iff_mem.mp hid, state, mem_numberedStates_iff.mp hmem, rfl⟩
  · rintro ⟨hid, state, hstate, rfl⟩
    exact ⟨(state, q), List.mem_filter.mpr
      ⟨mem_numberedStates_iff.mpr hstate, List.contains_iff_mem.mpr hid⟩, rfl⟩

theorem namedStates_nil (d : Automaton) : namedStates d [] = [] :=
  List.eq_nil_iff_forall_not_mem.mpr fun _ hentry =>
    List.not_mem_nil (mem_namedStates_iff.mp hentry).1

theorem pairwise_namedStates (d : Automaton) (ids : List StateId) :
    ((namedStates d ids).map Prod.fst).Pairwise (· < ·) := by
  have hmap : (namedStates d ids).map Prod.fst =
      (d.numberedStates.filter fun entry => ids.contains entry.2).map Prod.snd := by
    rw [namedStates, List.map_map]
    rfl
  have hsublist : ((namedStates d ids).map Prod.fst).Sublist d.ids := by
    rw [hmap, ← map_snd_numberedStates]
    exact List.filter_sublist.map Prod.snd
  exact List.pairwise_lt_range.sublist hsublist

/-- The numbers of named states are the given ones, if these are registered and ascending. -/
theorem map_fst_namedStates (hids : ids.Pairwise (· < ·)) (hlt : ∀ id ∈ ids, id < d.stateCount) :
    (namedStates d ids).map Prod.fst = ids := by
  refine (pairwise_namedStates d ids).eq_of_mem_iff hids fun {id} => ?_
  rw [List.mem_map]
  constructor
  · rintro ⟨⟨q, name⟩, hentry, rfl⟩
    exact (mem_namedStates_iff.mp hentry).1
  · intro hid
    obtain ⟨state, hstate⟩ := exists_state?_eq (hlt id hid)
    exact ⟨(id, state.name), mem_namedStates_iff.mpr ⟨hid, state, hstate, rfl⟩, rfl⟩

theorem unreachableIssues_eq (h : unreachableStates d = .ok ids) :
    unreachableIssues d =
      .ok ((namedStates d ids).map fun entry => .unreachable entry.1 entry.2) := by
  rw [unreachableIssues, h, namedStates, List.map_map]
  rfl

/-! ### The other checks -/

theorem mem_startIssues_iff : issue ∈ startIssues d ↔ issue = .noStartState ∧ d.start = none := by
  unfold startIssues
  cases d.start <;> simp

theorem mem_acceptingIssues_iff :
    issue ∈ acceptingIssues d ↔ issue = .noAcceptStates ∧ d.accepting.ids = [] := by
  unfold acceptingIssues
  cases d.accepting.ids <;> simp

theorem mem_missingSymbols_iff {c : Char} :
    c ∈ missingSymbols d q ↔ c ∈ d.alphabet.symbols ∧ d.successor q c = none := by
  rw [missingSymbols, List.mem_filter, Option.isNone_iff_eq_none]

theorem mem_incompleteIssues_iff :
    issue ∈ incompleteIssues d ↔ ∃ q state, d.state? q = some state ∧ missingSymbols d q ≠ [] ∧
      issue = .incomplete q state.name (missingSymbols d q) := by
  rw [incompleteIssues, List.mem_filterMap]
  constructor
  · rintro ⟨⟨state, q⟩, hentry, hissue⟩
    by_cases hnil : missingSymbols d q = []
    · simp [hnil] at hissue
    · have heq : Issue.incomplete q state.name (missingSymbols d q) = issue := by
        simpa [hnil] using hissue
      exact ⟨q, state, mem_numberedStates_iff.mp hentry, hnil, heq.symm⟩
  · rintro ⟨q, state, hstate, hne, rfl⟩
    exact ⟨(state, q), mem_numberedStates_iff.mpr hstate, by simp [hne]⟩

/-- The check of the names has issues of its own kind only. -/
theorem not_mem_duplicatesAfter (h : ∀ name first second, issue ≠ .duplicateName name first second)
    (firstSeen : List (List Char × StateId)) (entries : List (State × StateId)) :
    issue ∉ duplicatesAfter firstSeen entries := by
  induction entries generalizing firstSeen with
  | nil => exact List.not_mem_nil
  | cons entry entries ih =>
    rw [duplicatesAfter]
    split
    · exact List.not_mem_cons_of_ne_of_not_mem (h _ _ _) (ih _)
    · exact ih _

theorem not_mem_duplicateIssues
    (h : ∀ name first second, issue ≠ .duplicateName name first second) :
    issue ∉ duplicateIssues d :=
  not_mem_duplicatesAfter h [] d.numberedStates

/-! ### The checks together -/

/-- What is reported are the issues of the built-in checks and then those of the further ones. -/
theorem check_eq {rules : Rules} {found : List Issue} (h : rules.builtInIssues d = .ok found) :
    rules.check d = .ok (found ++ rules.custom.flatMap fun check => (check d).issues) := by
  have hissues : (Validation.all (found.map Validation.fail ++
      rules.custom.map fun check => check d)).issues =
      found ++ rules.custom.flatMap fun check => (check d).issues := by
    have hsingle : found.flatMap (fun issue => (Validation.fail issue : Validation Unit).issues) =
        found := List.flatMap_singleton' found
    rw [Validation.issues_all, List.flatMap_append, List.flatMap_map, List.flatMap_map, hsingle]
  rw [Rules.check, Rules.validate, h, ← hissues, ← Validation.issues_map fun _ => ()]
  rfl

theorem check_standard_eq {unreachable : List Issue} (h : unreachableIssues d = .ok unreachable) :
    Rules.standard.check d = .ok (startIssues d ++ acceptingIssues d ++ unreachable ++
      incompleteIssues d ++ duplicateIssues d) := by
  have hfound : Rules.standard.builtInIssues d = .ok (startIssues d ++ acceptingIssues d ++
      unreachable ++ incompleteIssues d ++ duplicateIssues d) := by
    show (unreachableIssues d >>= _) = _
    rw [h]
    rfl
  have hcustom : Rules.standard.custom = [] := rfl
  rw [check_eq hfound, hcustom, List.flatMap_nil, List.append_nil]

/-- An issue of the standard checks comes from one of them. -/
theorem mem_standard_iff {unreachable : List Issue} :
    issue ∈ startIssues d ++ acceptingIssues d ++ unreachable ++ incompleteIssues d ++
        duplicateIssues d ↔
      issue ∈ startIssues d ∨ issue ∈ acceptingIssues d ∨ issue ∈ unreachable ∨
        issue ∈ incompleteIssues d ∨ issue ∈ duplicateIssues d := by
  simp only [List.mem_append, or_assoc]

/-- What the standard checks report of an automaton. -/
structure Reports (d : Automaton) (issues : List Issue) : Prop where
  noStartState_iff : .noStartState ∈ issues ↔ d.start = none
  noAcceptStates_iff : .noAcceptStates ∈ issues ↔ d.accepting.ids = []
  /-- The states that no input leads to are reported, if there is a start state at all. -/
  unreachable_iff : ∀ q name, .unreachable q name ∈ issues ↔
    d.start ≠ none ∧ ¬ d.Reaches q ∧ ∃ state, d.state? q = some state ∧ name = state.name
  /-- The states without an edge for some symbol are reported, with all such symbols. -/
  incomplete_iff : ∀ q name missing, .incomplete q name missing ∈ issues ↔
    ∃ state, d.state? q = some state ∧ missingSymbols d q ≠ [] ∧ name = state.name ∧
      missing = missingSymbols d q

/-- What the check for unreachable states reports of a well-formed automaton. -/
theorem exists_unreachableIssues (h : d.WellFormed) :
    ∃ unreachable, unreachableIssues d = .ok unreachable ∧
      ∀ issue, issue ∈ unreachable ↔ ∃ q state, d.start ≠ none ∧ ¬ d.Reaches q ∧
        d.state? q = some state ∧ issue = .unreachable q state.name := by
  cases hs : d.start with
  | none =>
    refine ⟨_, unreachableIssues_eq (unreachableStates_of_start_eq_none hs), fun issue => ?_⟩
    simp [namedStates_nil]
  | some s =>
    obtain ⟨ids, turns, hids, -, -, -, hmem⟩ := exists_unreachableStates_of_start h hs
    refine ⟨_, unreachableIssues_eq hids, fun issue => ?_⟩
    rw [List.mem_map]
    constructor
    · rintro ⟨⟨q, name⟩, hentry, rfl⟩
      obtain ⟨hq, state, hstate, rfl⟩ := mem_namedStates_iff.mp hentry
      exact ⟨q, state, nofun, ((hmem q).mp hq).2, hstate, rfl⟩
    · rintro ⟨q, state, -, hreaches, hstate, rfl⟩
      have hq : q ∈ ids := (hmem q).mpr ⟨lt_of_state?_eq hstate, hreaches⟩
      exact ⟨(q, state.name), mem_namedStates_iff.mpr ⟨hq, state, hstate, rfl⟩, rfl⟩

/-- **What lint reports of a well-formed automaton.**  An issue can only come from the check that
has issues of its kind. -/
theorem exists_reports (h : d.WellFormed) :
    ∃ issues, Rules.standard.check d = .ok issues ∧ Reports d issues := by
  obtain ⟨unreachable, hunreachable, hmem⟩ := exists_unreachableIssues h
  refine ⟨_, check_standard_eq hunreachable, ?_, ?_, fun q name => ?_, fun q name missing => ?_⟩
  · rw [mem_standard_iff, mem_startIssues_iff]
    simp [mem_acceptingIssues_iff, hmem, mem_incompleteIssues_iff, not_mem_duplicateIssues]
  · rw [mem_standard_iff, mem_acceptingIssues_iff]
    simp [mem_startIssues_iff, hmem, mem_incompleteIssues_iff, not_mem_duplicateIssues]
  · rw [mem_standard_iff, hmem]
    simp [mem_startIssues_iff, mem_acceptingIssues_iff, mem_incompleteIssues_iff,
      not_mem_duplicateIssues]
  · rw [mem_standard_iff, mem_incompleteIssues_iff]
    simp [mem_startIssues_iff, mem_acceptingIssues_iff, hmem, not_mem_duplicateIssues]

/-! ### The report of unreachable states -/

/-- The unreachable states among the issues of the standard checks are those that the check for
unreachable states reports. -/
theorem filterMap_unreachable?_standard (entries : List (StateId × String)) :
    (startIssues d ++ acceptingIssues d ++
      (entries.map fun entry => Issue.unreachable entry.1 entry.2) ++ incompleteIssues d ++
      duplicateIssues d).filterMap Issue.unreachable? = entries := by
  have hstart : (startIssues d).filterMap Issue.unreachable? = [] :=
    List.filterMap_eq_nil_iff.mpr fun issue h => by rw [(mem_startIssues_iff.mp h).1]; rfl
  have haccepting : (acceptingIssues d).filterMap Issue.unreachable? = [] :=
    List.filterMap_eq_nil_iff.mpr fun issue h => by rw [(mem_acceptingIssues_iff.mp h).1]; rfl
  have hunreachable : (entries.map fun entry => Issue.unreachable entry.1 entry.2).filterMap
      Issue.unreachable? = entries := by
    rw [List.filterMap_map]
    exact List.filterMap_some
  have hincomplete : (incompleteIssues d).filterMap Issue.unreachable? = [] := by
    refine List.filterMap_eq_nil_iff.mpr fun issue h => ?_
    obtain ⟨q, state, -, -, rfl⟩ := mem_incompleteIssues_iff.mp h
    rfl
  have hduplicate : (duplicateIssues d).filterMap Issue.unreachable? = [] := by
    refine List.filterMap_eq_nil_iff.mpr fun issue h => ?_
    cases issue with
    | unreachable q name => exact absurd h (not_mem_duplicateIssues nofun)
    | _ => rfl
  rw [List.filterMap_append, List.filterMap_append, List.filterMap_append, List.filterMap_append,
    hstart, haccepting, hunreachable, hincomplete, hduplicate, List.nil_append, List.nil_append,
    List.append_nil, List.append_nil]

/-- **Lint reachability is exact.**  The check for unreachable states of an automaton in which
nothing is wrong does not fail, and the standard checks report the same unreachable states.  They
are listed by ascending number, each of them once.  Without a start state none is listed.  With a
start state the search ends after one turn for each state that is not listed, and a state is listed,
with its name, exactly if no input is consumed by a run from the start that ends in it. -/
theorem unreachableIssues_exact (d : Automaton) (hd : d.violation? = none) :
    ∃ reported : List (StateId × String),
      unreachableIssues d = .ok (reported.map fun entry => .unreachable entry.1 entry.2) ∧
      (∃ issues, Rules.standard.check d = .ok issues ∧
        issues.filterMap Issue.unreachable? = reported) ∧
      (reported.map Prod.fst).Pairwise (· < ·) ∧
      (d.start = none → reported = []) ∧
      ∀ s, d.start = some s →
        (∃ turns, Searches d (without d.ids [s]) [s] (reported.map Prod.fst) turns ∧
          turns + reported.length = d.stateCount) ∧
        ∀ q name, (q, name) ∈ reported ↔
          (∃ state, d.state? q = some state ∧ state.name = name) ∧
            ¬ ∃ w, ((Run.start d).feed d w).consumed = w.length ∧
              ((Run.start d).feed d w).current = some q := by
  rw [Automaton.violation?_eq_none_iff] at hd
  have hstandard : ∀ {ids}, unreachableStates d = .ok ids →
      ∃ issues, Rules.standard.check d = .ok issues ∧
        issues.filterMap Issue.unreachable? = namedStates d ids :=
    fun hids => ⟨_, check_standard_eq (unreachableIssues_eq hids),
      filterMap_unreachable?_standard _⟩
  cases hs : d.start with
  | none =>
    have hids := unreachableStates_of_start_eq_none hs
    refine ⟨namedStates d [], unreachableIssues_eq hids, hstandard hids,
      pairwise_namedStates d [], fun _ => namedStates_nil d, nofun⟩
  | some s =>
    obtain ⟨ids, turns, hids, hsearches, hturns, hpairwise, hmem⟩ :=
      exists_unreachableStates_of_start hd hs
    have hfst : (namedStates d ids).map Prod.fst = ids :=
      map_fst_namedStates hpairwise fun q hq => ((hmem q).mp hq).1
    have hlength : (namedStates d ids).length = ids.length := by
      rw [← List.length_map Prod.fst, hfst]
    refine ⟨namedStates d ids, unreachableIssues_eq hids, hstandard hids,
      pairwise_namedStates d ids, nofun, fun s' hs' => ?_⟩
    obtain rfl : s = s' := Option.some.inj hs'
    rw [hfst, hlength]
    refine ⟨⟨turns, hsearches, hturns⟩, fun q name => ?_⟩
    rw [mem_namedStates_iff, hmem]
    constructor
    · rintro ⟨⟨-, hreaches⟩, hstate⟩
      exact ⟨hstate, hreaches⟩
    · rintro ⟨⟨state, hstate, hname⟩, hreaches⟩
      exact ⟨⟨lt_of_state?_eq hstate, hreaches⟩, state, hstate, hname⟩

/-- Two states that edges lead round between, a loop at the first of them, and a third state with an
edge to the second and none from anywhere. -/
def lagoon : Automaton where
  states := [{ name := "shore" }, { name := "reef", accepting := true }, { name := "islet" }]
  alphabet := .ofList ['a', 'b']
  table := [[some 0, some 1], [some 0], [some 1, some 2]]
  start := some 0
  accepting := .ofList [1]

/-- In `lagoon` the search takes two turns, and the third state is what no input leads to. -/
theorem unreachableIssues_exact_lagoon :
    lagoon.violation? = none ∧ unreachableIssues lagoon = .ok [.unreachable 2 "islet"] ∧
      lagoon.start = some 0 ∧ Searches lagoon [1, 2] [0] [2] 2 ∧ ¬ lagoon.Reaches 2 := by
  have hd : lagoon.violation? = none := by decide
  have hissues : unreachableIssues lagoon = .ok [.unreachable 2 "islet"] := by cbv
  obtain ⟨reported, hreported, -, -, -, hreaches⟩ := unreachableIssues_exact lagoon hd
  obtain ⟨⟨turns, hsearches, hturns⟩, hmem⟩ := hreaches 0 rfl
  obtain rfl : reported = [(2, "islet")] := by
    rw [hissues] at hreported
    have hmap := Except.ok.inj hreported
    obtain ⟨entry, rest, rfl, hentry, hrest⟩ := List.map_eq_cons_iff.mp hmap.symm
    obtain ⟨hq, hname⟩ := Issue.unreachable.inj hentry
    rw [List.map_eq_nil_iff.mp hrest]
    exact congrArg (· :: []) (Prod.ext hq hname)
  have htwo : turns = 2 := by
    have hcount : lagoon.stateCount = 3 := rfl
    rw [hcount] at hturns
    exact Nat.add_right_cancel hturns
  rw [htwo] at hsearches
  exact ⟨hd, hissues, rfl, hsearches, ((hmem 2 "islet").mp List.mem_cons_self).2⟩

end AutomatonKit.Lint
