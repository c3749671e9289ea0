import Mathlib
import AutomatonKit.Proofs.Blueprint

/-!
# What can be wrong with a blueprint

`ofCalls_eq` says what a sequence of calls comes to, section by section.

A blueprint is built part by part, and the first part that mentions an undeclared name ends the
building.  `Blueprint.faults` lists everything that is wrong with the references of a blueprint, in
the order in which the parts are built, and `failsWith_build` says that building fails with the
first state that is declared twice, or else with the first of these faults, and succeeds if there
is none.

`FailsWith x fault?` says all about the failure of `x`: it fails with `fault?`, or not at all.
Failures are put together along the `do` notation of the builder (`FailsWith.bind`,
`FailsWith.foldlM`).
-/

namespace AutomatonKit

/-! ### Failing with a known fault -/

/-- A computation fails exactly if there is a fault, and with this fault. -/
def FailsWith {ε α : Type} (x : Except ε α) (fault? : Option ε) : Prop :=
  ∀ e, x = .error e ↔ fault? = some e

namespace FailsWith

variable {ε α β : Type} {x : Except ε α} {fault? : Option ε}

theorem ok (a : α) : FailsWith (ε := ε) (.ok a) none :=
  fun _ => ⟨nofun, nofun⟩

theorem error (e : ε) : FailsWith (α := α) (.error e) (some e) :=
  fun _ => ⟨fun h => congrArg some (Except.error.inj h), fun h => congrArg _ (Option.some.inj h)⟩

theorem exists_ok_iff (h : FailsWith x fault?) : (∃ a, x = .ok a) ↔ fault? = none := by
  cases x with
  | ok a =>
    refine ⟨fun _ => ?_, fun _ => ⟨a, rfl⟩⟩
    exact Option.eq_none_iff_forall_ne_some.mpr fun e he => nomatch (h e).mpr he
  | error e =>
    rw [(h e).mp rfl]
    exact ⟨nofun, nofun⟩

/-- A second part can only fail where the first one does not. -/
theorem bind {f : α → Except ε β} {next? : Option ε} (h : FailsWith x fault?)
    (hf : ∀ a, FailsWith (f a) next?) : FailsWith (x >>= f) (fault?.or next?) := by
  cases x with
  | ok a =>
    rw [h.exists_ok_iff.mp ⟨a, rfl⟩]
    exact hf a
  | error e =>
    rw [(h e).mp rfl]
    exact error e

theorem foldlM {σ : Type} {f : σ → α → Except ε σ} {faultOf? : α → Option ε}
    (h : ∀ s a, FailsWith (f s a) (faultOf? a)) (xs : List α) (s : σ) :
    FailsWith (xs.foldlM f s) (xs.findSome? faultOf?) := by
  induction xs generalizing s with
  | nil => exact ok s
  | cons a xs ih =>
    have hcons : (a :: xs).findSome? faultOf? = (faultOf? a).or (xs.findSome? faultOf?) := by
      rw [List.findSome?_cons]
      cases faultOf? a <;> rfl
    rw [List.foldlM_cons, hcons]
    exact (h s a).bind ih

end FailsWith

namespace Blueprint

/-! ### Calls -/

namespace Call

def state? : Call → Option String
  | state name => some name
  | _ => none

def symbol? : Call → Option Char
  | symbol c => some c
  | _ => none

def start? : Call → Option String
  | start name => some name
  | _ => none

def accepting? : Call → Option String
  | accepting name => some name
  | _ => none

def transition? : Call → Option NamedTransition
  | transition t => some t
  | _ => none

end Call

/-- What calls ask for, each section by itself: everything in the order of the calls, and the start
state that is chosen last. -/
def sections (calls : List Call) : Blueprint where
  states := calls.filterMap Call.state?
  symbols := calls.filterMap Call.symbol?
  start := (calls.filterMap Call.start?).getLast?
  accepting := calls.filterMap Call.accepting?
  transitions := calls.filterMap Call.transition?

/-- **Calls only add to their own section.** -/
theorem ofCalls_eq (calls : List Call) : ofCalls calls = sections calls := by
  induction calls using List.reverseRecOn with
  | nil => rfl
  | append_singleton calls call ih =>
    have hstep : ofCalls (calls ++ [call]) = (sections calls).add call := by
      rw [← ih]
      exact List.foldl_append
    rw [hstep]
    cases call <;>
      simp [sections, add, Call.state?, Call.symbol?, Call.start?, Call.accepting?,
        Call.transition?]

/-! ### Faults -/

/-- The fault of a reference to a name, if it is not declared. -/
def undeclared? (b : Blueprint) (fault : String → Fault) (name : String) : Option Fault :=
  if (b.idOf? name).isNone then some (fault name) else none

/-- The fault of a transition: its source is looked up before its target. -/
def edgeFault? (b : Blueprint) (t : NamedTransition) : Option Fault :=
  (b.undeclared? .unknownSource t.source).or (b.undeclared? .unknownTarget t.target)

/-- The faults of all references, in the order in which a blueprint is built. -/
def faults (b : Blueprint) : List Fault :=
  b.start.toList.filterMap (b.undeclared? .unknownStart) ++
    b.accepting.filterMap (b.undeclared? .unknownAccepting) ++
    b.transitions.filterMap b.edgeFault?

variable {b : Blueprint} {fault : Fault} {n : String} {t : NamedTransition}

theorem idOf?_eq_none_iff : b.idOf? n = none ↔ n ∉ b.states :=
  List.idxOf?_eq_none_iff

theorem undeclared?_eq_none_iff {f : String → Fault} : b.undeclared? f n = none ↔ n ∈ b.states := by
  rw [← not_not (a := n ∈ b.states), ← idOf?_eq_none_iff, undeclared?]
  cases b.idOf? n <;> simp

theorem undeclared?_eq_some_iff {f : String → Fault} :
    b.undeclared? f n = some fault ↔ n ∉ b.states ∧ f n = fault := by
  rw [← idOf?_eq_none_iff, undeclared?]
  cases b.idOf? n <;> simp

theorem edgeFault?_eq_none_iff :
    b.edgeFault? t = none ↔ t.source ∈ b.states ∧ t.target ∈ b.states := by
  rw [edgeFault?, Option.or_eq_none_iff, undeclared?_eq_none_iff, undeclared?_eq_none_iff]

theorem edgeFault?_eq_some_iff :
    b.edgeFault? t = some fault ↔
      (t.source ∉ b.states ∧ .unknownSource t.source = fault) ∨
        t.source ∈ b.states ∧ t.target ∉ b.states ∧ .unknownTarget t.target = fault := by
  rw [edgeFault?, Option.or_eq_some_iff, undeclared?_eq_some_iff, undeclared?_eq_none_iff,
    undeclared?_eq_some_iff]

/-- The first fault comes from the first part that has one. -/
theorem head?_faults (b : Blueprint) :
    b.faults.head? = (b.start.toList.findSome? (b.undeclared? .unknownStart)).or
      ((b.accepting.findSome? (b.undeclared? .unknownAccepting)).or
        (b.transitions.findSome? b.edgeFault?)) := by
  rw [faults, List.head?_append, List.head?_append, List.head?_filterMap, List.head?_filterMap,
    List.head?_filterMap, Option.or_assoc]

/-! ### The fault of each part -/

theorem failsWith_resolve (b : Blueprint) (fault : String → Fault) (name : String) :
    FailsWith (b.resolve fault name) (b.undeclared? fault name) := by
  unfold resolve undeclared?
  cases b.idOf? name with
  | none => exact .error _
  | some id => exact .ok id

/-- A part that only refers to one name fails with the fault of this reference. -/
theorem failsWith_resolve_bind (b : Blueprint) (fault : String → Fault) (name : String)
    (f : StateId → Automaton) :
    FailsWith (b.resolve fault name >>= fun id => pure (f id)) (b.undeclared? fault name) := by
  have h := (b.failsWith_resolve fault name).bind fun id => FailsWith.ok (ε := Fault) (f id)
  rwa [Option.or_none] at h

theorem failsWith_buildStart (b : Blueprint) (d : Automaton) :
    FailsWith (b.buildStart d) (b.start.toList.findSome? (b.undeclared? .unknownStart)) := by
  unfold buildStart
  cases b.start with
  | none => exact .ok d
  | some name =>
    rw [Option.toList_some, List.findSome?_singleton]
    exact b.failsWith_resolve_bind _ name _

theorem failsWith_buildTransition (b : Blueprint) (d : Automaton) (t : NamedTransition) :
    FailsWith (b.buildTransition d t) (b.edgeFault? t) :=
  (b.failsWith_resolve _ t.source).bind fun _ => b.failsWith_resolve_bind _ t.target _

theorem firstRepeated_eq_none_iff {seen names : List String} :
    firstRepeated seen names = none ↔ names.Nodup ∧ ∀ n ∈ names, n ∉ seen := by
  induction names generalizing seen with
  | nil => simp [firstRepeated]
  | cons n names ih =>
    rw [firstRepeated]
    split
    · next h =>
      rw [List.contains_iff_mem] at h
      exact ⟨nofun, fun hn => absurd h (hn.2 n List.mem_cons_self)⟩
    · next h =>
      rw [List.contains_iff_mem] at h
      rw [ih, List.nodup_cons, List.forall_mem_cons]
      simp only [List.mem_cons, not_or]
      constructor
      · rintro ⟨hnodup, hne⟩
        exact ⟨⟨fun hmem => (hne n hmem).1 rfl, hnodup⟩, h, fun x hx => (hne x hx).2⟩
      · rintro ⟨⟨hmem, hnodup⟩, -, hseen⟩
        exact ⟨hnodup, fun x hx => ⟨fun hxn => hmem (hxn ▸ hx), hseen x hx⟩⟩

/-- **Building fails with the first fault**: first a state that is declared twice, then the
references in order. -/
theorem failsWith_build (b : Blueprint) :
    FailsWith b.build
      (((firstRepeated [] b.states).map Fault.duplicateState).or b.faults.head?) := by
  unfold build
  cases firstRepeated [] b.states with
  | some name => exact .error _
  | none =>
    rw [Option.map_none, Option.none_or, head?_faults]
    refine (b.failsWith_buildStart _).bind fun d => ?_
    refine FailsWith.bind (FailsWith.foldlM (fun d name => ?_) _ d) fun d => ?_
    · exact b.failsWith_resolve_bind _ name _
    · exact FailsWith.foldlM b.failsWith_buildTransition _ d

end Blueprint

end AutomatonKit
