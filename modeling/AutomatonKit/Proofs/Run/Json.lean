import Mathlib
import AutomatonKit.Proofs.Automaton.Json
import AutomatonKit.Run.Json

/-!
# Traces read back from JSON

`Trace.Storable.ofJson?_toJson`: a trace is read back from its JSON value as it was.  Verdicts and
rejections are alternatives, and each is stored under its own name, in one of three shapes: a bare
name, a name with a content that is itself an alternative, and a name with a record of fields.  The
value of a trace has no foreign part (`Trace.isNative_toJson`), so it is read back from its text,
however the text is laid out.

`read_compact_texts` says so for the compact texts of traces and of automata.  A text that is read
back belongs to one value only, so distinct values have distinct texts.
-/

namespace AutomatonKit

open Json (IsNative Value)

/-! ### Data that fit into 64 bits -/

structure Transition.Storable (t : Transition) : Prop where
  source_lt : t.source < UInt64.size
  target_lt : t.target < UInt64.size

/-- A rejection whose position and state fit into 64 bits. -/
def Rejection.Storable : Rejection → Prop
  | noStartState => True
  | outsideAlphabet position _ => position < UInt64.size
  | noOutgoing position state => position < UInt64.size ∧ state < UInt64.size
  | missingTransition position state _ => position < UInt64.size ∧ state < UInt64.size
  | notAccepting state => state < UInt64.size

def Verdict.Storable : Verdict → Prop
  | accepted => True
  | rejected rejection => rejection.Storable

/-- A trace whose numbers fit into 64 bits, as those of every value in memory do. -/
structure Trace.Storable (t : Trace) : Prop where
  start_lt : ∀ id, t.start = some id → id < UInt64.size
  steps : ∀ edge ∈ t.steps, edge.Storable
  verdict : t.verdict.Storable

/-! ### Transitions and rejections -/

theorem Transition.Storable.ofJson?_toJson {t : Transition} (h : t.Storable) :
    Transition.ofJson? t.toJson = some t := by
  have hfields : t.toJson.fields? ["from", "symbol", "to"] =
      some [some t.source.toJson, some (.ofChar t.symbol), some t.target.toJson] := rfl
  unfold Transition.ofJson?
  rw [hfields, Option.bind_eq_bind, Option.bind_some]
  dsimp only
  rw [StateId.ofJson?_toJson h.source_lt, Value.char?_ofChar, StateId.ofJson?_toJson h.target_lt]
  rfl

theorem Transition.isNative_toJson (t : Transition) : IsNative t.toJson := by
  refine IsNative.object fun member hmember => ?_
  simp only [List.mem_cons, List.not_mem_nil, or_false] at hmember
  rcases hmember with rfl | rfl | rfl
  · exact IsNative.number _
  · exact IsNative.string _
  · exact IsNative.number _

/-- **Every rejection is read back**, by the reader for the fields of its own alternative. -/
theorem Rejection.Storable.ofJson?_toJson {r : Rejection} (h : r.Storable) :
    Rejection.ofJson? r.toJson = some r := by
  have hindex : ∀ {n : Nat}, n < UInt64.size → (Value.number n).index? = some n :=
    fun hn => if_pos hn
  -- the name leads to the reader of the alternative, which is left with the contents of its fields
  cases r with
  | noStartState => rfl
  | outsideAlphabet position symbol =>
    have hposition : position < UInt64.size := h
    show (do
      let position ← (Value.number position).index?
      let symbol ← (Value.ofChar symbol).char?
      return Rejection.outsideAlphabet position symbol) = _
    rw [hindex hposition, Value.char?_ofChar]
    rfl
  | noOutgoing position state =>
    obtain ⟨hposition, hstate⟩ := h
    show (do
      let position ← (Value.number position).index?
      let state ← StateId.ofJson? state.toJson
      return Rejection.noOutgoing position state) = _
    rw [hindex hposition, StateId.ofJson?_toJson hstate]
    rfl
  | missingTransition position state symbol =>
    obtain ⟨hposition, hstate⟩ := h
    show (do
      let position ← (Value.number position).index?
      let state ← StateId.ofJson? state.toJson
      let symbol ← (Value.ofChar symbol).char?
      return Rejection.missingTransition position state symbol) = _
    rw [hindex hposition, StateId.ofJson?_toJson hstate, Value.char?_ofChar]
    rfl
  | notAccepting state =>
    have hstate : state < UInt64.size := h
    show (do
      let state ← StateId.ofJson? state.toJson
      return Rejection.notAccepting state) = _
    rw [StateId.ofJson?_toJson hstate]
    rfl

theorem Rejection.isNative_toJson (r : Rejection) : IsNative r.toJson := by
  have hposition : ∀ n, IsNative (.number n) := IsNative.number
  have hsymbol : ∀ c, IsNative (.ofChar c) := fun c => IsNative.string _
  have hstate : ∀ id, IsNative (StateId.toJson id) := fun id => IsNative.number id
  cases r with
  | noStartState => exact IsNative.string _
  | outsideAlphabet position symbol =>
    refine Json.isNative_ofVariant _ (IsNative.object ?_)
    simp [hposition, hsymbol]
  | noOutgoing position state =>
    refine Json.isNative_ofVariant _ (IsNative.object ?_)
    simp [hposition, hstate]
  | missingTransition position state symbol =>
    refine Json.isNative_ofVariant _ (IsNative.object ?_)
    simp [hposition, hstate, hsymbol]
  | notAccepting state =>
    refine Json.isNative_ofVariant _ (IsNative.object ?_)
    simp [hstate]

/-! ### Verdicts and traces -/

theorem Verdict.Storable.ofJson?_toJson {v : Verdict} (h : v.Storable) :
    Verdict.ofJson? v.toJson = some v := by
  cases v with
  | accepted => rfl
  | rejected rejection =>
    have hrejection : rejection.Storable := h
    show (Rejection.ofJson? rejection.toJson).map Verdict.rejected = _
    rw [hrejection.ofJson?_toJson, Option.map_some]

theorem Verdict.isNative_toJson (v : Verdict) : IsNative v.toJson := by
  cases v with
  | accepted => exact IsNative.string _
  | rejected rejection => exact Json.isNative_ofVariant _ rejection.isNative_toJson

namespace Trace

variable {t : Trace}

/-- **JSON values keep all of a trace.** -/
theorem Storable.ofJson?_toJson (h : t.Storable) : ofJson? t.toJson = some t := by
  have hfields : t.toJson.fields? ["start", "steps", "verdict"] =
      some [some (.ofOption StateId.toJson t.start), some (.ofList Transition.toJson t.steps),
        some t.verdict.toJson] := rfl
  have hstart : (Value.ofOption StateId.toJson t.start).optional? StateId.ofJson? = some t.start :=
    Value.optional?_ofOption (fun id hid => StateId.ofJson?_toJson (h.start_lt id hid))
      fun _ hnull => Value.noConfusion hnull
  have hsteps : (Value.ofList Transition.toJson t.steps).list? Transition.ofJson? = some t.steps :=
    Value.list?_ofList fun edge hedge => (h.steps edge hedge).ofJson?_toJson
  unfold ofJson?
  rw [hfields, Option.bind_eq_bind, Option.bind_some]
  dsimp only
  rw [Value.optionalField?, hstart, hsteps, h.verdict.ofJson?_toJson]
  rfl

/-- The JSON value of a trace has no foreign part. -/
theorem isNative_toJson (t : Trace) : IsNative t.toJson := by
  refine IsNative.object fun member hmember => ?_
  simp only [List.mem_cons, List.not_mem_nil, or_false] at hmember
  rcases hmember with rfl | rfl | rfl
  · exact Json.isNative_ofOption (fun id => IsNative.number id) t.start
  · exact Json.isNative_ofList fun edge _ => edge.isNative_toJson
  · exact t.verdict.isNative_toJson

end Trace

/-! ### Compact texts -/

/-- **The compact text of a trace or an automaton stands for that one alone**: it is read back as
the value it was written for, and another value has another text.  The automaton may be broken in
any way. -/
theorem read_compact_texts :
    (∀ t : Trace, t.Storable →
      (Json.read (Json.write .compact t.toJson)).bind Trace.ofJson? = some t) ∧
    (∀ t u : Trace, t.Storable → u.Storable → t ≠ u →
      Json.write .compact t.toJson ≠ Json.write .compact u.toJson) ∧
    (∀ d : Automaton, d.Storable →
      (Json.read (Json.write .compact d.toJson)).bind Automaton.ofJson? = some d) ∧
    ∀ d e : Automaton, d.Storable → e.Storable → d ≠ e →
      Json.write .compact d.toJson ≠ Json.write .compact e.toJson := by
  have hl := Json.Layout.hasGaps_compact
  refine ⟨fun t ht => ?_, fun t u ht hu hne htext => hne ?_, fun d hd => ?_,
    fun d e hd he hne htext => hne ?_⟩
  · exact Json.bind_read_write hl t.isNative_toJson ht.ofJson?_toJson
  · exact Json.eq_of_write_eq hl Trace.isNative_toJson ht.ofJson?_toJson hu.ofJson?_toJson htext
  · exact Json.bind_read_write hl d.isNative_toJson hd.ofJson?_toJson
  · exact Json.eq_of_write_eq hl Automaton.isNative_toJson hd.ofJson?_toJson he.ofJson?_toJson htext

/-- A trace of no run: its steps do not meet.  Its symbols have to be escaped or lie beyond the
first 65536 characters. -/
def patchwork : Trace where
  start := some 18446744073709551615
  steps := [⟨0, '"', 7⟩, ⟨7, '\\', 18446744073709551615⟩, ⟨2, '\x01', 2⟩, ⟨3, '𝛼', 0⟩]
  verdict := .rejected (.missingTransition 4 3 '\n')

theorem storable_patchwork : patchwork.Storable where
  start_lt := by simp [patchwork, UInt64.size]
  steps := by
    intro edge hedge
    simp only [patchwork, List.mem_cons, List.not_mem_nil, or_false] at hedge
    rcases hedge with rfl | rfl | rfl | rfl <;> exact ⟨by decide, by decide⟩
  verdict := ⟨by decide, by decide⟩

/-- An automaton that no edits build: its only row belongs to no state, and it starts nowhere. -/
def rowWithoutState : Automaton where
  states := []
  alphabet := .ofList ['→', '"']
  table := [[none, some 18446744073709551615, none]]
  start := some 3
  accepting := .ofList [2, 5]

theorem storable_rowWithoutState : rowWithoutState.Storable where
  states_lt := by decide
  name_lt := by decide
  table_lt := by decide
  row_lt := by decide
  target_lt := by simp [rowWithoutState, UInt64.size]
  start_lt := by simp [rowWithoutState, UInt64.size]
  accepting_lt := by decide
  mem_accepting_lt := by decide

/-- Both are read back, and neither has the text of a trace or an automaton other than itself. -/
theorem read_compact_texts_patchwork :
    patchwork.Storable ∧ rowWithoutState.Storable ∧
      (Json.read (Json.write .compact patchwork.toJson)).bind Trace.ofJson? = some patchwork ∧
      Json.write .compact patchwork.toJson ≠
        Json.write .compact (Trace.toJson ⟨none, [], .rejected .noStartState⟩) ∧
      (Json.read (Json.write .compact rowWithoutState.toJson)).bind Automaton.ofJson? =
        some rowWithoutState ∧
      Json.write .compact rowWithoutState.toJson ≠
        Json.write .compact { rowWithoutState with start := none }.toJson := by
  obtain ⟨htrace, htraces, hautomaton, hautomata⟩ := read_compact_texts
  have hempty : Trace.Storable ⟨none, [], .rejected .noStartState⟩ := by
    constructor <;> simp [Verdict.Storable, Rejection.Storable]
  have hstartless : Automaton.Storable { rowWithoutState with start := none } :=
    { storable_rowWithoutState with start_lt := by simp }
  refine ⟨storable_patchwork, storable_rowWithoutState, htrace _ storable_patchwork,
    htraces _ _ storable_patchwork hempty ?_, hautomaton _ storable_rowWithoutState,
    hautomata _ _ storable_rowWithoutState hstartless ?_⟩
  · simp [patchwork]
  · simp [rowWithoutState]

end AutomatonKit
