import Mathlib
import AutomatonKit.Automaton.Json
import AutomatonKit.Proofs.Automaton.Binary
import AutomatonKit.Proofs.Json.Record

/-!
# Automata read back from JSON

`Automaton.Storable.ofJson?_toJson`: an automaton is read back from its JSON value exactly as it
was, whether it is well-formed or not.  The value itself has no foreign part
(`Automaton.isNative_toJson`), so it is read back from its text, too.
-/

namespace AutomatonKit

open Json (IsNative Value)

/-! ### Parts of an automaton -/

theorem StateId.ofJson?_toJson {id : StateId} (h : id < UInt64.size) :
    StateId.ofJson? (StateId.toJson id) = some id :=
  if_pos h

theorem State.ofJson?_toJson (s : State) : State.ofJson? s.toJson = some s :=
  rfl

theorem Alphabet.ofJson?_toJson (a : Alphabet) : Alphabet.ofJson? a.toJson = some a := by
  rw [Alphabet.ofJson?, Alphabet.toJson, Value.list?_ofList fun c _ => Value.char?_ofChar c,
    Option.map_some, ofList_symbols]

theorem IdSet.ofJson?_toJson {s : IdSet} (h : ∀ id ∈ s.ids, id < UInt64.size) :
    IdSet.ofJson? s.toJson = some s := by
  rw [IdSet.ofJson?, IdSet.toJson,
    Value.list?_ofList fun id hid => StateId.ofJson?_toJson (h id hid), Option.map_some, ofList_ids]

theorem State.isNative_toJson (s : State) : IsNative s.toJson := by
  refine IsNative.object fun member hmember => ?_
  simp only [List.mem_cons, List.not_mem_nil, or_false] at hmember
  rcases hmember with rfl | rfl
  · exact IsNative.string _
  · exact IsNative.bool _

namespace Automaton

variable {d : Automaton}

theorem rowOfJson?_rowToJson {row : Row} (h : ∀ id, some id ∈ row → id < UInt64.size) :
    rowOfJson? (rowToJson row) = some row :=
  Value.list?_ofList fun _ hcell =>
    Value.optional?_ofOption (fun id hid => StateId.ofJson?_toJson (h id (hid ▸ hcell)))
      fun _ hnull => Value.noConfusion hnull

/-- **JSON values keep everything.** -/
theorem Storable.ofJson?_toJson (h : d.Storable) : ofJson? d.toJson = some d := by
  have hfields : d.toJson.fields? ["states", "alphabet", "table", "start", "accepting"] =
      some [some (.ofList State.toJson d.states), some d.alphabet.toJson,
        some (.ofList rowToJson d.table), some (.ofOption StateId.toJson d.start),
        some d.accepting.toJson] := rfl
  have hstates : (Value.ofList State.toJson d.states).list? State.ofJson? = some d.states :=
    Value.list?_ofList fun s _ => State.ofJson?_toJson s
  have htable : (Value.ofList rowToJson d.table).list? rowOfJson? = some d.table :=
    Value.list?_ofList fun row hrow => rowOfJson?_rowToJson (h.target_lt row hrow)
  have hstart : (Value.ofOption StateId.toJson d.start).optional? StateId.ofJson? = some d.start :=
    Value.optional?_ofOption (fun id hid => StateId.ofJson?_toJson (h.start_lt id hid))
      fun _ hnull => Value.noConfusion hnull
  unfold ofJson?
  rw [hfields, Option.bind_eq_bind, Option.bind_some]
  dsimp only
  rw [hstates, Alphabet.ofJson?_toJson, htable, Value.optionalField?, hstart,
    IdSet.ofJson?_toJson h.mem_accepting_lt]
  rfl

/-- The JSON value of an automaton has no foreign part. -/
theorem isNative_toJson (d : Automaton) : IsNative d.toJson := by
  have hid : ∀ id, IsNative (StateId.toJson id) := fun id => IsNative.number id
  refine IsNative.object fun member hmember => ?_
  simp only [List.mem_cons, List.not_mem_nil, or_false] at hmember
  rcases hmember with rfl | rfl | rfl | rfl | rfl
  · exact Json.isNative_ofList fun s _ => s.isNative_toJson
  · exact Json.isNative_ofList fun c _ => IsNative.string _
  · exact Json.isNative_ofList fun row _ =>
      Json.isNative_ofList fun cell _ => Json.isNative_ofOption hid cell
  · exact Json.isNative_ofOption hid d.start
  · exact Json.isNative_ofList fun id _ => hid id

end Automaton

end AutomatonKit
