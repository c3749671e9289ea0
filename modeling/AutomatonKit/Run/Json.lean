import AutomatonKit.Automaton.Json
import AutomatonKit.Run.Trace

/-!
# Traces in JSON

The JSON form of rejections, verdicts and traces.  A rejection is stored under the name of its
alternative with its fields, a verdict is `Accepted` or a rejection under the name `Rejected`, and a
trace is a record.
-/

namespace AutomatonKit

open Json (Value)

def Rejection.toJson : Rejection → Value
  | noStartState => .string "NoStartState"
  | outsideAlphabet position symbol =>
    .ofVariant "SymbolOutsideAlphabet"
      (.object [("position", .number position), ("symbol", .ofChar symbol)])
  | noOutgoing position state =>
    .ofVariant "NoOutgoingTransitions"
      (.object [("position", .number position), ("state", state.toJson)])
  | missingTransition position state symbol =>
    .ofVariant "MissingTransition"
      (.object [("position", .number position), ("state", state.toJson),
        ("symbol", .ofChar symbol)])
  | notAccepting state =>
    .ofVariant "NotAccepting" (.object [("state", state.toJson)])

namespace Rejection

/-- Reads the fields of a rejection for a symbol outside the alphabet. -/
def outsideAlphabetOfJson? (v : Value) : Option Rejection := do
  match ← v.fields? ["position", "symbol"] with
  | [some position, some symbol] =>
    let position ← position.index?
    let symbol ← symbol.char?
    return .outsideAlphabet position symbol
  | _ => none

/-- Reads the fields of a rejection for a state without outgoing edges. -/
def noOutgoingOfJson? (v : Value) : Option Rejection := do
  match ← v.fields? ["position", "state"] with
  | [some position, some state] =>
    let position ← position.index?
    let state ← StateId.ofJson? state
    return .noOutgoing position state
  | _ => none

/-- Reads the fields of a rejection for a missing edge. -/
def missingTransitionOfJson? (v : Value) : Option Rejection := do
  match ← v.fields? ["position", "state", "symbol"] with
  | [some position, some state, some symbol] =>
    let position ← position.index?
    let state ← StateId.ofJson? state
    let symbol ← symbol.char?
    return .missingTransition position state symbol
  | _ => none

/-- Reads the fields of a rejection for a last state that is not accepting. -/
def notAcceptingOfJson? (v : Value) : Option Rejection := do
  match ← v.fields? ["state"] with
  | [some state] =>
    let state ← StateId.ofJson? state
    return .notAccepting state
  | _ => none

def ofJson? (v : Value) : Option Rejection := do
  let (name, content) ← v.variant?
  if name = "NoStartState" then
    if Value.isBare content then some .noStartState else none
  else if name = "SymbolOutsideAlphabet" then content.bind outsideAlphabetOfJson?
  else if name = "NoOutgoingTransitions" then content.bind noOutgoingOfJson?
  else if name = "MissingTransition" then content.bind missingTransitionOfJson?
  else if name = "NotAccepting" then content.bind notAcceptingOfJson?
  else none

end Rejection

def Verdict.toJson : Verdict → Value
  | accepted => .string "Accepted"
  | rejected rejection => .ofVariant "Rejected" rejection.toJson

def Verdict.ofJson? (v : Value) : Option Verdict := do
  let (name, content) ← v.variant?
  if name = "Accepted" then
    if Value.isBare content then some .accepted else none
  else if name = "Rejected" then (content.bind Rejection.ofJson?).map .rejected
  else none

def Trace.toJson (t : Trace) : Value :=
  .object [
    ("start", .ofOption StateId.toJson t.start),
    ("steps", .ofList Transition.toJson t.steps),
    ("verdict", t.verdict.toJson)]

def Trace.ofJson? (v : Value) : Option Trace := do
  match ← v.fields? ["start", "steps", "verdict"] with
  | [start, some steps, some verdict] =>
    let start ← Value.optionalField? StateId.ofJson? start
    let steps ← steps.list? Transition.ofJson?
    let verdict ← Verdict.ofJson? verdict
    return { start, steps, verdict }
  | _ => none

end AutomatonKit
