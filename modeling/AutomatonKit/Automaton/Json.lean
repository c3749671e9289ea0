import AutomatonKit.Automaton.Basic
import AutomatonKit.Json.Record

/-!
# Automata in JSON

The JSON form of an automaton and its parts.  A state number is a number and a symbol a string of
one character.  An alphabet and a set of state numbers are arrays; read back, an entry that repeats
an earlier one has no effect.  An automaton is stored as it is, row by row, and nothing is checked
beyond the form of the parts when it is read.
-/

namespace AutomatonKit

open Json (Value)

def StateId.toJson (id : StateId) : Value :=
  .number id

def StateId.ofJson? (v : Value) : Option StateId :=
  v.index?

def State.toJson (s : State) : Value :=
  .object [("name", .string s.name), ("accepting", .bool s.accepting)]

def State.ofJson? (v : Value) : Option State := do
  match ← v.fields? ["name", "accepting"] with
  | [some name, some accepting] =>
    let name ← name.string?
    let accepting ← accepting.bool?
    return { name, accepting }
  | _ => none

def Transition.toJson (t : Transition) : Value :=
  .object [("from", t.source.toJson), ("symbol", .ofChar t.symbol), ("to", t.target.toJson)]

def Transition.ofJson? (v : Value) : Option Transition := do
  match ← v.fields? ["from", "symbol", "to"] with
  | [some source, some symbol, some target] =>
    let source ← StateId.ofJson? source
    let symbol ← symbol.char?
    let target ← StateId.ofJson? target
    return { source, symbol, target }
  | _ => none

/-- The JSON form of an alphabet: its symbols in the order of their columns. -/
def Alphabet.toJson (a : Alphabet) : Value :=
  .ofList .ofChar a.symbols

def Alphabet.ofJson? (v : Value) : Option Alphabet :=
  (v.list? Value.char?).map .ofList

def IdSet.toJson (s : IdSet) : Value :=
  .ofList StateId.toJson s.ids

def IdSet.ofJson? (v : Value) : Option IdSet :=
  (v.list? StateId.ofJson?).map .ofList

namespace Automaton

def rowToJson (row : Row) : Value :=
  .ofList (.ofOption StateId.toJson) row

def rowOfJson? (v : Value) : Option Row :=
  v.list? (·.optional? StateId.ofJson?)

def toJson (d : Automaton) : Value :=
  .object [
    ("states", .ofList State.toJson d.states),
    ("alphabet", d.alphabet.toJson),
    ("table", .ofList rowToJson d.table),
    ("start", .ofOption StateId.toJson d.start),
    ("accepting", d.accepting.toJson)]

def ofJson? (v : Value) : Option Automaton := do
  match ← v.fields? ["states", "alphabet", "table", "start", "accepting"] with
  | [some states, some alphabet, some table, start, some accepting] =>
    let states ← states.list? State.ofJson?
    let alphabet ← Alphabet.ofJson? alphabet
    let table ← table.list? rowOfJson?
    let start ← Value.optionalField? StateId.ofJson? start
    let accepting ← IdSet.ofJson? accepting
    return { states, alphabet, table, start, accepting }
  | _ => none

end Automaton

end AutomatonKit
