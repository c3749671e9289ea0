import AutomatonKit.Automaton.Basic
import AutomatonKit.Binary.Codec

/-!
# Automata in binary form

The parts of an automaton follow each other in the order of their declaration.  As in JSON, nothing
is checked beyond the form of the parts when an automaton is read, and an entry of the alphabet or
of the accepting states that repeats an earlier one has no effect.
-/

namespace AutomatonKit

open Binary

def State.put (s : State) : Bytes :=
  putString s.name ++ putBool s.accepting

def State.get (bytes : Bytes) : Option (State × Bytes) := do
  let (name, rest) ← getString bytes
  let (accepting, rest) ← getBool rest
  return ({ name, accepting }, rest)

namespace Automaton

def putRow (row : Row) : Bytes :=
  putList (putOption putIndex) row

def getRow (bytes : Bytes) : Option (Row × Bytes) :=
  getList (getOption getIndex) bytes

def put (d : Automaton) : Bytes :=
  putList State.put d.states ++ putList putChar d.alphabet.symbols ++ putList putRow d.table ++
    putOption putIndex d.start ++ putList putIndex d.accepting.ids

def get (bytes : Bytes) : Option (Automaton × Bytes) := do
  let (states, rest) ← getList State.get bytes
  let (symbols, rest) ← getList getChar rest
  let (table, rest) ← getList getRow rest
  let (start, rest) ← getOption getIndex rest
  let (accepting, rest) ← getList getIndex rest
  return ({ states, alphabet := .ofList symbols, table, start, accepting := .ofList accepting },
    rest)

end Automaton

end AutomatonKit
