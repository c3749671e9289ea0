import AutomatonKit.Automaton.Json
import AutomatonKit.Json.Reader
import AutomatonKit.Json.Writer
import AutomatonKit.Snapshot.Basic
import AutomatonKit.Timestamp.Reader
import AutomatonKit.Timestamp.Writer

/-!
# Snapshots in JSON

The readable form of a snapshot is an indented JSON record with the time of creation as text.
-/

namespace AutomatonKit.Snapshot

open Json (Value)

def toValue (s : Snapshot) : Value :=
  .object [
    ("version", .number s.version.toNat),
    ("id", .string s.id),
    ("created_at", .string s.createdAt.write),
    ("automaton", s.automaton.toJson)]

/-- Takes a snapshot out of a JSON value. -/
def ofValue? (v : Value) : Option Snapshot := do
  match ← v.fields? ["version", "id", "created_at", "automaton"] with
  | [some version, some id, some createdAt, some automaton] =>
    let version ← version.nat? UInt32.size
    let id ← id.string?
    let createdAt ← createdAt.string?
    let createdAt ← Timestamp.read createdAt
    let automaton ← Automaton.ofJson? automaton
    return { version := UInt32.ofNat version, id, createdAt, automaton }
  | _ => none

def toJson (s : Snapshot) : String :=
  Json.write .indented s.toValue

/-- Decodes a JSON text without checking what it holds. -/
def decodeJson? (text : String) : Option Snapshot :=
  (Json.read text).bind ofValue?

def ofJson (text : String) : Except Error Snapshot :=
  match decodeJson? text with
  | some s => s.validate
  | none => .error .decode

end AutomatonKit.Snapshot
