import AutomatonKit.Automaton.Violation
import AutomatonKit.Timestamp.Basic

/-!
# Snapshots

A snapshot is a stored automaton with the version of the storage format, an identifier and the time
of its creation.  It can be stored as JSON and in binary form.

Reading a snapshot is more than decoding it: a snapshot of another version is refused, and then an
automaton that no sequence of edits builds.  So an automaton that comes out of a snapshot is as good
as one that was just built.
-/

namespace AutomatonKit

/-- A stored automaton. -/
structure Snapshot where
  version : UInt32
  id : String
  createdAt : Timestamp
  automaton : Automaton
deriving DecidableEq

/-- Why a snapshot cannot be read. -/
inductive Snapshot.Error where
  /-- The text or the bytes do not have the form of a snapshot. -/
  | decode
  /-- The version of the storage format is another one. -/
  | unsupportedVersion (found supported : UInt32)
  /-- The automaton is none that edits build. -/
  | corruptAutomaton (id : String) (violation : Violation)
deriving DecidableEq

namespace Snapshot

def currentVersion : UInt32 := 1

/-- A snapshot in the current version. -/
def create (id : String) (createdAt : Timestamp) (automaton : Automaton) : Snapshot where
  version := currentVersion
  id := id
  createdAt := createdAt
  automaton := automaton

def Error.message : Error → String
  | decode => "could not decode snapshot"
  | unsupportedVersion found supported =>
    s!"snapshot format v{found} cannot be read, expected v{supported}"
  | corruptAutomaton id violation =>
    s!"snapshot {id} holds a corrupt automaton: {violation.message}"

/-- Checks the version and then the automaton of a decoded snapshot. -/
def validate (s : Snapshot) : Except Error Snapshot :=
  if s.version ≠ currentVersion then .error (.unsupportedVersion s.version currentVersion)
  else
    match s.automaton.violation? with
    | some violation => .error (.corruptAutomaton s.id violation)
    | none => .ok s

end Snapshot

end AutomatonKit
