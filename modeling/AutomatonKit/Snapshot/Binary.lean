import AutomatonKit.Automaton.Binary
import AutomatonKit.Snapshot.Basic
import AutomatonKit.Timestamp.Reader
import AutomatonKit.Timestamp.Writer

/-!
# Snapshots in binary form

The compact form of a snapshot: the version in four bytes, the identifier, the text of the time of
creation, and the automaton.  Bytes after the end of the automaton are ignored.
-/

namespace AutomatonKit.Snapshot

open Binary

def toBytes (s : Snapshot) : Bytes :=
  putUInt32 s.version ++ putString s.id ++ putString s.createdAt.write ++ s.automaton.put

/-- Decodes a snapshot at the left of a byte sequence without checking what it holds. -/
def get (bytes : Bytes) : Option (Snapshot × Bytes) := do
  let (version, rest) ← getUInt32 bytes
  let (id, rest) ← getString rest
  let (createdAt, rest) ← getString rest
  let createdAt ← Timestamp.read createdAt
  let (automaton, rest) ← Automaton.get rest
  return ({ version, id, createdAt, automaton }, rest)

def ofBytes (bytes : Bytes) : Except Error Snapshot :=
  match get bytes with
  | some (s, _) => s.validate
  | none => .error .decode

end AutomatonKit.Snapshot
