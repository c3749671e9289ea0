import Mathlib
import AutomatonKit.Proofs.Automaton.Json
import AutomatonKit.Proofs.Timestamp
import AutomatonKit.Snapshot.Binary
import AutomatonKit.Snapshot.Json

/-!
# Reading a stored snapshot is checking it

`Snapshot.decodeJson?_toJson` and `Snapshot.readsBack`: both forms of a snapshot hold all of it, so
decoding gives the snapshot back, with its automaton as it was.  What remains of reading is the
check of the version and of the automaton, and this has the same outcome for both forms
(`Snapshot.ofJson_ofBytes_eq`).
-/

namespace AutomatonKit.Snapshot

open Binary (ReadsBack)
open Json (IsNative Value)

/-- A snapshot whose numbers and lengths fit into 64 bits, as those of every value in memory do. -/
structure Storable (s : Snapshot) : Prop where
  id_lt : s.id.utf8ByteSize < UInt64.size
  automaton : s.automaton.Storable

variable {s : Snapshot}

/-! ### Bytes -/

/-- The text of a time that can be read fits by itself. -/
theorem utf8ByteSize_write_lt {t : Timestamp} (h : Timestamp.read t.write = some t) :
    t.write.utf8ByteSize < UInt64.size := by
  have hlength := Timestamp.length_write_le (Timestamp.isValid_of_read h)
  have hbytes := Timestamp.utf8ByteSize_le t.write
  unfold UInt64.size
  omega

theorem readsBack (h : s.Storable) (htime : Timestamp.read s.createdAt.write = some s.createdAt) :
    ReadsBack toBytes get s := by
  intro rest
  rw [get, toBytes]
  simp only [List.append_assoc]
  rw [(Binary.readsBack_uint32 s.version).bind_eq]
  dsimp only
  rw [(Binary.readsBack_string h.id_lt).bind_eq]
  dsimp only
  rw [(Binary.readsBack_string (utf8ByteSize_write_lt htime)).bind_eq]
  dsimp only
  rw [htime, Option.bind_eq_bind, Option.bind_some, h.automaton.readsBack.bind_eq]
  rfl

/-! ### JSON -/

theorem isNative_toValue (s : Snapshot) : IsNative s.toValue := by
  refine IsNative.object fun member hmember => ?_
  simp only [List.mem_cons, List.not_mem_nil, or_false] at hmember
  rcases hmember with rfl | rfl | rfl | rfl
  · exact IsNative.number _
  · exact IsNative.string _
  · exact IsNative.string _
  · exact s.automaton.isNative_toJson

theorem ofValue?_toValue (h : s.Storable)
    (htime : Timestamp.read s.createdAt.write = some s.createdAt) :
    ofValue? s.toValue = some s := by
  have hfields : s.toValue.fields? ["version", "id", "created_at", "automaton"] =
      some [some (.number s.version.toNat), some (.string s.id), some (.string s.createdAt.write),
        some s.automaton.toJson] := rfl
  have hversion : (Value.number s.version.toNat).nat? UInt32.size = some s.version.toNat :=
    if_pos s.version.toNat_lt
  have hstring : ∀ text, (Value.string text).string? = some text := fun _ => rfl
  unfold ofValue?
  simp only [hfields, hversion, hstring, htime, h.automaton.ofJson?_toJson, Option.bind_eq_bind,
    Option.bind_some, UInt32.ofNat_toNat]
  rfl

theorem decodeJson?_toJson (h : s.Storable)
    (htime : Timestamp.read s.createdAt.write = some s.createdAt) :
    decodeJson? s.toJson = some s := by
  have hread : Json.read s.toJson = some s.toValue :=
    Json.read_write_eq_some Json.Layout.hasGaps_indented s.isNative_toValue
  rw [decodeJson?, hread, Option.bind_some, ofValue?_toValue h htime]

/-! ### Both -/

/-- **Reading a stored snapshot is checking it**, in JSON as well as in bytes, and whatever follows
the bytes: a snapshot of another version is refused, then one whose automaton has a violation, and
any other snapshot is read back as it was. -/
theorem ofJson_ofBytes_eq (s : Snapshot) (h : s.Storable)
    (htime : Timestamp.read s.createdAt.write = some s.createdAt) :
    let outcome : Except Error Snapshot :=
      if s.version ≠ currentVersion then .error (.unsupportedVersion s.version currentVersion)
      else
        match s.automaton.violation? with
        | some violation => .error (.corruptAutomaton s.id violation)
        | none => .ok s
    ofJson s.toJson = outcome ∧ ∀ extra, ofBytes (s.toBytes ++ extra) = outcome := by
  refine ⟨?_, fun extra => ?_⟩
  · rw [ofJson, decodeJson?_toJson h htime]
    rfl
  · rw [ofBytes, readsBack h htime]
    rfl

/-- A snapshot of an automaton that no edits build: an edge leads to a state that does not exist. -/
def dangling : Snapshot where
  version := currentVersion
  id := "a \"quoted\" name\n→"
  createdAt := ⟨⟨2024, 2, 29⟩, 23, 59, 60, 500000000⟩
  automaton :=
    { states := [{ name := "\t" }]
      alphabet := .ofList ['→', '\\']
      table := [[none, some 7]]
      start := some 0
      accepting := .empty }

theorem storable_dangling : dangling.Storable where
  id_lt := by decide +kernel
  automaton :=
    { states_lt := by decide
      name_lt := by decide +kernel
      table_lt := by decide
      row_lt := by decide
      target_lt := by simp [dangling, UInt64.size]
      start_lt := by simp [dangling, UInt64.size]
      accepting_lt := by decide
      mem_accepting_lt := by decide }

/-- Both forms of `dangling` are refused with its identifier. -/
theorem ofJson_ofBytes_dangling :
    dangling.Storable ∧ Timestamp.read dangling.createdAt.write = some dangling.createdAt ∧
      ∃ violation, ofJson dangling.toJson = .error (.corruptAutomaton dangling.id violation) ∧
        ofBytes (dangling.toBytes ++ [0, 1]) =
          .error (.corruptAutomaton dangling.id violation) := by
  have htime : Timestamp.read dangling.createdAt.write = some dangling.createdAt := by
    decide +kernel
  obtain ⟨hjson, hbytes⟩ := ofJson_ofBytes_eq dangling storable_dangling htime
  exact ⟨storable_dangling, htime, _, hjson, hbytes [0, 1]⟩

end AutomatonKit.Snapshot
