import Mathlib
import AutomatonKit.Proofs.Binary.Truncation
import AutomatonKit.Proofs.Json.Truncation
import AutomatonKit.Proofs.Snapshot

/-!
# A snapshot that is cut off is noticed

`Snapshot.decode_of_truncated`: neither form of a snapshot is decoded if anything is missing at its
end, wherever it is cut.  So the check of the version and of the automaton is not reached, although
the version stands at the beginning of both forms.

In JSON it is the closing brace of the snapshot that is missing, and so nothing is asked of the
snapshot.  The bytes have no closing mark, and more of them may follow than the decoder needs.  But
the decoder needs all the bytes that were written, because it reads the snapshot back from them and
looks no further than it has read.
-/

namespace AutomatonKit.Snapshot

open Binary (Bytes)

variable {s : Snapshot}

theorem stable_get : Stable get :=
  Binary.stable_uint32.bind fun _ =>
    Binary.stable_string.bind fun _ =>
      Binary.stable_string.bind fun createdAt =>
        Stable.check (Timestamp.read createdAt) fun _ =>
          Automaton.stable_get.bind fun _ => Stable.pure _

theorem toList_toJson (s : Snapshot) : s.toJson.toList = Json.writeAt .indented 0 s.toValue :=
  String.toList_ofList

theorem ofJson_of_truncated {text : String} (hpre : text.toList <+: s.toJson.toList)
    (hne : text ≠ s.toJson) : ofJson text = .error .decode := by
  have hcut : text.toList ≠ Json.writeAt .indented 0 s.toValue := by
    intro heq
    exact hne (String.toList_inj.mp (heq.trans s.toList_toJson.symm))
  rw [toList_toJson] at hpre
  have hread : Json.read text = none :=
    Json.readChars_eq_none Json.Layout.hasGaps_indented s.isNative_toValue hpre hcut
  rw [ofJson, decodeJson?, hread]
  rfl

theorem ofBytes_of_truncated (h : s.Storable)
    (htime : Timestamp.read s.createdAt.write = some s.createdAt) {bytes : Bytes}
    (hpre : bytes <+: s.toBytes) (hne : bytes ≠ s.toBytes) : ofBytes bytes = .error .decode := by
  have hget : get bytes = none :=
    Binary.eq_none_of_truncated stable_get (readsBack h htime) hpre hne
  rw [ofBytes, hget]

/-- **A snapshot that is cut off is not decoded**, neither from its text nor from its bytes: a part
of it from the left is not taken for another snapshot, and nothing is said about its version or its
automaton. -/
theorem decode_of_truncated (s : Snapshot) (h : s.Storable)
    (htime : Timestamp.read s.createdAt.write = some s.createdAt) :
    (∀ text : String, text.toList <+: s.toJson.toList → text ≠ s.toJson →
      ofJson text = .error .decode) ∧
    ∀ bytes : Bytes, bytes <+: s.toBytes → bytes ≠ s.toBytes → ofBytes bytes = .error .decode :=
  ⟨fun _ hpre hne => ofJson_of_truncated hpre hne,
    fun _ hpre hne => ofBytes_of_truncated h htime hpre hne⟩

/-- A snapshot of a version to come, of an automaton that no edits build. -/
def ahead : Snapshot :=
  { dangling with version := 2 }

/-- The text of `ahead` without its last character is not decoded, and of its bytes the version
alone is not. -/
theorem decode_of_truncated_ahead :
    ahead.Storable ∧ Timestamp.read ahead.createdAt.write = some ahead.createdAt ∧
      ofJson (String.ofList ahead.toJson.toList.dropLast) = .error .decode ∧
      ofBytes (ahead.toBytes.take 4) = .error .decode := by
  have hstorable : ahead.Storable := ⟨storable_dangling.id_lt, storable_dangling.automaton⟩
  have htime : Timestamp.read ahead.createdAt.write = some ahead.createdAt := by decide +kernel
  obtain ⟨hjson, hbytes⟩ := decode_of_truncated ahead hstorable htime
  refine ⟨hstorable, htime, hjson _ ?_ ?_, hbytes _ (List.take_prefix 4 _) ?_⟩
  · rw [String.toList_ofList]
    exact List.dropLast_prefix _
  · intro heq
    have hchars := congrArg String.toList heq
    obtain ⟨body, hbody⟩ : ∃ body, ahead.toJson.toList = '\x7b' :: body := by
      rw [ahead.toList_toJson]
      exact Json.exists_writeAt_object _ _
    have hlen := congrArg List.length hchars
    rw [String.toList_ofList, hbody, List.length_dropLast, List.length_cons] at hlen
    omega
  · decide +kernel

end AutomatonKit.Snapshot
