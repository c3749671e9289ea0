import Mathlib
import AutomatonKit.Automaton.Binary
import AutomatonKit.Proofs.Alphabet
import AutomatonKit.Proofs.Binary.Codec
import AutomatonKit.Proofs.IdSet

/-!
# Automata read back from bytes

`Automaton.Storable.readsBack`: an automaton is read back from its bytes exactly as it was, whether
it is well-formed or not.  All that is asked for is that its numbers and lengths fit into 64 bits
(`Automaton.Storable`).  The alphabet and the accepting states are stored as plain lists; rebuilding
them from these lists gives the same columns and the same set.
-/

namespace AutomatonKit

open Binary

/-- An automaton whose numbers and lengths fit into 64 bits, as those of every value in memory do.
A number may still name no state. -/
structure Automaton.Storable (d : Automaton) : Prop where
  states_lt : d.states.length < UInt64.size
  name_lt : ∀ s ∈ d.states, s.name.utf8ByteSize < UInt64.size
  table_lt : d.table.length < UInt64.size
  row_lt : ∀ row ∈ d.table, row.length < UInt64.size
  target_lt : ∀ row ∈ d.table, ∀ id, some id ∈ row → id < UInt64.size
  start_lt : ∀ id, d.start = some id → id < UInt64.size
  accepting_lt : d.accepting.ids.length < UInt64.size
  mem_accepting_lt : ∀ id ∈ d.accepting.ids, id < UInt64.size

theorem State.readsBack {s : State} (h : s.name.utf8ByteSize < UInt64.size) :
    ReadsBack State.put State.get s := by
  intro rest
  rw [State.get, State.put, List.append_assoc, (readsBack_string h).bind_eq]
  dsimp only
  rw [(readsBack_bool _).bind_eq]
  rfl

/-- There are fewer than `UInt64.size` symbols, because there are no more characters. -/
theorem Alphabet.length_symbols_lt (a : Alphabet) : a.symbols.length < UInt64.size := by
  -- the codes of the symbols are distinct and below the end of the Unicode range
  have hnodup : (a.symbols.map Char.toNat).Nodup :=
    a.nodup.map fun _ _ h => Char.toNat_inj.mp h
  have hsubset : a.symbols.map Char.toNat ⊆ List.range 0x110000 := by
    intro n hn
    obtain ⟨c, -, rfl⟩ := List.mem_map.mp hn
    have hvalid : c.toNat < 0xD800 ∨ 0xDFFF < c.toNat ∧ c.toNat < 0x110000 := c.valid
    rw [List.mem_range]
    omega
  have hle := (List.subperm_of_subset hnodup hsubset).length_le
  rw [List.length_map, List.length_range] at hle
  exact hle.trans_lt (by decide)

namespace Automaton

variable {d : Automaton}

theorem Storable.readsBack_row (h : d.Storable) {row : Row} (hrow : row ∈ d.table) :
    ReadsBack putRow getRow row := by
  refine readsBack_list (h.row_lt row hrow) fun cell hcell => readsBack_option fun id hid => ?_
  exact readsBack_index (h.target_lt row hrow id (hid ▸ hcell))

/-- **Bytes keep everything.** -/
theorem Storable.readsBack (h : d.Storable) : ReadsBack put get d := by
  intro rest
  have hstates := readsBack_list h.states_lt fun s hs => State.readsBack (h.name_lt s hs)
  have hsymbols := readsBack_list d.alphabet.length_symbols_lt fun c _ => readsBack_char c
  have htable := readsBack_list h.table_lt fun row hrow => h.readsBack_row hrow
  have hstart : ReadsBack (putOption putIndex) (getOption getIndex) d.start :=
    readsBack_option fun id hid => readsBack_index (h.start_lt id hid)
  have haccepting := readsBack_list h.accepting_lt fun id hid =>
    readsBack_index (h.mem_accepting_lt id hid)
  -- one part after the other, each leaving the parts that follow it
  unfold put get
  simp only [List.append_assoc]
  rw [hstates.bind_eq]
  dsimp only
  rw [hsymbols.bind_eq]
  dsimp only
  rw [htable.bind_eq]
  dsimp only
  rw [hstart.bind_eq]
  dsimp only
  rw [haccepting.bind_eq]
  dsimp only
  rw [Alphabet.ofList_symbols, IdSet.ofList_ids]
  rfl

end Automaton

end AutomatonKit
