import Mathlib
import AutomatonKit.Automaton.Binary
import AutomatonKit.Proofs.Binary.Codec
import AutomatonKit.Proofs.Truncation

/-!
# The binary readers look no further than they have read

Every kind of data says by itself where it ends: numbers have a fixed width, and strings and lists
begin with their length.  So each reader is `Stable`, and `eq_none_of_truncated` says that nothing
is read from bytes that were cut off.
-/

namespace AutomatonKit.Binary

variable {α : Type} {put : α → Bytes} {get : Bytes → Option (α × Bytes)}

/-! ### Numbers -/

theorem stable_nat (width : Nat) : Stable (getNat width) := by
  induction width with
  | zero => exact Stable.pure 0
  | succ width ih =>
    intro bytes n rest hread _ more
    cases bytes with
    | nil => cases hread
    | cons byte bytes =>
      have hbytes : Stable fun bytes => getNat width bytes >>= fun answer =>
          some (byte.toNat + 256 * answer.1, answer.2) :=
        ih.bind fun n => Stable.pure (byte.toNat + 256 * n)
      exact hbytes bytes n rest hread trivial more

theorem stable_uint32 : Stable getUInt32 :=
  (stable_nat 4).bind fun _ => Stable.pure _

theorem stable_bool : Stable getBool := by
  intro bytes b rest hread _ more
  cases bytes with
  | nil => cases hread
  | cons byte bytes =>
    rw [getBool] at hread
    rw [List.cons_append, getBool]
    split_ifs at hread ⊢
    · cases hread
      rfl
    · cases hread
      rfl

/-! ### Text -/

/-- The bytes of a character are among those that the reader looks at. -/
theorem utf8Size_le_of_decode {bytes : Bytes} {c : Char}
    (h : bytes.toByteArray.utf8DecodeChar? 0 = some c) : c.utf8Size ≤ bytes.length := by
  have hsize := congrArg ByteArray.size (ByteArray.eq_of_utf8DecodeChar?_eq_some h)
  rw [ByteArray.size_append, List.size_toByteArray, List.size_toByteArray,
    String.length_utf8EncodeChar] at hsize
  omega

/-- A character is decoded from its own bytes, whatever stands among the four bytes behind them. -/
theorem stable_char : Stable getChar := by
  intro bytes c rest hread _ more
  obtain ⟨c, hc, hrest⟩ := Option.bind_eq_some_iff.mp hread
  rw [mk_toArray] at hc
  have hlen : c.utf8Size ≤ bytes.length :=
    (utf8Size_le_of_decode hc).trans (List.length_take_le' 4 bytes)
  cases hrest
  rw [getChar, mk_toArray, List.take_append, List.toByteArray_append,
    ByteArray.utf8DecodeChar?_append_eq_some hc, Option.bind_eq_bind, Option.bind_some,
    List.drop_append_of_le_length hlen]
  rfl

theorem stable_string : Stable getString := by
  refine (stable_nat 8).bind fun size => ?_
  intro bytes s rest hread _ more
  dsimp only at hread ⊢
  split_ifs at hread with hshort
  have hlong : size ≤ bytes.length := Nat.le_of_not_lt hshort
  obtain ⟨s, hs, hrest⟩ := Option.bind_eq_some_iff.mp hread
  cases hrest
  rw [if_neg (by rw [List.length_append]; omega), List.take_append_of_le_length hlong,
    List.drop_append_of_le_length hlong, hs]
  rfl

/-! ### Lists and optional values -/

theorem stable_items (h : Stable get) (count : Nat) : Stable (getItems get count) := by
  induction count with
  | zero => exact Stable.pure []
  | succ count ih => exact h.bind fun x => ih.bind fun xs => Stable.pure _

theorem stable_list (h : Stable get) : Stable (getList get) :=
  (stable_nat 8).bind fun count => stable_items h count

theorem stable_option (h : Stable get) : Stable (getOption get) := by
  intro bytes x rest hread _ more
  cases bytes with
  | nil => cases hread
  | cons byte bytes =>
    rw [getOption] at hread
    rw [List.cons_append, getOption]
    split_ifs at hread ⊢
    · cases hread
      rfl
    · exact h.map some bytes x rest hread trivial more

theorem eq_none_of_truncated {x : α} (hget : Stable get) (hput : ReadsBack put get x)
    {bytes : Bytes} (hpre : bytes <+: put x) (hne : bytes ≠ put x) : get bytes = none := by
  have hread := hput []
  rw [List.append_nil] at hread
  exact hget.eq_none hread hpre hne

end AutomatonKit.Binary

namespace AutomatonKit

open Binary

/-! ### Automata -/

theorem State.stable_get : Stable State.get :=
  stable_string.bind fun _ => stable_bool.bind fun _ => Stable.pure _

theorem Automaton.stable_get : Stable Automaton.get :=
  (stable_list State.stable_get).bind fun _ =>
    (stable_list stable_char).bind fun _ =>
      (stable_list (stable_list (stable_option (stable_nat 8)))).bind fun _ =>
        (stable_option (stable_nat 8)).bind fun _ =>
          (stable_list (stable_nat 8)).bind fun _ => Stable.pure _

end AutomatonKit
