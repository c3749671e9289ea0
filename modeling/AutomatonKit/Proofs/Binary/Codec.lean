import Mathlib
import AutomatonKit.Binary.Codec

/-!
# The binary codecs read what they write

`ReadsBack put get x` says that the reader `get` gives back what `put` wrote for `x` and leaves
everything after it alone.  There is one lemma for each kind of data; those for lists and optional
values ask for the same of the items.  Numbers, lengths of lists and lengths of strings have to fit
into eight bytes.
-/

namespace AutomatonKit.Binary

variable {α : Type} {put : α → Bytes} {get : Bytes → Option (α × Bytes)}

/-- A reader gives back what was written for a value, and the bytes after it. -/
def ReadsBack (put : α → Bytes) (get : Bytes → Option (α × Bytes)) (x : α) : Prop :=
  ∀ rest, get (put x ++ rest) = some (x, rest)

/-- The step of a reader that reads something else afterwards. -/
theorem ReadsBack.bind_eq {β : Type} {x : α} (h : ReadsBack put get x) (rest : Bytes)
    (f : α × Bytes → Option β) : (get (put x ++ rest) >>= f) = f (x, rest) := by
  rw [h rest, Option.bind_eq_bind, Option.bind_some]

/-! ### Numbers -/

theorem readsBack_nat {width n : Nat} (h : n < 256 ^ width) :
    ReadsBack (putNat width) (getNat width) n := by
  induction width generalizing n with
  | zero =>
    intro rest
    have hn : n = 0 := Nat.lt_one_iff.mp h
    rw [hn]
    rfl
  | succ width ih =>
    intro rest
    have hdiv : n / 256 < 256 ^ width := Nat.div_lt_of_lt_mul (by rwa [← Nat.pow_succ'])
    -- the lowest byte is the remainder, and the others are the quotient
    have hsum : (UInt8.ofNat n).toNat + 256 * (n / 256) = n := Nat.mod_add_div n 256
    refine ((ih hdiv).bind_eq rest _).trans ?_
    show some ((UInt8.ofNat n).toNat + 256 * (n / 256), rest) = _
    rw [hsum]

theorem readsBack_index {n : Nat} (h : n < UInt64.size) : ReadsBack putIndex getIndex n :=
  readsBack_nat (h.trans_eq (by norm_num [UInt64.size]))

theorem readsBack_uint32 (n : UInt32) : ReadsBack putUInt32 getUInt32 n := by
  intro rest
  have hlt : n.toNat < 256 ^ 4 := n.toNat_lt.trans_eq (by norm_num)
  refine ((readsBack_nat hlt).bind_eq rest _).trans ?_
  show some (UInt32.ofNat n.toNat, rest) = _
  rw [UInt32.ofNat_toNat]

theorem readsBack_bool (b : Bool) : ReadsBack putBool getBool b := by
  intro rest
  cases b <;> rfl

/-! ### Text -/

theorem mk_toArray (bytes : Bytes) : ByteArray.mk bytes.toArray = bytes.toByteArray :=
  ByteArray.ext List.data_toByteArray.symm

/-- A character has at most four bytes, so the reader looks at all of them. -/
theorem readsBack_char (c : Char) : ReadsBack putChar getChar c := by
  intro rest
  have hlen : (String.utf8EncodeChar c).length = c.utf8Size := String.length_utf8EncodeChar c
  have hle : (String.utf8EncodeChar c).length ≤ 4 := hlen.trans_le c.utf8Size_le_four
  rw [getChar, putChar, mk_toArray, List.take_append, List.take_of_length_le hle,
    List.toByteArray_append, ByteArray.utf8DecodeChar?_utf8EncodeChar_append, Option.bind_eq_bind,
    Option.bind_some, ← hlen, List.drop_left]
  rfl

theorem readsBack_string {s : String} (h : s.utf8ByteSize < UInt64.size) :
    ReadsBack putString getString s := by
  intro rest
  have hlen : s.toUTF8.data.toList.length = s.utf8ByteSize := rfl
  have hvalid : String.fromUTF8? s.toUTF8 = some s := dif_pos s.isValidUTF8
  rw [getString, putString, List.append_assoc, (readsBack_index h).bind_eq]
  dsimp only
  -- there are enough bytes, and exactly those of the string are taken
  rw [if_neg (by rw [List.length_append]; omega), ← hlen, List.take_left, List.drop_left,
    Array.toArray_toList]
  show (String.fromUTF8? s.toUTF8).bind _ = _
  rw [hvalid]
  rfl

/-! ### Lists and optional values -/

theorem getItems_putItems {xs : List α} (h : ∀ x ∈ xs, ReadsBack put get x) (rest : Bytes) :
    getItems get xs.length (putItems put xs ++ rest) = some (xs, rest) := by
  induction xs with
  | nil => rfl
  | cons x xs ih =>
    obtain ⟨hx, hxs⟩ := List.forall_mem_cons.mp h
    have hput : putItems put (x :: xs) = put x ++ putItems put xs := List.flatMap_cons
    rw [hput, List.append_assoc, List.length_cons, getItems, hx.bind_eq]
    dsimp only
    rw [ih hxs]
    rfl

theorem readsBack_list {xs : List α} (hlen : xs.length < UInt64.size)
    (h : ∀ x ∈ xs, ReadsBack put get x) : ReadsBack (putList put) (getList get) xs := by
  intro rest
  rw [getList, putList, List.append_assoc, (readsBack_index hlen).bind_eq]
  exact getItems_putItems h rest

theorem readsBack_option {x : Option α} (h : ∀ y, x = some y → ReadsBack put get y) :
    ReadsBack (putOption put) (getOption get) x := by
  intro rest
  cases x with
  | none => rfl
  | some y =>
    show (get (put y ++ rest)).map _ = _
    rw [h y rfl]
    rfl

end AutomatonKit.Binary
