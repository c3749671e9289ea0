import Mathlib
import AutomatonKit.Json.Record
import AutomatonKit.Proofs.Json.RoundTrip

/-!
# Parts of records are taken out as they were put in

Lists, optional values and characters are taken out of a JSON value again, if the items of a list
and the content of an optional value are.  The values that are made here have no foreign part.

So a record whose value has no foreign part is read back from its text (`bind_read_write`), and two
records with the same text are the same (`eq_of_write_eq`).
-/

namespace AutomatonKit.Json

variable {α : Type} {put : α → Value} {take : Value → Option α}

theorem Value.list?_ofList {xs : List α} (h : ∀ x ∈ xs, take (put x) = some x) :
    (ofList put xs).list? take = some xs := by
  show (xs.map put).mapM take = some xs
  induction xs with
  | nil => rfl
  | cons x xs ih =>
    obtain ⟨hx, hxs⟩ := List.forall_mem_cons.mp h
    rw [List.map_cons, List.mapM_cons, hx, Option.bind_eq_bind, Option.bind_some, ih hxs]
    rfl

/-- A content that is itself `null` would be taken for none. -/
theorem Value.optional?_ofOption {x : Option α} (h : ∀ y, x = some y → take (put y) = some y)
    (hnull : ∀ y, put y ≠ .null) : (ofOption put x).optional? take = some x := by
  cases x with
  | none => rfl
  | some y =>
    show (put y).optional? take = _
    rw [optional?, h y rfl]
    · rfl
    · exact hnull y

theorem Value.char?_ofChar (c : Char) : (ofChar c).char? = some c := by
  rw [ofChar, char?, String.toList_singleton]

theorem isNative_ofList {xs : List α} (h : ∀ x ∈ xs, IsNative (put x)) :
    IsNative (Value.ofList put xs) := by
  refine IsNative.array fun item hitem => ?_
  obtain ⟨x, hx, rfl⟩ := List.mem_map.mp hitem
  exact h x hx

theorem isNative_ofVariant (name : String) {content : Value} (h : IsNative content) :
    IsNative (Value.ofVariant name content) := by
  refine IsNative.object fun member hmember => ?_
  rwa [List.mem_singleton.mp hmember]

theorem isNative_ofOption (h : ∀ x, IsNative (put x)) (x : Option α) :
    IsNative (Value.ofOption put x) := by
  cases x with
  | none => exact IsNative.null
  | some x => exact h x

/-! ### Texts of records -/

variable {layout : Layout} {x y : α}

theorem bind_read_write (hl : layout.HasGaps) (hnative : IsNative (put x))
    (htake : take (put x) = some x) : (read (write layout (put x))).bind take = some x := by
  rw [read_write_eq_some hl hnative, Option.bind_some, htake]

/-- A text that is read back belongs to one record only. -/
theorem eq_of_write_eq (hl : layout.HasGaps) (hnative : ∀ x, IsNative (put x))
    (hx : take (put x) = some x) (hy : take (put y) = some y)
    (h : write layout (put x) = write layout (put y)) : x = y := by
  have hreadx := bind_read_write hl (hnative x) hx
  have hready := bind_read_write hl (hnative y) hy
  rw [h, hready] at hreadx
  exact (Option.some.inj hreadx).symm

end AutomatonKit.Json
