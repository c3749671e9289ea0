import Mathlib

/-!
# Readers of an input that goes on

A reader takes an input apart from the left and answers what it has read together with the rest.
`Continues` says that it looks no further than it has read: the answer is the same when the input
goes on, and what follows is left alone.  Readers that consist of several steps have this property
if the steps have it (`Continues.bind`).

A number in decimal digits is the exception, because more digits may follow the end of the input.
Hence `Continues` asks for it only where the rest satisfies a condition.

So an input that is read up to its end is not read when it is cut off (`Continues.eq_none`): what
was read before the cut would be read from the whole input, too, and leave something behind it.
-/

namespace AutomatonKit

variable {σ α β : Type} {P Q : List σ → Prop}

/-- What `get` reads from an input and leaves with a rest that satisfies `P`, `get'` reads from
every longer input. -/
def Continues (P : List σ → Prop) (get get' : List σ → Option (α × List σ)) : Prop :=
  ∀ s x rest, get s = some (x, rest) → P rest → ∀ more, get' (s ++ more) = some (x, rest ++ more)

/-- A reader that looks no further than it has read. -/
def Stable (get : List σ → Option (α × List σ)) : Prop :=
  Continues (fun _ => True) get get

variable {get get' : List σ → Option (α × List σ)}

theorem continues_pure (P : List σ → Prop) (x : α) :
    Continues P (fun s => some (x, s)) (fun s => some (x, s)) := by
  intro s y rest hread _ more
  cases hread
  rfl

theorem Continues.map (h : Continues P get get') (f : α → β) :
    Continues P (fun s => (get s).map fun (x, rest) => (f x, rest))
      (fun s => (get' s).map fun (x, rest) => (f x, rest)) := by
  intro s y rest hread hrest more
  obtain ⟨⟨x, rest'⟩, hx, hxy⟩ := Option.map_eq_some_iff.mp hread
  cases hxy
  show (get' (s ++ more)).map _ = _
  rw [h s x rest hx hrest more]
  rfl

/-- **One step after the other.**  What the first step leaves has to satisfy its condition whenever
the second step can go on from there. -/
theorem Continues.bind {next next' : α × List σ → Option (β × List σ)} (h : Continues P get get')
    (hnext : ∀ x, Continues Q (fun s => next (x, s)) (fun s => next' (x, s)))
    (hstop : ∀ x s y rest, next (x, s) = some (y, rest) → Q rest → P s) :
    Continues Q (fun s => get s >>= next) (fun s => get' s >>= next') := by
  intro s y rest hread hrest more
  obtain ⟨⟨x, middle⟩, hfirst, hsecond⟩ := Option.bind_eq_some_iff.mp hread
  have hmiddle : P middle := hstop x middle y rest hsecond hrest
  show (get' (s ++ more) >>= next') = _
  rw [h s x middle hfirst hmiddle more, Option.bind_eq_bind, Option.bind_some]
  exact hnext x middle y rest hsecond hrest more

/-- The second step may go on from anything. -/
theorem Continues.andThen {next next' : α × List σ → Option (β × List σ)}
    (h : Continues (fun _ => True) get get')
    (hnext : ∀ x, Continues Q (fun s => next (x, s)) (fun s => next' (x, s))) :
    Continues Q (fun s => get s >>= next) (fun s => get' s >>= next') :=
  h.bind hnext fun _ _ _ _ _ _ => trivial

theorem Stable.bind {next : α × List σ → Option (β × List σ)} (h : Stable get)
    (hnext : ∀ x, Stable fun s => next (x, s)) : Stable fun s => get s >>= next :=
  Continues.andThen h hnext

theorem Stable.pure (x : α) : Stable fun s : List σ => some (x, s) :=
  continues_pure _ x

/-- A step that may fail but reads nothing. -/
theorem Stable.check (x : Option α) {next : α → List σ → Option (β × List σ)}
    (hnext : ∀ y, Stable (next y)) : Stable fun s => x >>= fun y => next y s := by
  cases x with
  | none => exact fun _ _ _ hread => nomatch hread
  | some y => exact hnext y

/-- **What is read up to its end is not read when it is cut off.** -/
theorem Continues.eq_none (h : Continues (fun _ => True) get get') {s t : List σ} {y : α}
    (hread : get' t = some (y, [])) (hpre : s <+: t) (hne : s ≠ t) : get s = none := by
  obtain ⟨more, rfl⟩ := hpre
  cases hs : get s with
  | none => rfl
  | some answer =>
    obtain ⟨x, rest⟩ := answer
    have hwhole := h s x rest hs trivial more
    rw [hread] at hwhole
    -- nothing is left of the whole input, so nothing was cut off
    have hmore : [] = rest ++ more := (Prod.mk.inj (Option.some.inj hwhole)).2
    rw [(List.append_eq_nil_iff.mp hmore.symm).2, List.append_nil] at hne
    exact absurd rfl hne

end AutomatonKit
