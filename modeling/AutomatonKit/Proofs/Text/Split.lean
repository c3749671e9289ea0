import Mathlib
import AutomatonKit.Proofs.Text.Trim
import AutomatonKit.Text.Split

/-!
# Cutting and joining texts

The cutting functions undo the joining of pieces that do not contain the separator:
`splitOn_flatMap_lines` for lines that each end with a line feed, `tokens_intercalate` for items
between commas, `cutAt_eq_some_iff` and `cutArrow_eq_some_iff` for the two cuts of a transition
line.  What is read from any list is trimmed and not empty (`of_mem_tokens`), and blanks around the
list or around a comma in it do not matter (`tokens_append_blanks`, `map_trim_splitOn_comma`).
`hasArrow_iff` says that `hasArrow` looks for an arrow anywhere in the text.
-/

namespace AutomatonKit.Text

/-! ### Separators -/

theorem splitOn_eq (separator : Char) (s : List Char) :
    splitOn separator s = s.splitOn separator := by
  induction s with
  | nil => simp [splitOn]
  | cons c s ih =>
    rw [splitOn, List.splitOn_cons_eq_if_modifyHead, ← ih]
    by_cases hc : c = separator
    · rw [if_pos hc, if_pos (beq_iff_eq.mpr hc)]
    · rw [if_neg hc, if_neg (mt beq_iff_eq.mp hc)]
      have hne : splitOn separator s ≠ [] := ih ▸ List.splitOn_ne_nil _ _
      cases h : splitOn separator s with
      | nil => exact absurd h hne
      | cons piece pieces => rfl

/-- Lines that end with a line feed are the pieces between the line feeds, but for the empty piece
at the end. -/
theorem splitOn_flatMap_lines {lines : List (List Char)} (h : ∀ line ∈ lines, '\n' ∉ line) :
    splitOn '\n' (lines.flatMap fun line => line ++ ['\n']) = lines ++ [[]] := by
  rw [splitOn_eq]
  induction lines with
  | nil => simp
  | cons line lines ih =>
    rw [List.flatMap_cons, List.append_assoc, List.singleton_append,
      List.splitOn_append_cons_self_of_not_mem (h line List.mem_cons_self),
      ih fun x hx => h x (List.mem_cons_of_mem _ hx), List.cons_append]

theorem splitOn_cons_intercalate {items : List (List Char)} (h : ∀ item ∈ items, ',' ∉ item)
    (hne : items ≠ []) :
    splitOn ',' (' ' :: List.intercalate [',', ' '] items) = items.map (' ' :: ·) := by
  rw [splitOn_eq]
  induction items with
  | nil => exact absurd rfl hne
  | cons item items ih =>
    have hitem : ',' ∉ ' ' :: item := by
      simpa using h item List.mem_cons_self
    -- the space after a comma goes to the piece that follows
    cases items with
    | nil => rw [List.intercalate_singleton, List.splitOn_eq_singleton hitem]; rfl
    | cons next items =>
      have hjoin : ' ' :: List.intercalate [',', ' '] (item :: next :: items) =
          (' ' :: item) ++ ',' :: ' ' :: List.intercalate [',', ' '] (next :: items) := by
        rw [List.intercalate_cons_cons, List.append_assoc]
        rfl
      rw [hjoin, List.splitOn_append_cons_self_of_not_mem hitem,
        ih (fun x hx => h x (List.mem_cons_of_mem _ hx)) (by simp)]
      rfl

/-- A joined list is read as its items, trimmed and without those of which nothing is left. -/
theorem tokens_intercalate_eq {items : List (List Char)} (hcomma : ∀ item ∈ items, ',' ∉ item) :
    tokens (' ' :: List.intercalate [',', ' '] items) =
      (items.map trim).filter fun item => !item.isEmpty := by
  by_cases hitems : items = []
  · rw [hitems]
    decide
  · have htrim : items.map (trim ∘ (' ' :: ·)) = items.map trim :=
      List.map_congr_left fun item _ => trim_cons_of_blank isBlank_space item
    rw [tokens, splitOn_cons_intercalate hcomma hitems, List.map_map, htrim]

/-- **Reading a list** gives the items that were joined, if they are trimmed and not empty. -/
theorem tokens_intercalate {items : List (List Char)} (hcomma : ∀ item ∈ items, ',' ∉ item)
    (htrim : ∀ item ∈ items, trim item = item) (hne : ∀ item ∈ items, item ≠ []) :
    tokens (' ' :: List.intercalate [',', ' '] items) = items := by
  rw [tokens_intercalate_eq hcomma, List.map_congr_left htrim, List.map_id', List.filter_eq_self]
  intro item hitem
  simpa using hne item hitem

theorem mem_intercalate {c : Char} {separator : List Char} {items : List (List Char)}
    (h : c ∈ List.intercalate separator items) : c ∈ separator ∨ ∃ item ∈ items, c ∈ item := by
  induction items with
  | nil => simp at h
  | cons item items ih =>
    cases items with
    | nil =>
      rw [List.intercalate_singleton] at h
      exact Or.inr ⟨item, List.mem_cons_self, h⟩
    | cons next items =>
      rw [List.intercalate_cons_cons, List.mem_append, List.mem_append] at h
      rcases h with (h | h) | h
      · exact Or.inr ⟨item, List.mem_cons_self, h⟩
      · exact Or.inl h
      · rcases ih h with h | ⟨x, hx, hc⟩
        · exact Or.inl h
        · exact Or.inr ⟨x, List.mem_cons_of_mem _ hx, hc⟩

/-- A joined list ends with its last item. -/
theorem exists_intercalate_eq_append (separator : List Char) {items : List (List Char)}
    (h : items ≠ []) : ∃ m, List.intercalate separator items = m ++ items.getLast h := by
  induction items with
  | nil => exact absurd rfl h
  | cons item items ih =>
    cases items with
    | nil => exact ⟨[], by simp⟩
    | cons next items =>
      obtain ⟨m, hm⟩ := ih (by simp)
      refine ⟨item ++ separator ++ m, ?_⟩
      rw [List.intercalate_cons_cons, hm, List.append_assoc _ m]
      rfl

/-! ### The pieces of a list -/

/-- The pieces of a text do not contain the separator, nor anything that the text does not. -/
theorem of_mem_splitOn {separator : Char} {s piece : List Char}
    (h : piece ∈ splitOn separator s) : separator ∉ piece ∧ piece ⊆ s := by
  rw [splitOn_eq] at h
  induction s generalizing piece with
  | nil =>
    rw [List.splitOn_nil, List.mem_singleton] at h
    simp [h]
  | cons c s ih =>
    rw [List.splitOn_cons_eq_if_modifyHead] at h
    split at h
    · rcases List.mem_cons.mp h with rfl | h
      · simp
      · obtain ⟨hsep, hsub⟩ := ih h
        exact ⟨hsep, fun x hx => List.mem_cons_of_mem _ (hsub hx)⟩
    · next hc =>
      have hc : separator ≠ c := fun hsc => hc (beq_iff_eq.mpr hsc.symm)
      -- the character at hand goes to the first piece
      cases hpieces : s.splitOn separator with
      | nil => exact absurd hpieces (List.splitOn_ne_nil _ _)
      | cons first pieces =>
        rw [hpieces] at h ih
        rcases List.mem_cons.mp h with rfl | h
        · obtain ⟨hsep, hsub⟩ := ih List.mem_cons_self
          refine ⟨?_, List.cons_subset_cons _ hsub⟩
          rw [List.mem_cons, not_or]
          exact ⟨hc, hsep⟩
        · obtain ⟨hsep, hsub⟩ := ih (List.mem_cons_of_mem _ h)
          exact ⟨hsep, fun x hx => List.mem_cons_of_mem _ (hsub hx)⟩

/-- **Tokens** are trimmed, not empty and without a comma, and stand in the list. -/
theorem of_mem_tokens {list token : List Char} (h : token ∈ tokens list) :
    token ≠ [] ∧ trim token = token ∧ ',' ∉ token ∧ token ⊆ list := by
  obtain ⟨hmem, hne⟩ := List.mem_filter.mp h
  obtain ⟨piece, hpiece, rfl⟩ := List.mem_map.mp hmem
  obtain ⟨hcomma, hsub⟩ := of_mem_splitOn hpiece
  have htrim : trim piece ⊆ piece := (trim_isInfix piece).subset
  exact ⟨by simpa using hne, trim_trim piece, fun hc => hcomma (htrim hc), fun c hc => hsub (htrim hc)⟩

/-- A text without a separator that is put in front goes to the first piece. -/
theorem exists_splitOn_append_left {separator : Char} {u : List Char} (hu : separator ∉ u)
    (s : List Char) : ∃ first pieces, splitOn separator s = first :: pieces ∧
      splitOn separator (u ++ s) = (u ++ first) :: pieces := by
  simp only [splitOn_eq]
  by_cases hs : separator ∈ s
  · obtain ⟨a, b, rfl, ha⟩ := List.eq_append_cons_of_mem hs
    have hua : separator ∉ u ++ a := List.not_mem_append hu ha
    refine ⟨a, b.splitOn separator, List.splitOn_append_cons_self_of_not_mem ha b, ?_⟩
    rw [← List.append_assoc, List.splitOn_append_cons_self_of_not_mem hua]
  · exact ⟨s, [], List.splitOn_eq_singleton hs,
      List.splitOn_eq_singleton (List.not_mem_append hu hs)⟩

/-- A text without a separator that is put behind goes to the last piece. -/
theorem exists_splitOn_append_right {separator : Char} {v : List Char} (hv : separator ∉ v)
    (s : List Char) : ∃ pieces last, splitOn separator s = pieces ++ [last] ∧
      splitOn separator (s ++ v) = pieces ++ [last ++ v] := by
  simp only [splitOn_eq]
  by_cases hs : separator ∈ s
  · -- the last separator is the first one of the reversed text
    obtain ⟨b, a, hba, hb⟩ := List.eq_append_cons_of_mem (List.mem_reverse.mpr hs)
    obtain rfl : s = a.reverse ++ separator :: b.reverse := by
      rw [← List.reverse_reverse s, hba]
      simp
    have hb : separator ∉ b.reverse := mt List.mem_reverse.mp hb
    refine ⟨a.reverse.splitOn separator, b.reverse, ?_, ?_⟩
    · rw [List.splitOn_append_cons_self, List.splitOn_eq_singleton hb]
    · rw [List.append_assoc, List.cons_append, List.splitOn_append_cons_self,
        List.splitOn_eq_singleton (List.not_mem_append hb hv)]
  · exact ⟨[], s, List.splitOn_eq_singleton hs,
      List.splitOn_eq_singleton (List.not_mem_append hs hv)⟩

theorem comma_not_mem_of_blank {s : List Char} (h : ∀ c ∈ s, isBlank c = true) : ',' ∉ s :=
  fun hmem => absurd (h ',' hmem) (by decide)

/-- Blanks in front of a list are blanks in front of its first piece. -/
theorem map_trim_splitOn_blanks_append {u : List Char} (hu : ∀ c ∈ u, isBlank c = true)
    (list : List Char) : (splitOn ',' (u ++ list)).map trim = (splitOn ',' list).map trim := by
  obtain ⟨first, pieces, hlist, hulist⟩ :=
    exists_splitOn_append_left (comma_not_mem_of_blank hu) list
  rw [hlist, hulist, List.map_cons, List.map_cons, trim_blanks_append hu]

/-- Blanks behind a list are blanks behind its last piece. -/
theorem map_trim_splitOn_append_blanks {v : List Char} (hv : ∀ c ∈ v, isBlank c = true)
    (list : List Char) : (splitOn ',' (list ++ v)).map trim = (splitOn ',' list).map trim := by
  obtain ⟨pieces, last, hlist, hlistv⟩ :=
    exists_splitOn_append_right (comma_not_mem_of_blank hv) list
  rw [hlist, hlistv, List.map_append, List.map_append, List.map_singleton, List.map_singleton,
    trim_append_blanks hv]

/-- **Blanks at the ends of a list do not matter.** -/
theorem tokens_blanks_append {u : List Char} (hu : ∀ c ∈ u, isBlank c = true)
    (list : List Char) : tokens (u ++ list) = tokens list := by
  rw [tokens, tokens, map_trim_splitOn_blanks_append hu]

theorem tokens_append_blanks {v : List Char} (hv : ∀ c ∈ v, isBlank c = true)
    (list : List Char) : tokens (list ++ v) = tokens list := by
  rw [tokens, tokens, map_trim_splitOn_append_blanks hv]

/-- **Blanks around a comma do not matter**, since the pieces before and after it are trimmed. -/
theorem map_trim_splitOn_comma {u v : List Char} (hu : ∀ c ∈ u, isBlank c = true)
    (hv : ∀ c ∈ v, isBlank c = true) (a b : List Char) :
    (splitOn ',' (a ++ u ++ ',' :: (v ++ b))).map trim = (splitOn ',' (a ++ ',' :: b)).map trim := by
  have hbefore := map_trim_splitOn_append_blanks hu a
  have hafter := map_trim_splitOn_blanks_append hv b
  simp only [splitOn_eq, List.splitOn_append_cons_self, List.map_append] at hbefore hafter ⊢
  rw [hbefore, hafter]

/-! ### The first comma -/

theorem cutAt_eq_some_iff {separator : Char} {s a b : List Char} :
    cutAt separator s = some (a, b) ↔ s = a ++ separator :: b ∧ separator ∉ a := by
  induction s generalizing a with
  | nil => simp [cutAt]
  | cons c s ih =>
    rw [cutAt]
    by_cases hc : c = separator
    · rw [if_pos hc, hc]
      cases a with
      | nil => simp [eq_comm]
      | cons x a =>
        simp only [Option.some.injEq, Prod.mk.injEq, List.cons_append, List.cons.injEq,
          List.mem_cons, not_or]
        constructor
        · rintro ⟨h, -⟩
          exact absurd h (by simp)
        · rintro ⟨⟨h, -⟩, h', -⟩
          exact absurd h h'
    · rw [if_neg hc, Option.map_eq_some_iff]
      cases a with
      | nil => simp [hc]
      | cons x a =>
        simp only [Prod.exists, Prod.mk.injEq, List.cons.injEq, List.cons_append, List.mem_cons,
          not_or]
        constructor
        · rintro ⟨a', b', h, ⟨rfl, rfl⟩, rfl⟩
          obtain ⟨h, hmem⟩ := ih.mp h
          exact ⟨⟨rfl, h⟩, fun h => hc h.symm, hmem⟩
        · rintro ⟨⟨rfl, h⟩, -, hmem⟩
          exact ⟨a, b, ih.mpr ⟨h, hmem⟩, ⟨rfl, rfl⟩, rfl⟩

theorem cutAt_eq_none_iff {separator : Char} {s : List Char} :
    cutAt separator s = none ↔ separator ∉ s := by
  induction s with
  | nil => simp [cutAt]
  | cons c s ih =>
    rw [cutAt]
    by_cases hc : c = separator
    · rw [if_pos hc, hc]
      simp
    · rw [if_neg hc, Option.map_eq_none_iff, ih, List.mem_cons, not_or]
      exact ⟨fun h => ⟨Ne.symm hc, h⟩, fun h => h.2⟩

/-! ### Arrows -/

theorem hasArrow_cons (c : Char) (s : List Char) :
    hasArrow (c :: s) = ((decide (c = '-') && decide (s.head? = some '>')) || hasArrow s) := by
  unfold hasArrow
  by_cases h : c = '-' ∧ s.head? = some '>'
  · obtain ⟨rfl, hs⟩ := h
    obtain ⟨rest, rfl⟩ := List.head?_eq_some_iff.mp hs
    simp [cutArrow]
  · rw [cutArrow.eq_3]
    · rw [Option.isSome_map, ← Bool.decide_and, decide_eq_false h, Bool.false_or]
    · rintro rest rfl rfl
      exact h ⟨rfl, rfl⟩

theorem arrow_prefix_cons_iff {c : Char} {s : List Char} :
    ['-', '>'] <+: c :: s ↔ c = '-' ∧ s.head? = some '>' := by
  rw [List.cons_prefix_cons, eq_comm]
  refine and_congr_right fun _ => ?_
  cases s with
  | nil => simp
  | cons d s => rw [List.head?_cons, Option.some.injEq, List.cons_prefix_cons, eq_comm]; simp

/-- A text has an arrow if an arrow occurs in it. -/
theorem hasArrow_iff {s : List Char} : hasArrow s = true ↔ ['-', '>'] <:+: s := by
  induction s with
  | nil => simp [hasArrow, cutArrow]
  | cons c s ih =>
    rw [hasArrow_cons, List.infix_cons_iff, Bool.or_eq_true, ih, arrow_prefix_cons_iff,
      Bool.and_eq_true, decide_eq_true_eq, decide_eq_true_eq]

theorem hasArrow_eq_false_iff {s : List Char} : hasArrow s = false ↔ ¬ ['-', '>'] <:+: s := by
  rw [← hasArrow_iff, Bool.not_eq_true]

/-- No arrow runs over a character that is neither of its two. -/
theorem hasArrow_append_cons {c : Char} (hc : c ≠ '-') (hc' : c ≠ '>') (a b : List Char) :
    hasArrow (a ++ c :: b) = (hasArrow a || hasArrow b) := by
  induction a with
  | nil =>
    rw [List.nil_append, hasArrow_cons, decide_eq_false hc, Bool.false_and, Bool.false_or]
    rfl
  | cons x a ih =>
    rw [List.cons_append, hasArrow_cons, hasArrow_cons, ih, Bool.or_assoc]
    cases a with
    | nil =>
      have hhead : ([] ++ c :: b).head? ≠ some '>' := fun h => hc' (Option.some.inj h)
      rw [decide_eq_false hhead]
      rfl
    | cons y a => rfl

theorem ne_of_isBlank {c : Char} (h : isBlank c = true) : c ≠ '-' ∧ c ≠ '>' := by
  constructor <;> rintro rfl <;> exact absurd h (by decide)

/-- Blanks in front of a text make no arrow. -/
theorem hasArrow_blanks_append {u : List Char} (hu : ∀ c ∈ u, isBlank c = true) (s : List Char) :
    hasArrow (u ++ s) = hasArrow s := by
  induction u with
  | nil => rfl
  | cons c u ih =>
    rw [List.forall_mem_cons] at hu
    rw [List.cons_append, hasArrow_cons, decide_eq_false (ne_of_isBlank hu.1).1, Bool.false_and,
      Bool.false_or, ih hu.2]

/-- Blanks behind a text make no arrow. -/
theorem hasArrow_append_blanks {v : List Char} (hv : ∀ c ∈ v, isBlank c = true) (s : List Char) :
    hasArrow (s ++ v) = hasArrow s := by
  cases v with
  | nil => rw [List.append_nil]
  | cons c v =>
    rw [List.forall_mem_cons] at hv
    obtain ⟨hdash, hhead⟩ := ne_of_isBlank hv.1
    have hblank : hasArrow v = false := by
      rw [← List.append_nil v, hasArrow_blanks_append hv.2]
      rfl
    rw [hasArrow_append_cons hdash hhead, hblank, Bool.or_false]

theorem cutArrow_eq_some_iff {s a b : List Char} :
    cutArrow s = some (a, b) ↔ s = a ++ '-' :: '>' :: b ∧ hasArrow a = false := by
  induction s generalizing a with
  | nil => simp [cutArrow]
  | cons c s ih =>
    by_cases h : c = '-' ∧ s.head? = some '>'
    · obtain ⟨rfl, hs⟩ := h
      obtain ⟨rest, rfl⟩ := List.head?_eq_some_iff.mp hs
      rw [cutArrow, Option.some.injEq, Prod.mk.injEq]
      constructor
      · rintro ⟨rfl, rfl⟩
        exact ⟨rfl, rfl⟩
      · rintro ⟨heq, harrow⟩
        cases a with
        | nil => simpa using heq
        | cons x a =>
          -- the first two characters are an arrow, which `a` cannot begin with
          rw [hasArrow_cons, Bool.or_eq_false_iff] at harrow
          cases a with
          | nil => simp at heq
          | cons y a =>
            simp only [List.cons_append, List.cons.injEq] at heq
            obtain ⟨rfl, rfl, -⟩ := heq
            simp at harrow
    · -- no arrow begins here, so both sides take the first character off
      rw [cutArrow.eq_3 _ _ (by rintro rest rfl rfl; exact h ⟨rfl, rfl⟩), Option.map_eq_some_iff]
      cases a with
      | nil =>
        simp only [Prod.mk.injEq, reduceCtorEq, false_and, and_false, exists_false,
          List.nil_append, List.cons.injEq, false_iff, not_and]
        rintro ⟨rfl, rfl⟩
        exact absurd ⟨rfl, rfl⟩ h
      | cons x a =>
        simp only [Prod.exists, Prod.mk.injEq, List.cons.injEq, List.cons_append]
        constructor
        · rintro ⟨a', b', hcut, ⟨rfl, rfl⟩, rfl⟩
          obtain ⟨rfl, harrow⟩ := ih.mp hcut
          refine ⟨⟨rfl, rfl⟩, ?_⟩
          rw [hasArrow_cons, harrow, Bool.or_false, ← Bool.decide_and, decide_eq_false_iff_not]
          rintro ⟨rfl, hhead⟩
          refine h ⟨rfl, ?_⟩
          rwa [List.head?_append_of_ne_nil]
          rintro rfl
          simp at hhead
        · rintro ⟨⟨rfl, heq⟩, harrow⟩
          rw [hasArrow_cons, Bool.or_eq_false_iff] at harrow
          exact ⟨a, b, ih.mpr ⟨heq, harrow.2⟩, ⟨rfl, rfl⟩, rfl⟩

theorem hasArrow_append_arrow (a b : List Char) : hasArrow (a ++ '-' :: '>' :: b) = true :=
  hasArrow_iff.mpr ⟨a, b, by simp⟩

/-- A text with an arrow has a first one. -/
theorem exists_eq_append_arrow {s : List Char} (h : hasArrow s = true) :
    ∃ a b, s = a ++ '-' :: '>' :: b ∧ hasArrow a = false := by
  obtain ⟨⟨a, b⟩, hcut⟩ := Option.isSome_iff_exists.mp h
  exact ⟨a, b, cutArrow_eq_some_iff.mp hcut⟩

/-- A text has no other cut than one with no arrow on either side of it. -/
theorem eq_of_append_arrow_eq {a b before after : List Char} (hbefore : hasArrow before = false)
    (hafter : hasArrow after = false)
    (h : before ++ '-' :: '>' :: after = a ++ '-' :: '>' :: b) : a = before ∧ b = after := by
  have hcut : cutArrow (before ++ '-' :: '>' :: after) = some (before, after) :=
    cutArrow_eq_some_iff.mpr ⟨rfl, hbefore⟩
  cases ha : hasArrow a with
  | false =>
    rw [h, cutArrow_eq_some_iff.mpr ⟨rfl, ha⟩, Option.some.injEq, Prod.mk.injEq] at hcut
    exact hcut
  | true =>
    -- the first arrow stands inside `a`, so the other one stands in `after`
    obtain ⟨x, y, rfl, hx⟩ := exists_eq_append_arrow ha
    have hcut' : cutArrow (x ++ '-' :: '>' :: y ++ '-' :: '>' :: b) =
        some (x, y ++ '-' :: '>' :: b) := cutArrow_eq_some_iff.mpr ⟨by simp, hx⟩
    rw [h, hcut', Option.some.injEq, Prod.mk.injEq] at hcut
    rw [← hcut.2, hasArrow_append_arrow] at hafter
    exact absurd hafter (by decide)

/-! ### Labels -/

theorem afterLabel_append (label rest : List Char) :
    afterLabel label (label ++ rest) = some rest := by
  rw [afterLabel, if_pos (List.isPrefixOf_iff_prefix.mpr (List.prefix_append _ _)),
    List.drop_left]

theorem afterLabel_eq_none_iff {label s : List Char} :
    afterLabel label s = none ↔ ¬ label <+: s := by
  unfold afterLabel
  rw [← List.isPrefixOf_iff_prefix]
  split <;> simp_all

theorem afterLabel_eq_some_iff {label s rest : List Char} :
    afterLabel label s = some rest ↔ s = label ++ rest := by
  constructor
  · intro h
    unfold afterLabel at h
    split at h
    · next hlabel =>
      rw [← Option.some.inj h]
      exact List.prefix_iff_eq_append.mp (List.isPrefixOf_iff_prefix.mp hlabel) |>.symm
    · exact nomatch h
  · rintro rfl
    exact afterLabel_append label rest

end AutomatonKit.Text
