import CommandManual.Proofs.Text.Parts
import CommandManual.Prose

/-!
# Texts that are put together of lines

A document is put together of pieces, most of which consist of whole lines. `HasLines` names the
lines of such a piece; pieces are joined as their lines are, so that the lines of a document are
found piece by piece and not by looking for its newlines.

## Main definitions

* `Text.HasLines`: a text that consists of given lines.

## Main results

* `Text.HasLines.append`: the lines of two pieces.
* `Text.HasLines.lines_eq`: these are the lines of the text, with the empty one behind its end.
* `Text.lines_append_singleton`: a character behind a text belongs to its last line.
* `Text.exists_lines_trimNewlines`: newlines around a text are empty lines at its ends.
* `Text.normalizeReturns_append`: where line ends are unified part by part.
-/

namespace CommandManual

namespace Text

/-- The text consists of these lines, each of them ended. -/
structure HasLines (t : Text) (ls : List Text) : Prop where
  eq_terminated : t = terminated ls
  newline_notMem : ∀ l ∈ ls, '\n' ∉ l

namespace HasLines

variable {s t l : Text} {ls ms : List Text}

theorem nil : HasLines [] [] := ⟨rfl, fun _ h => absurd h List.not_mem_nil⟩

theorem append (hs : HasLines s ls) (ht : HasLines t ms) : HasLines (s ++ t) (ls ++ ms) := by
  refine ⟨by rw [hs.eq_terminated, ht.eq_terminated, terminated_append], fun l hl => ?_⟩
  rcases List.mem_append.1 hl with hl | hl
  · exact hs.newline_notMem l hl
  · exact ht.newline_notMem l hl

theorem flatMap {α : Type} {xs : List α} {f : α → Text} {g : α → List Text}
    (h : ∀ x ∈ xs, HasLines (f x) (g x)) : HasLines (xs.flatMap f) (xs.flatMap g) := by
  induction xs with
  | nil => exact nil
  | cons x xs ih =>
    rw [List.flatMap_cons, List.flatMap_cons]
    exact (h x (List.mem_cons_self ..)).append (ih fun y hy => h y (List.mem_cons_of_mem x hy))

theorem line (hl : '\n' ∉ l) (h : HasLines t ls) : HasLines (l ++ '\n' :: t) (l :: ls) := by
  refine ⟨by rw [terminated_cons, h.eq_terminated], fun k hk => ?_⟩
  rcases List.mem_cons.1 hk with rfl | hk
  · exact hl
  · exact h.newline_notMem k hk

/-- A newline alone ends an empty line. -/
theorem newline_cons (h : HasLines t ls) : HasLines ('\n' :: t) ([] :: ls) :=
  h.line List.not_mem_nil

theorem of_terminated (h : ∀ l ∈ ls, '\n' ∉ l) : HasLines (terminated ls) ls := ⟨rfl, h⟩

/-- A text that is ended consists of its lines. -/
theorem append_newline (t : Text) : HasLines (t ++ ['\n']) (lines t) :=
  ⟨(terminated_lines t).symm, fun _ => newline_notMem_of_mem_lines⟩

/-- The lines of a text of whole lines; behind the last newline there is an empty one. -/
theorem lines_eq (h : HasLines t ls) : lines t = ls ++ [[]] := by
  have hlines := lines_terminated_append h.newline_notMem []
  rwa [List.append_nil, ← h.eq_terminated, lines_nil] at hlines

end HasLines

/-- The first line of a text is its beginning. -/
theorem isPrefix_of_lines {t k : Text} {ks : List Text} (h : lines t = k :: ks) : k <+: t := by
  rw [← unlines_lines t, h]
  cases ks with
  | nil => simp only [unlines_singleton, List.prefix_rfl]
  | cons m ms => simp only [unlines_cons_cons, List.prefix_append]

/-- The last line of a text is what stands behind its other lines. -/
theorem eq_terminated_append_of_lines {t l : Text} {ls : List Text} (h : lines t = ls ++ [l]) :
    t = terminated ls ++ l := by
  rw [← unlines_lines t, h, ← terminated_append_unlines ls (List.cons_ne_nil l []),
    unlines_singleton]

/-- The last line of a text and the first line of another one become one line. -/
theorem exists_lines_append (s t : Text) : ∃ ls l k ks,
    lines s = ls ++ [l] ∧ lines t = k :: ks ∧ lines (s ++ t) = ls ++ (l ++ k) :: ks := by
  obtain ⟨ls, l, hs⟩ := List.eq_nil_or_concat (lines s) |>.resolve_left (lines_ne_nil s)
  rw [List.concat_eq_append] at hs
  obtain ⟨k, ks, ht⟩ := List.exists_cons_of_ne_nil (lines_ne_nil t)
  have hplain (m : Text) (hm : m ∈ ls ++ [l]) : '\n' ∉ m := newline_notMem_of_mem_lines (hs ▸ hm)
  refine ⟨ls, l, k, ks, hs, ht, ?_⟩
  rw [eq_terminated_append_of_lines hs, List.append_assoc,
    lines_terminated_append fun m hm => hplain m (List.mem_append_left _ hm),
    lines_append_of_notMem (hplain l (by simp)) ht]

/-- A character behind a text belongs to its last line. -/
theorem lines_append_singleton {t l : Text} {ls : List Text} (h : lines t = ls ++ [l]) {c : Char}
    (hc : c ≠ '\n') : lines (t ++ [c]) = ls ++ [l ++ [c]] := by
  obtain ⟨ms, m, k, ks, ht, hk, happend⟩ := exists_lines_append t [c]
  obtain ⟨rfl, hm⟩ := List.append_inj' (h.symm.trans ht) rfl
  rw [lines_of_notMem (by simpa using hc.symm)] at hk
  obtain ⟨rfl, rfl⟩ := List.cons.inj hk
  rw [happend, (List.cons.inj hm).1]

/-! ### Newlines at the ends of a text -/

/-- Newlines in front of a text are empty lines. -/
theorem exists_lines_append_left {s : Text} (h : ∀ c ∈ s, c = '\n') (t : Text) :
    ∃ js, lines (s ++ t) = js ++ lines t ∧ ∀ j ∈ js, j = [] := by
  induction s with
  | nil => exact ⟨[], rfl, by simp⟩
  | cons c s ih =>
    obtain rfl := h c (List.mem_cons_self ..)
    obtain ⟨js, hjs, hempty⟩ := ih fun d hd => h d (List.mem_cons_of_mem _ hd)
    exact ⟨[] :: js, by rw [List.cons_append, lines_newline_cons, hjs, List.cons_append],
      by simpa using hempty⟩

/-- Newlines behind a text are empty lines. -/
theorem exists_lines_append_right {s : Text} (h : ∀ c ∈ s, c = '\n') (t : Text) :
    ∃ ks, lines (t ++ s) = lines t ++ ks ∧ ∀ k ∈ ks, k = [] := by
  cases s with
  | nil => exact ⟨[], by simp⟩
  | cons c s =>
    obtain rfl := h c (List.mem_cons_self ..)
    obtain ⟨js, hjs, hempty⟩ := exists_lines_append_left
      (fun d hd => h d (List.mem_cons_of_mem _ hd)) []
    rw [List.append_nil] at hjs
    refine ⟨lines s, lines_append_newline t s, ?_⟩
    rw [hjs]
    simpa [or_imp, forall_and] using hempty

/-- The lines of a text without the newlines around it: empty lines are left out at both ends. -/
theorem exists_lines_trimNewlines (t : Text) :
    ∃ js ks, lines t = js ++ lines (Prose.trimNewlines t) ++ ks ∧
      (∀ j ∈ js, j = []) ∧ ∀ k ∈ ks, k = [] := by
  obtain ⟨tail, htail, hend⟩ := exists_append_trimEnd (· = '\n') (trimStart (· = '\n') t)
  have hfront : ∀ c ∈ t.takeWhile (· = '\n'), c = '\n' := fun c hc =>
    of_decide_eq_true (List.mem_takeWhile_imp (p := fun c => decide (c = '\n')) hc)
  obtain ⟨js, hjs, hjsEmpty⟩ := exists_lines_append_left hfront (t.dropWhile (· = '\n'))
  obtain ⟨ks, hks, hksEmpty⟩ := exists_lines_append_right
    (fun c hc => of_decide_eq_true (hend c hc)) (Prose.trimNewlines t)
  refine ⟨js, ks, ?_, hjsEmpty, hksEmpty⟩
  rw [List.takeWhile_append_dropWhile] at hjs
  rw [hjs, List.append_assoc, ← hks]
  exact congrArg (js ++ lines ·) htail.symm

/-! ### Line ends with a carriage return -/

theorem withoutReturn_append_singleton (t : Text) (c : Char) :
    withoutReturn (t ++ [c]) = if c = '\r' then t else t ++ [c] := by
  simp [withoutReturn]

/-- A carriage return at the end of a text belongs to its last part. -/
theorem withoutReturn_append {s : Text} (h : s.getLast? ≠ some '\r') (t : Text) :
    withoutReturn (s ++ t) = s ++ withoutReturn t := by
  rcases List.eq_nil_or_concat t with rfl | ⟨t, c, rfl⟩
  · rw [List.append_nil, withoutReturn, if_neg h]
    exact (List.append_nil s).symm
  · rw [List.concat_eq_append, ← List.append_assoc, withoutReturn_append_singleton,
      withoutReturn_append_singleton]
    split <;> simp

theorem withoutReturn_cons (c : Char) {t : Text} (h : t ≠ []) :
    withoutReturn (c :: t) = c :: withoutReturn t := by
  rw [withoutReturn, withoutReturn, List.getLast?_cons_of_ne_nil h]
  split
  · rw [List.dropLast_cons_of_ne_nil h]
  · rfl

theorem normalizeReturns_cons {c : Char} {t : Text} (h : c ≠ '\r' ∨ t.head? ≠ some '\n') :
    normalizeReturns (c :: t) = c :: normalizeReturns t := by
  rw [normalizeReturns]
  rintro u rfl rfl
  exact h.elim (· rfl) (· rfl)

theorem normalizeReturns_of_notMem {l : Text} (h : '\n' ∉ l) : normalizeReturns l = l := by
  induction l with
  | nil => rfl
  | cons c l ih =>
    have hhead : l.head? ≠ some '\n' := fun hl =>
      List.not_mem_of_not_mem_cons h (List.mem_of_mem_head? hl)
    rw [normalizeReturns_cons (.inr hhead), ih (List.not_mem_of_not_mem_cons h)]

/-- A line is ended without the carriage return in front of its end. -/
theorem normalizeReturns_append_newline {l : Text} (h : '\n' ∉ l) (t : Text) :
    normalizeReturns (l ++ '\n' :: t) = withoutReturn l ++ '\n' :: normalizeReturns t := by
  induction l with
  | nil => exact normalizeReturns_cons (.inl (by decide))
  | cons c l ih =>
    have ih := ih (List.not_mem_of_not_mem_cons h)
    cases l with
    | nil =>
      by_cases hc : c = '\r'
      · subst hc
        rfl
      · have hkept : withoutReturn [c] = [c] := by simp [withoutReturn, hc]
        rw [List.cons_append, normalizeReturns_cons (.inl hc), ih, hkept]
        rfl
    | cons d l =>
      have hd : d ≠ '\n' := fun hd => h (hd ▸ by simp)
      rw [List.cons_append, normalizeReturns_cons (.inr (by simpa using hd)), ih,
        withoutReturn_cons c (List.cons_ne_nil d l), List.cons_append]

/-- The lines of a text once the line ends are newlines: every line but the last one is ended, and
may lose a carriage return. -/
theorem lines_normalizeReturns_of_lines {t l : Text} {ls : List Text} (h : lines t = ls ++ [l]) :
    lines (normalizeReturns t) = ls.map withoutReturn ++ [l] := by
  have hplain : ∀ k ∈ ls ++ [l], '\n' ∉ k := fun k hk => newline_notMem_of_mem_lines (h ▸ hk)
  rw [eq_terminated_append_of_lines h]
  clear h
  induction ls with
  | nil =>
    have hl := hplain l (List.mem_singleton_self l)
    rw [terminated_nil, List.nil_append, normalizeReturns_of_notMem hl, lines_of_notMem hl]
    rfl
  | cons k ls ih =>
    have hk := hplain k (List.mem_cons_self ..)
    have hls := ih fun m hm => hplain m (List.mem_cons_of_mem k hm)
    have hshort : '\n' ∉ withoutReturn k := by
      rw [withoutReturn]
      split
      · exact fun hmem => hk (List.dropLast_subset k hmem)
      · exact hk
    rw [terminated_cons, List.append_assoc, List.cons_append, normalizeReturns_append_newline hk,
      lines_append_newline, lines_of_notMem hshort, hls, List.map_cons, List.singleton_append,
      List.cons_append]

/-- The lines of a text of whole lines once the line ends are newlines. -/
theorem HasLines.lines_normalizeReturns {t : Text} {ls : List Text} (h : HasLines t ls) :
    lines (normalizeReturns t) = ls.map withoutReturn ++ [[]] :=
  lines_normalizeReturns_of_lines h.lines_eq

/-- Line ends are unified on either side of a place that is not inside one. -/
theorem normalizeReturns_append {s : Text} (h : s.getLast? ≠ some '\r') (t : Text) :
    normalizeReturns (s ++ t) = normalizeReturns s ++ normalizeReturns t := by
  fun_induction normalizeReturns s with
  | case1 s ih =>
    have hs : s.getLast? ≠ some '\r' := by
      cases s with
      | nil => simp
      | cons c s => simpa [List.getLast?_cons_cons] using h
    rw [List.cons_append, List.cons_append, normalizeReturns, ih hs, List.cons_append]
  | case2 c s hc ih =>
    cases s with
    | nil =>
      have hc : c ≠ '\r' := by simpa using h
      rw [List.singleton_append, normalizeReturns_cons (.inl hc)]
      rfl
    | cons d s =>
      have hd : c ≠ '\r' ∨ d ≠ '\n' := by
        by_cases hcr : c = '\r'
        · exact .inr fun hd => hc s hcr (by rw [hd])
        · exact .inl hcr
      rw [List.cons_append, normalizeReturns_cons (hd.imp_right (by simpa using ·)),
        ih (by simpa [List.getLast?_cons_cons] using h), List.cons_append]
  | case3 => rfl

/-! ### Lines of which parts are put together -/

theorem newline_notMem_intercalate {sep : Text} (hsep : '\n' ∉ sep) {ts : List Text}
    (h : ∀ t ∈ ts, '\n' ∉ t) : '\n' ∉ sep.intercalate ts := by
  induction ts with
  | nil => exact List.not_mem_nil
  | cons t ts ih =>
    have ht := h t (List.mem_cons_self ..)
    have hts := ih fun u hu => h u (List.mem_cons_of_mem t hu)
    cases ts with
    | nil => simpa using ht
    | cons u us =>
      rw [List.intercalate_cons_cons, List.mem_append, List.mem_append]
      rintro ((hmem | hmem) | hmem)
      · exact ht hmem
      · exact hsep hmem
      · exact hts hmem

theorem newline_notMem_commaList {ts : List Text} (h : ∀ t ∈ ts, '\n' ∉ t) :
    '\n' ∉ commaList ts :=
  newline_notMem_intercalate (by decide) h

theorem exists_commaList_cons (t : Text) (ts : List Text) : ∃ u, commaList (t :: ts) = t ++ u := by
  rw [commaList]
  cases ts with
  | nil => exact ⟨[], by simp⟩
  | cons u us =>
    rw [List.intercalate_cons_cons, List.append_assoc]
    exact ⟨_, rfl⟩

theorem newline_notMem_oneLine (t : Text) : '\n' ∉ Prose.oneLine t := by
  intro h
  obtain ⟨c, -, hc⟩ := List.mem_flatMap.1 (strip_subset _ h)
  split at hc
  · exact absurd hc (by decide)
  · next hne => exact hne (List.mem_singleton.1 hc).symm

theorem newline_notMem_cell (t : Text) : '\n' ∉ Prose.cell t := fun h =>
  newline_notMem_oneLine t (trimEnd_subset _ _ h)

end Text

end CommandManual
