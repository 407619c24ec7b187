import CommandManual.Proofs.Text.Lines

/-!
# Tidying a document

Tidying takes blank lines out of a document and blanks off its ends. Lines of a kind that is never
blank are all kept, in their order. Where newlines are dropped the line that is being written is
empty, so that the induction over the text keeps two things at once: the lines of the kind, and, as
long as no newline has gone before, the whole first line.

## Main definitions

* `Prose.isFirm`: is the line not empty, without a space at its end?

## Main results

* `Prose.filter_lines_squeeze`: lines of a kind that is not empty are kept where newlines are
  dropped.
* `Prose.filter_lines_tidy`: a document that is tidied keeps the lines of a kind.
* `Prose.sublist_lines_tidy`: it keeps its firm lines, whatever the others are.
-/

namespace CommandManual

namespace Prose

open Text

variable {p : Text → Bool} {t : Text}

/-- **Where newlines are dropped, lines that are not empty are kept.** In front of the first newline
nothing is changed at all. -/
theorem filter_lines_squeezeFrom (hnil : p [] = false) (t : Text) :
    (∀ run, (lines (squeezeFrom run t)).filter p = (lines t).filter p) ∧
      ∃ l ms ns, lines (squeezeFrom 0 t) = l :: ms ∧ lines t = l :: ns ∧
        ms.filter p = ns.filter p := by
  have hdrop (ls : List Text) : ([] :: ls).filter p = ls.filter p :=
    List.filter_cons_of_neg (by simp [hnil])
  induction t with
  | nil => exact ⟨fun _ => rfl, [], [], [], rfl, rfl, rfl⟩
  | cons c t ih =>
    obtain ⟨hrun, l, ms, ns, hms, hns, hsame⟩ := ih
    by_cases hc : c = '\n'
    · subst hc
      refine ⟨fun run => ?_, [], lines (squeezeFrom 1 t), lines t, ?_, lines_newline_cons t, hrun 1⟩
      · rw [squeezeFrom, if_pos rfl, lines_newline_cons, hdrop]
        split
        · rw [lines_newline_cons, hdrop, hrun]
        · rw [hrun]
      · rw [squeezeFrom, if_pos rfl, if_pos (by decide), lines_newline_cons]
    · have hleft (run : Nat) : lines (squeezeFrom run (c :: t)) = (c :: l) :: ms := by
        rw [squeezeFrom, if_neg hc, lines_cons, hms, attach, if_neg hc]
      have hright : lines (c :: t) = (c :: l) :: ns := by rw [lines_cons, hns, attach, if_neg hc]
      refine ⟨fun run => ?_, c :: l, ms, ns, hleft 0, hright, hsame⟩
      rw [hleft, hright, List.filter_cons, List.filter_cons, hsame]

theorem filter_lines_squeeze (hnil : p [] = false) (t : Text) :
    (lines (squeeze t)).filter p = (lines t).filter p :=
  (filter_lines_squeezeFrom hnil t).1 0

/-- Blanks at the end are taken off without harm to lines that do not end in a space. A line that
does is none of the kind, and neither is what is left of it. -/
theorem filter_lines_append_blanks (hnil : p [] = false) (hp : ∀ l, p l → p (l ++ [' ']))
    {blanks : Text} (hblanks : ∀ c ∈ blanks, c = ' ' ∨ c = '\n')
    (hend : ∀ l ∈ (lines (t ++ blanks)).filter p, l.getLast? ≠ some ' ') :
    (lines (t ++ blanks)).filter p = (lines t).filter p := by
  induction blanks generalizing t with
  | nil => rw [List.append_nil]
  | cons c blanks ih =>
    have happend : t ++ c :: blanks = t ++ [c] ++ blanks := by simp
    rw [happend] at hend ⊢
    have hrest := ih (fun d hd => hblanks d (List.mem_cons_of_mem c hd)) hend
    rw [hrest] at hend ⊢
    rcases hblanks c (List.mem_cons_self ..) with rfl | rfl
    · obtain ⟨ls, l, hl⟩ := List.eq_nil_or_concat (lines t) |>.resolve_left (lines_ne_nil t)
      rw [List.concat_eq_append] at hl
      rw [lines_append_singleton hl (by decide), List.filter_append] at hend
      have hlast : p (l ++ [' ']) = false := by
        refine Bool.eq_false_iff.2 fun h => hend (l ++ [' ']) ?_ List.getLast?_concat
        exact List.mem_append_right _ (List.mem_filter.2 ⟨List.mem_singleton_self _, h⟩)
      have hl' : p l = false := Bool.eq_false_iff.2 fun h => Bool.eq_false_iff.1 hlast (hp l h)
      rw [lines_append_singleton hl (by decide), hl, List.filter_append, List.filter_append,
        List.filter_cons_of_neg (by simp [hlast]), List.filter_cons_of_neg (by simp [hl'])]
    · rw [lines_append_newline, lines_nil, List.filter_append,
        List.filter_cons_of_neg (by simp [hnil]), List.filter_nil, List.append_nil]

/-- A document that begins with something loses blanks at its end when it is tidied, and newlines.
-/
theorem exists_tidy_eq {c : Char} (hc : c ≠ ' ') (hc' : c ≠ '\n') (t : Text) : ∃ kept blanks,
    tidy (c :: t) = kept ++ ['\n'] ∧ kept ++ blanks = squeeze (c :: t) ∧
      ∀ d ∈ blanks, d = ' ' ∨ d = '\n' := by
  obtain ⟨blanks, htext, hblanks⟩ :=
    exists_append_trimEnd (fun c => c = ' ' || c = '\n') (squeeze (c :: t))
  have hstart : trimStart (fun c => c = ' ' || c = '\n') (squeeze (c :: t)) = squeeze (c :: t) := by
    rw [squeeze, squeezeFrom, if_neg hc', trimStart, List.dropWhile_cons_of_neg (by simp [hc, hc'])]
  refine ⟨_, blanks, ?_, htext, by simpa using hblanks⟩
  rw [tidy, trim, hstart]

/-- **A document that is tidied keeps the lines of a kind**, if it begins with something and no line
of the kind is empty or ends in a space. -/
theorem filter_lines_tidy (hnil : p [] = false) (hp : ∀ l, p l → p (l ++ [' '])) {c : Char}
    (hc : c ≠ ' ') (hc' : c ≠ '\n')
    (hend : ∀ l ∈ (lines (c :: t)).filter p, l.getLast? ≠ some ' ') :
    (lines (tidy (c :: t))).filter p = (lines (c :: t)).filter p := by
  rw [← filter_lines_squeeze hnil (c :: t)] at hend ⊢
  obtain ⟨kept, blanks, htidy, htext, hblanks⟩ := exists_tidy_eq hc hc' t
  rw [← htext] at hend ⊢
  rw [htidy, lines_append_newline, lines_nil, List.filter_append,
    List.filter_cons_of_neg (by simp [hnil]), List.filter_nil, List.append_nil,
    filter_lines_append_blanks hnil hp hblanks hend]

/-- Whatever the other lines are, blanks at the end are taken off without harm to lines that do not
end in a space. -/
theorem filter_lines_append_blanks_sublist (hnil : p [] = false)
    (hend : ∀ l, p (l ++ [' ']) = false) {blanks : Text}
    (hblanks : ∀ c ∈ blanks, c = ' ' ∨ c = '\n') (t : Text) :
    ((lines (t ++ blanks)).filter p).Sublist ((lines t).filter p) := by
  induction blanks generalizing t with
  | nil =>
    have hsame : t ++ [] = t := List.append_nil t
    exact hsame.symm ▸ .refl _
  | cons c blanks ih =>
    have hrest := ih (fun d hd => hblanks d (List.mem_cons_of_mem c hd)) (t ++ [c])
    rw [List.append_assoc, List.singleton_append] at hrest
    refine hrest.trans ?_
    rcases hblanks c (List.mem_cons_self ..) with rfl | rfl
    · obtain ⟨ls, l, hl⟩ := List.eq_nil_or_concat (lines t) |>.resolve_left (lines_ne_nil t)
      rw [List.concat_eq_append] at hl
      rw [lines_append_singleton hl (by decide), hl, List.filter_append, List.filter_append,
        List.filter_cons_of_neg (by simp [hend]), List.filter_nil]
      exact .append (.refl _) (List.nil_sublist _)
    · have hsame : (lines (t ++ ['\n'])).filter p = (lines t).filter p := by
        rw [lines_append_newline, lines_nil, List.filter_append,
          List.filter_cons_of_neg (by simp [hnil]), List.filter_nil, List.append_nil]
      exact hsame ▸ .refl _

/-- A line that is not empty and does not end in a space. -/
def isFirm (l : Text) : Bool := !l.isEmpty && l.getLast? != some ' '

/-- **A document that is tidied keeps its lines** but for the empty ones and those that end in a
space, if it begins with something. -/
theorem filter_lines_sublist_lines_tidy (hnil : p [] = false) (hend : ∀ l, p (l ++ [' ']) = false)
    {c : Char} (hc : c ≠ ' ') (hc' : c ≠ '\n') (t : Text) :
    ((lines (c :: t)).filter p).Sublist (lines (tidy (c :: t))) := by
  obtain ⟨kept, blanks, htidy, htext, hblanks⟩ := exists_tidy_eq hc hc' t
  have hkept := filter_lines_append_blanks_sublist hnil hend hblanks kept
  rw [htext, filter_lines_squeeze hnil] at hkept
  rw [htidy, lines_append_newline]
  exact (hkept.trans List.filter_sublist).trans (List.sublist_append_left _ _)

/-- Firm lines of a document are lines of it when it is tidied. -/
theorem sublist_lines_tidy {ls : List Text} (hfirm : ∀ l ∈ ls, isFirm l = true) {c : Char}
    (hc : c ≠ ' ') (hc' : c ≠ '\n') (h : ls.Sublist (lines (c :: t))) :
    ls.Sublist (lines (tidy (c :: t))) := by
  have hspace (l : Text) : isFirm (l ++ [' ']) = false := by simp [isFirm]
  have hkept := h.filter isFirm
  rw [List.filter_eq_self.2 hfirm] at hkept
  exact hkept.trans (filter_lines_sublist_lines_tidy rfl hspace hc hc' t)

end Prose

end CommandManual
