import CommandManual.Proofs.Roff.Headings
import CommandManual.Proofs.Roff.Joined
import Mathlib.Data.List.DropRight

/-!
# Usage texts on a page

A usage text is written for a terminal, and may hold anything: fences that are never closed, lines
that begin like headings, quotations or bullet items, full stops in front, both spellings of a line
end. It is put into a document indented or quoted, so that converting the document sets it as it
was written (`convert_usageBlock`): several lines as one literal block, a single line as a
quotation. No text turns into the structure of the page, and none makes the conversion fail.

## Main definitions

* `Roff.withoutBlankEnds`: lines without the blank ones at either end.
* `Roff.usageLines`: the lines of a page that a usage text is set in.

## Main results

* `Roff.exists_blocks_indented`: indented lines are one literal block.
* `Roff.convert_usageBlock`: the page of a title and a usage text.
-/

namespace CommandManual

namespace Roff

/-! ### Blank lines at the ends -/

/-- Lines without the blank ones at either end. -/
def withoutBlankEnds (ls : List Text) : List Text :=
  (ls.dropWhile Text.isBlankText).rdropWhile Text.isBlankText

section BlankEnds

variable {ks : List Text}

theorem withoutBlankEnds_append_left (h : ∀ k ∈ ks, k.isBlankText = true) (ls : List Text) :
    withoutBlankEnds (ks ++ ls) = withoutBlankEnds ls := by
  rw [withoutBlankEnds, List.dropWhile_append_of_pos h, withoutBlankEnds]

theorem withoutBlankEnds_append_right (h : ∀ k ∈ ks, k.isBlankText = true) (ls : List Text) :
    withoutBlankEnds (ls ++ ks) = withoutBlankEnds ls := by
  rw [withoutBlankEnds, List.dropWhile_append, withoutBlankEnds]
  split
  · next hall => rw [List.isEmpty_iff.1 hall, List.dropWhile_eq_nil_iff.2 h]
  · rw [List.rdropWhile, List.reverse_append,
      List.dropWhile_append_of_pos fun k hk => h k (List.mem_reverse.1 hk), List.rdropWhile]

/-- The newlines around a text are nothing but blank lines at its ends. -/
theorem withoutBlankEnds_lines_trimNewlines (t : Text) :
    withoutBlankEnds ((Text.lines (Prose.trimNewlines t)).map Text.withoutReturn) =
      withoutBlankEnds ((Text.lines t).map Text.withoutReturn) := by
  have hblank {ls : List Text} (h : ∀ l ∈ ls, l = []) :
      ∀ l ∈ ls.map Text.withoutReturn, Text.isBlankText l = true := by
    intro l hl
    obtain ⟨k, hk, rfl⟩ := List.mem_map.1 hl
    rw [h k hk]
    rfl
  obtain ⟨js, ks, hlines, hjs, hks⟩ := Text.exists_lines_trimNewlines t
  rw [hlines, List.map_append, List.map_append, withoutBlankEnds_append_right (hblank hks),
    withoutBlankEnds_append_left (hblank hjs)]

end BlankEnds

/-! ### Literal lines -/

/-- Lines that are set as they are, if there are any. -/
def literalLines : List Text → List Text
  | [] => []
  | ls => ".EX".toList :: ls.map escape ++ [".EE".toList]

theorem codeLines_map_append (ls : List Text) :
    Markdown.codeLines (ls.map (Markdown.codeIndent ++ ·)) = ls.rdropWhile Text.isBlankText := by
  have hdrop : ls.map ((·.drop Markdown.codeIndent.length) ∘ (Markdown.codeIndent ++ ·)) = ls :=
    List.map_id ls
  rw [Markdown.codeLines, List.map_map, hdrop, List.rdropWhile]

/-- Indented lines make up one literal block, if they are not all blank. -/
theorem exists_blocks_indented (ls : List Text) (n : Nat) :
    ∃ bs, Markdown.blocks n (ls.map (Markdown.codeIndent ++ ·) ++ [[]]) = .ok bs ∧
      bs.flatMap blockLines = literalLines (withoutBlankEnds ls) := by
  have hcontinues : ∀ l ∈ ls.map (Markdown.codeIndent ++ ·) ++ [[]],
      Markdown.continuesCode l = true := by
    intro l hl
    rcases List.mem_append.1 hl with hl | hl
    · obtain ⟨k, -, rfl⟩ := List.mem_map.1 hl
      rfl
    · obtain rfl := List.mem_singleton.1 hl
      rfl
  have hblank : Text.isBlankText ∘ (Markdown.codeIndent ++ ·) = Text.isBlankText := by
    funext k
    exact List.all_append
  refine ⟨_, Markdown.blocks_of_continuesCode hcontinues n, ?_⟩
  rw [withoutBlankEnds, List.dropWhile_append, List.dropWhile_map, hblank]
  cases hrest : ls.dropWhile Text.isBlankText with
  | nil => rfl
  | cons k ks =>
    have hk : Text.isBlankText k = false := by
      have hhead := List.head_dropWhile_not Text.isBlankText (hrest ▸ List.cons_ne_nil k ks)
      simpa only [hrest, List.head_cons] using hhead
    obtain ⟨m, ms, hms⟩ : ∃ m ms, (k :: ks).rdropWhile Text.isBlankText = m :: ms := by
      refine List.exists_cons_of_ne_nil fun hnil => ?_
      have hall := List.rdropWhile_eq_nil_iff.1 hnil k (List.mem_cons_self ..)
      simp [hk] at hall
    rw [if_neg (by simp)]
    change blockLines (.code (Markdown.codeLines
      ((k :: ks).map (Markdown.codeIndent ++ ·) ++ [[]]))) ++ [] = _
    rw [Markdown.codeLines_append (by simp; rfl), codeLines_map_append, hms, List.append_nil]
    rfl

/-! ### Usage texts -/

/-- The lines of a page that a usage text is set in: nothing for no text, a literal block for
several lines, and a quotation for a single one. -/
def usageLines (u : Text) : List Text :=
  if u.isEmpty then []
  else if '\n' ∈ Prose.trimNewlines u then
    literalLines (withoutBlankEnds ((Text.lines u).map Text.withoutReturn))
  else [".PP".toList, ".RS".toList, inline (Text.strip (Prose.trimNewlines u)), ".RE".toList]

/-- An indented text, once the line ends are newlines. -/
theorem lines_normalizeReturns_indentBlock {t : Text} (hne : t ≠ []) :
    Text.lines (Text.normalizeReturns (Prose.indentBlock Prose.blockIndent t)) =
      ((Text.lines t).map Text.withoutReturn).map (Markdown.codeIndent ++ ·) ++ [[]] := by
  have hindented : Text.HasLines (Prose.indentBlock Prose.blockIndent t)
      ((Text.lines t).map (Markdown.codeIndent ++ ·)) := by
    rw [Prose.indentBlock, if_neg (by simpa using hne)]
    refine .of_terminated fun l hl => ?_
    obtain ⟨k, hk, rfl⟩ := List.mem_map.1 hl
    simpa [Markdown.codeIndent] using Text.newline_notMem_of_mem_lines hk
  have hreturns : Text.withoutReturn ∘ (Markdown.codeIndent ++ ·) =
      (Markdown.codeIndent ++ ·) ∘ Text.withoutReturn :=
    funext fun k => Text.withoutReturn_append (by decide) k
  rw [hindented.lines_normalizeReturns, List.map_map, hreturns, List.map_map]

/-- A quoted line, once the line ends are newlines. -/
theorem lines_normalizeReturns_quoted {l : Text} (h : '\n' ∉ l) :
    Text.lines (Text.normalizeReturns ('>' :: l ++ ['\n'])) =
      ['>' :: Text.withoutReturn l, []] := by
  have hlines : Text.HasLines ('>' :: l ++ ['\n']) ['>' :: l] :=
    .line (by simpa using h) .nil
  have hreturn : Text.withoutReturn ('>' :: l) = '>' :: Text.withoutReturn l :=
    Text.withoutReturn_append (s := ['>']) (by decide) l
  rw [hlines.lines_normalizeReturns, List.map_singleton, hreturn, List.singleton_append]

theorem strip_withoutReturn (t : Text) : Text.strip (Text.withoutReturn t) = Text.strip t := by
  rcases Markdown.withoutReturn_eq t with h | ⟨u, rfl, h⟩
  · rw [h]
  · rw [h, Text.strip_append_singleton (by decide)]

/-- A usage text is cut into a literal block or a quotation, whatever it says. -/
theorem exists_blocks_usageBlock (u : Text) (n : Nat) :
    ∃ bs, Markdown.blocks n
        (Text.lines (Text.normalizeReturns (Prose.usageBlock Prose.blockIndent u))) = .ok bs ∧
      bs.flatMap blockLines = usageLines u := by
  unfold Prose.usageBlock usageLines
  split
  · refine ⟨[], ?_, rfl⟩
    rw [Text.normalizeReturns, Text.lines_nil, Markdown.blocks_cons_of_isBlankText rfl,
      Markdown.blocks]
  · simp only [List.contains_iff_mem]
    split
    · next hmem =>
      rw [lines_normalizeReturns_indentBlock (List.ne_nil_of_mem hmem),
        ← withoutBlankEnds_lines_trimNewlines]
      exact exists_blocks_indented _ n
    · next hmem =>
      refine ⟨[.quote [Text.strip (Prose.trimNewlines u)]], ?_, rfl⟩
      rw [lines_normalizeReturns_quoted hmem, Markdown.blocks_cons_of_isQuoted rfl,
        List.takeWhile_cons_of_neg (by decide), List.dropWhile_cons_of_neg (by decide),
        Markdown.blocks_cons_of_isBlankText rfl, Markdown.blocks, ← strip_withoutReturn]
      rfl

/-- **A usage text survives its conversion.** Behind a title line the page has the two lines of the
title and the lines of the usage text, whatever it says. -/
theorem convert_usageBlock {name : Text} (hne : name ≠ []) (hword : ∀ c ∈ name, isBlank c = false)
    (u : Text) :
    ∃ p, convert ("% ".toList ++ name ++ " 1\n\n".toList ++
        Prose.usageBlock Prose.blockIndent u) = .ok p ∧
      Text.lines p.text = titleLines ⟨name, ['1']⟩ ++ usageLines u ++ [[]] := by
  have hmanual : ['1'] ≠ [] := List.cons_ne_nil '1' []
  have hmanualInk : ∀ c ∈ ['1'], isBlank c = false := Text.forall_mem_of_all (by decide)
  have htitle := titleOfLine hne hmanual hword hmanualInk
  have hsplit : "% ".toList ++ name ++ " 1\n\n".toList ++ Prose.usageBlock Prose.blockIndent u =
      "% ".toList ++ name ++ ' ' :: ['1'] ++ "\n\n".toList ++
        Prose.usageBlock Prose.blockIndent u := by simp
  obtain ⟨bs, hbs, hlines⟩ := exists_blocks_usageBlock u 3
  have hconvert := convert_of_title htitle (newline_notMem_titleLine hword hmanualInk)
    (getLast?_titleLine_ne hmanual hmanualInk name) (Prose.usageBlock Prose.blockIndent u)
  rw [← hsplit, hbs] at hconvert
  refine ⟨_, hconvert, ?_⟩
  rw [lines_text_of_convert hconvert, ← hlines]

/-- A text with an open fence, lines that begin like a heading and a request, blank lines at both
ends and inside, and carriage returns. -/
theorem convert_usageBlock_of_openFence :
    ∃ p, convert ("% x 1\n\n".toList ++ Prose.usageBlock Prose.blockIndent
        "\n \r\n\x60\x60\x60sh\r\n# a\n\n.so b\r\r\n- \\c\r\n\t\n".toList) = .ok p ∧
      Text.lines p.text = [".nh".toList, ".TH x 1".toList, ".EX".toList, "\x60\x60\x60sh".toList,
        "# a".toList, [], "\\&.so b\r".toList, "\\- \\ec".toList, ".EE".toList, []] := by
  obtain ⟨p, hp, hlines⟩ := convert_usageBlock (List.cons_ne_nil 'x' [])
    (Text.forall_mem_of_all (by decide))
    "\n \r\n\x60\x60\x60sh\r\n# a\n\n.so b\r\r\n- \\c\r\n\t\n".toList
  exact ⟨p, hp, hlines.trans (by decide)⟩

end Roff

end CommandManual
