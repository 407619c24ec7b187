import CommandManual.Proofs.Markdown.Joined
import CommandManual.Proofs.Roff.Payload

/-!
# Pages of joined documents

Two sections that stand one after the other, a blank line between them, are converted one after the
other (`convert_append`): a document behind which something is put keeps the lines of its page, and
what is put there adds the lines that it has behind any other title. Nothing is carried over the
blank line, so that sections may be rendered on their own and put together afterwards.

There are two conditions on the place where they meet. A carriage return at the end of the first
document would become a part of the line end behind it, and indented code at the beginning of the
second one would go on with indented code at the end of the first.
-/

namespace CommandManual

namespace Roff

variable {s t : Text} {p : Page}

/-- The lines of two texts with a blank line between them, once the line ends are newlines. -/
theorem lines_normalizeReturns_append (hend : s.getLast? ≠ some '\r') (t : Text) :
    Text.lines (Text.normalizeReturns (s ++ "\n\n".toList ++ t)) =
      Text.lines (Text.normalizeReturns s) ++ [] :: Text.lines (Text.normalizeReturns t) := by
  have hbetween : Text.normalizeReturns ("\n\n".toList ++ t) =
      '\n' :: '\n' :: Text.normalizeReturns t := by
    rw [Text.normalizeReturns_append (by decide)]
    rfl
  rw [List.append_assoc, Text.normalizeReturns_append hend, hbetween, Text.lines_append_newline,
    Text.lines_newline_cons]

/-- The page of what is put behind a title. -/
theorem convert_of_title {l : Text} {title : Markdown.Title}
    (hl : Markdown.Title.ofLine l = .ok title) (hplain : '\n' ∉ l) (hend : l.getLast? ≠ some '\r')
    (t : Text) :
    convert (l ++ "\n\n".toList ++ t) =
      (fun bs => ⟨title, titleLines title ++ bs.flatMap blockLines⟩) <$>
        Markdown.blocks 3 (Text.lines (Text.normalizeReturns t)) := by
  rw [convert, Markdown.Document.ofText, lines_normalizeReturns_append hend,
    Text.normalizeReturns_of_notMem hplain, Text.lines_of_notMem hplain, List.singleton_append,
    Markdown.Document.ofLines_cons hl, Markdown.blocks_cons_of_isBlankText rfl]
  cases Markdown.blocks 3 (Text.lines (Text.normalizeReturns t)) <;> rfl

/-- The page of a document behind which something is put. -/
theorem exists_convert_append (hs : convert s = .ok p) (hend : s.getLast? ≠ some '\r')
    (hfirst : ∀ l ∈ (Text.lines t).find? Text.hasInk, Markdown.isIndented l = false) :
    ∃ n, convert (s ++ "\n\n".toList ++ t) =
      (fun bs => ⟨p.title, p.lines ++ bs.flatMap blockLines⟩) <$>
        Markdown.blocks n (Text.lines (Text.normalizeReturns t)) := by
  obtain ⟨d, hd, rfl⟩ := Except.map_eq_ok_iff.1 hs
  refine ⟨(Text.lines (Text.normalizeReturns s)).length + 2, ?_⟩
  rw [convert, Markdown.Document.ofText, lines_normalizeReturns_append hend,
    Markdown.Document.ofLines_append hd (Markdown.isIndented_of_find?_normalizeReturns hfirst)]
  cases Markdown.blocks _ (Text.lines (Text.normalizeReturns t)) with
  | error f => rfl
  | ok bs => simp [Functor.map, Except.map, Page.ofDocument]

/-- The source of a page without its first lines. -/
theorem unlines_drop_lines_text {n : Nat} (hp : convert t = .ok p) (hn : n ≤ p.lines.length) :
    Text.unlines ((Text.lines p.text).drop n) = Text.terminated (p.lines.drop n) := by
  rw [lines_text_of_convert hp, List.drop_append_of_le_length hn,
    ← Text.terminated_append_unlines _ (List.cons_ne_nil [] []), Text.unlines_singleton,
    List.append_nil]

/-- **Documents are converted section by section.** Where a document is put behind another one, it
is converted if it can be converted behind a title of its own, and its lines are the same there. -/
theorem convert_append (hs : convert s = .ok p) (hend : s.getLast? ≠ some '\r')
    (hfirst : ∀ l ∈ (Text.lines t).find? Text.hasInk, Markdown.isIndented l = false) :
    ((∃ r, convert (s ++ "\n\n".toList ++ t) = .ok r) ↔
      ∃ q, convert ("% x 1\n\n".toList ++ t) = .ok q) ∧
    ∀ r q, convert (s ++ "\n\n".toList ++ t) = .ok r →
      convert ("% x 1\n\n".toList ++ t) = .ok q →
        r = ⟨p.title, p.lines ++ q.lines.drop 2⟩ ∧
        r.text = p.text ++ Text.unlines ((Text.lines q.text).drop 2) := by
  have htitle : Markdown.Title.ofLine "% x 1".toList = .ok ⟨['x'], ['1']⟩ := rfl
  obtain ⟨n, hr⟩ := exists_convert_append hs hend hfirst
  have hq := convert_of_title htitle (by decide) (by decide) t
  have hsplit : "% x 1\n\n".toList ++ t = "% x 1".toList ++ "\n\n".toList ++ t := rfl
  rw [← hsplit] at hq
  refine ⟨⟨fun ⟨r, h⟩ => ?_, fun ⟨q, h⟩ => ?_⟩, fun r q hr' hq' => ?_⟩
  · obtain ⟨bs, hbs, -⟩ := Except.map_eq_ok_iff.1 (hr.symm.trans h)
    exact ⟨_, hq.trans (Except.map_eq_ok_iff.2 ⟨bs, Markdown.blocks_of_blocks hbs 3, rfl⟩)⟩
  · obtain ⟨bs, hbs, -⟩ := Except.map_eq_ok_iff.1 (hq.symm.trans h)
    exact ⟨_, hr.trans (Except.map_eq_ok_iff.2 ⟨bs, Markdown.blocks_of_blocks hbs n, rfl⟩)⟩
  · obtain ⟨bs, hbs, rfl⟩ := Except.map_eq_ok_iff.1 (hr.symm.trans hr')
    obtain ⟨cs, hcs, rfl⟩ := Except.map_eq_ok_iff.1 (hq.symm.trans hq')
    obtain rfl := Except.ok.inj ((Markdown.blocks_of_blocks hbs 3).symm.trans hcs)
    refine ⟨rfl, ?_⟩
    rw [unlines_drop_lines_text hq' (by simp [titleLines])]
    exact Text.terminated_append _ _

/-- Indented code and blank lines at the end of the first document, and in the second one a blank
line, a quotation and a fence, with both spellings of a line end. -/
theorem convert_append_of_indented :
    let s := "% a 1\n\n    x\n  \n".toList
    let t := " \r\n> b\r\n\x60\x60\x60\n# c\n\x60\x60\x60".toList
    ∃ p r, convert s = .ok p ∧ convert (s ++ "\n\n".toList ++ t) = .ok r ∧
      r.text = p.text ++ ".PP\n.RS\nb\n.RE\n.EX\n# c\n.EE\n".toList := by
  intro s t
  have hs : convert s = .ok
      ⟨⟨['a'], ['1']⟩, titleLines ⟨['a'], ['1']⟩ ++ [".EX".toList, ['x'], ".EE".toList]⟩ := by
    decide +kernel +zetaReduce
  have ht : convert ("% x 1\n\n".toList ++ t) = .ok ⟨⟨['x'], ['1']⟩, titleLines ⟨['x'], ['1']⟩ ++
      [".PP".toList, ".RS".toList, ['b'], ".RE".toList, ".EX".toList, "# c".toList,
        ".EE".toList]⟩ := by
    decide +kernel +zetaReduce
  obtain ⟨hiff, hjoined⟩ := convert_append (t := t) hs (by decide) (by decide)
  obtain ⟨r, hr⟩ := hiff.2 ⟨_, ht⟩
  refine ⟨_, r, hs, hr, ?_⟩
  rw [(hjoined r _ hr ht).2]
  rfl

end Roff

end CommandManual
