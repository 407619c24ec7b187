import CommandManual.Proofs.Markdown.Blocks
import CommandManual.Proofs.Roff.Tokens
import CommandManual.Roff.Page

/-!
# The grammar of a manual page

A page is a title and a sequence of blocks, each of which is a few requests with lines of text at
fixed places. The grammar below knows nothing of documents; that every page of a document is in it
(`page_in_grammar`) means that no text of the document is ever read as a request, and no character
of it as an escape.

## Main definitions

* `Roff.IsTextLine`: a line that is no request.
* `Roff.IsBlock`, `Roff.IsPage`: the lines of a block and of a page.

## Main results

* `Roff.cases_of_mem_blockLines`: a line of a block is a request, a text, or a heading.
* `Roff.isBlock_blockLines`: the lines of a block are in the grammar.
* `Roff.lines_text_of_convert`: the lines of a page are those that it is made of.
* `Roff.page_in_grammar`: so are those of a page, and every backslash and every hyphen is a part of
  an escape.
-/

namespace CommandManual

namespace Roff

/-- A line that is no request. -/
def IsTextLine (l : Text) : Prop := looksLikeRequest l = false

/-- The lines of a block. -/
inductive IsBlock : List Text → Prop
  | sectionHeading (title : Text) : IsBlock [".SH ".toList ++ title]
  | subsectionHeading (title : Text) : IsBlock [".SS ".toList ++ title]
  | literal {ls : List Text} (texts : ∀ l ∈ ls, IsTextLine l) :
      IsBlock (".EX".toList :: ls ++ [".EE".toList])
  | quotation {ls : List Text} (texts : ∀ l ∈ ls, IsTextLine l) :
      IsBlock (".PP".toList :: ".RS".toList :: ls ++ [".RE".toList])
  | item {l : Text} (text : IsTextLine l) : IsBlock [".IP \\(bu 2".toList, l]
  | paragraph {l : Text} {ls : List Text} (texts : ∀ k ∈ l :: ls, IsTextLine k) :
      IsBlock (".PP".toList :: l :: ls)

/-- The lines of a page. -/
inductive IsPage : List Text → Prop
  | mk (title : Text) {blocks : List (List Text)} (isBlock : ∀ b ∈ blocks, IsBlock b) :
      IsPage (".nh".toList :: (".TH ".toList ++ title) :: blocks.flatten)

/-! ### Lines of text -/

theorem isTextLine_escape (t : Text) : IsTextLine (escape t) := by
  simp only [IsTextLine, escape]
  split
  · rfl
  · next h => simpa using h

theorem isTextLine_inline (t : Text) : IsTextLine (inline t) := by
  have hcode := (spanned_codeSpans _).looksLikeRequest (isTextLine_escape t)
  have hstrong := (spanned_strongSpans _).looksLikeRequest hcode
  exact (spanned_emphasisSpans none _).looksLikeRequest hstrong

theorem newline_notMem_escape {t : Text} (h : '\n' ∉ t) : '\n' ∉ escape t :=
  fun hn => (mem_escape hn).elim h (by decide)

theorem Spanned.newline_notMem {mark t u : Text} {font : Char} (h : Spanned mark font t u)
    (hfont : font ≠ '\n') (ht : '\n' ∉ t) : '\n' ∉ u := by
  intro hu
  rcases h.mem hu with hn | hn
  · exact ht hn
  · simp only [List.mem_cons, List.not_mem_nil, or_false] at hn
    rcases hn with hn | hn | hn | hn
    · cases hn
    · cases hn
    · exact hfont hn.symm
    · cases hn

theorem newline_notMem_inline {t : Text} (h : '\n' ∉ t) : '\n' ∉ inline t := by
  have hcode := (spanned_codeSpans _).newline_notMem (by decide) (newline_notMem_escape h)
  have hstrong := (spanned_strongSpans _).newline_notMem (by decide) hcode
  exact (spanned_emphasisSpans none _).newline_notMem (by decide) hstrong

/-! ### Lines of a block -/

/-- The requests that stand alone. -/
def requests : List Text :=
  [".EX".toList, ".EE".toList, ".PP".toList, ".RS".toList, ".RE".toList, ".IP \\(bu 2".toList]

/-- What a line of a document stands behind: nothing, or the request of a heading. -/
def heads : List Text := [[], ".SH ".toList, ".SS ".toList]

/-- **A line of a block** is a request that stands alone, or it has a text of the block in it. -/
theorem cases_of_mem_blockLines {b : Markdown.Block} {l : Text} (h : l ∈ blockLines b) :
    l ∈ requests ∨ ∃ t ∈ b.texts, l = escape t ∨ ∃ head ∈ heads, l = head ++ inline t := by
  cases b with
  | heading level title =>
    refine .inr ⟨title, List.mem_singleton.2 rfl, .inr ⟨_, ?_, List.mem_singleton.1 h⟩⟩
    split <;> decide
  | code ls =>
    rcases List.mem_append.1 h with h | h
    · rcases List.mem_cons.1 h with rfl | h
      · exact .inl (by decide)
      · obtain ⟨t, ht, rfl⟩ := List.mem_map.1 h
        exact .inr ⟨t, ht, .inl rfl⟩
    · rw [List.mem_singleton.1 h]
      exact .inl (by decide)
  | quote ls =>
    rcases List.mem_append.1 h with h | h
    · rcases List.mem_cons.1 h with rfl | h
      · exact .inl (by decide)
      · rcases List.mem_cons.1 h with rfl | h
        · exact .inl (by decide)
        · obtain ⟨t, ht, rfl⟩ := List.mem_map.1 h
          exact .inr ⟨t, ht, .inr ⟨[], by decide, rfl⟩⟩
    · rw [List.mem_singleton.1 h]
      exact .inl (by decide)
  | bullet text =>
    rcases List.mem_cons.1 h with rfl | h
    · exact .inl (by decide)
    · exact .inr ⟨text, List.mem_singleton.2 rfl, .inr ⟨[], by decide, List.mem_singleton.1 h⟩⟩
  | paragraph ls =>
    rcases List.mem_cons.1 h with rfl | h
    · exact .inl (by decide)
    · obtain ⟨t, ht, rfl⟩ := List.mem_map.1 h
      exact .inr ⟨t, ht, .inr ⟨[], by decide, rfl⟩⟩

/-- **The lines of a block are in the grammar**, if the block comes from lines. -/
theorem isBlock_blockLines {ls : List Text} {b : Markdown.Block} (h : b.Arises ls) :
    IsBlock (blockLines b) := by
  have escaped (ts : List Text) : ∀ l ∈ ts.map escape, IsTextLine l := by
    intro l hl
    obtain ⟨t, -, rfl⟩ := List.mem_map.1 hl
    exact isTextLine_escape t
  have inlined (ts : List Text) : ∀ l ∈ ts.map inline, IsTextLine l := by
    intro l hl
    obtain ⟨t, -, rfl⟩ := List.mem_map.1 hl
    exact isTextLine_inline t
  cases h with
  | heading mem eq titled =>
    rw [blockLines]
    split
    · exact .sectionHeading _
    · exact .subsectionHeading _
  | fenced sub => exact .literal (escaped _)
  | indented sub => exact .literal (escaped _)
  | quote sub => exact .quotation (inlined _)
  | bullet mem eq => exact .item (isTextLine_inline _)
  | paragraph sub => exact .paragraph (inlined (_ :: _))

theorem newline_notMem_blockLines {b : Markdown.Block} (h : ∀ t ∈ b.texts, '\n' ∉ t) :
    ∀ l ∈ blockLines b, '\n' ∉ l := by
  intro l hl
  rcases cases_of_mem_blockLines hl with hl | ⟨t, ht, rfl | ⟨head, hhead, rfl⟩⟩
  · have hfree : ∀ l ∈ requests, '\n' ∉ l := by decide
    exact hfree l hl
  · exact newline_notMem_escape (h t ht)
  · have hfree : ∀ head ∈ heads, '\n' ∉ head := by decide
    rw [List.mem_append, not_or]
    exact ⟨hfree head hhead, newline_notMem_inline (h t ht)⟩

theorem isEscaped_blockLines (b : Markdown.Block) : ∀ l ∈ blockLines b, IsEscaped l := by
  intro l hl
  rcases cases_of_mem_blockLines hl with hl | ⟨t, -, rfl | ⟨head, hhead, rfl⟩⟩
  · have hescaped : ∀ l ∈ requests, IsEscaped l := by decide
    exact hescaped l hl
  · exact isEscaped_escape t
  · have hescaped : ∀ head ∈ heads, IsEscaped head := by decide
    exact (hescaped head hhead).append (isEscaped_inline t)

/-! ### Pages -/

theorem isEscaped_terminated {ls : List Text} (h : ∀ l ∈ ls, IsEscaped l) :
    IsEscaped (Text.terminated ls) := by
  induction ls with
  | nil => exact .nil
  | cons l ls ih =>
    have hrest := ih fun k hk => h k (List.mem_cons_of_mem l hk)
    rw [Text.terminated_cons]
    exact (h l (List.mem_cons_self ..)).append (IsEscaped.append (s := ['\n']) rfl hrest)

theorem isEscaped_titleLines (title : Markdown.Title) : ∀ l ∈ titleLines title, IsEscaped l := by
  intro l hl
  rw [titleLines, List.mem_cons, List.mem_singleton] at hl
  rcases hl with rfl | rfl
  · decide
  · have hrequest : IsEscaped ".TH ".toList := by decide
    refine (hrequest.append (isEscaped_escape title.name)).append ?_
    exact IsEscaped.append (s := [' ']) rfl (isEscaped_escape title.manual)

theorem newline_notMem_titleLines {title : Markdown.Title} (hname : '\n' ∉ title.name)
    (hmanual : '\n' ∉ title.manual) : ∀ l ∈ titleLines title, '\n' ∉ l := by
  intro l hl
  rw [titleLines, List.mem_cons, List.mem_singleton] at hl
  rcases hl with rfl | rfl
  · decide
  · have hname := newline_notMem_escape hname
    have hmanual := newline_notMem_escape hmanual
    simp [hname, hmanual]

/-- The lines of a page are in the grammar. -/
theorem isPage_ofDocument {ls : List Text} {d : Markdown.Document}
    (h : ∀ b ∈ d.blocks, b.Arises ls) : IsPage (Page.ofDocument d).lines := by
  rw [Page.ofDocument, titleLines, List.flatMap_def]
  refine .mk (escape d.title.name ++ ' ' :: escape d.title.manual) fun b hb => ?_
  obtain ⟨block, hblock, rfl⟩ := List.mem_map.1 hb
  exact isBlock_blockLines (h block hblock)

/-- The lines of a page are those that it is made of. -/
theorem lines_text_of_convert {t : Text} {p : Page} (h : convert t = .ok p) :
    Text.lines p.text = p.lines ++ [[]] := by
  obtain ⟨d, hd, rfl⟩ := Except.map_eq_ok_iff.1 h
  obtain ⟨⟨l, hl, htitle⟩, hblocks⟩ := Markdown.Document.ofLines_spec hd
  obtain ⟨hname, hmanual⟩ := Markdown.Title.subset_of_ofLine htitle
  have hlines {k : Text} (hk : k ∈ Text.lines (Text.normalizeReturns t)) : '\n' ∉ k :=
    Text.newline_notMem_of_mem_lines hk
  have hfree : ∀ k ∈ (Page.ofDocument d).lines, '\n' ∉ k := by
    intro k hk
    rcases List.mem_append.1 hk with hk | hk
    · refine newline_notMem_titleLines (fun hn => hlines hl (hname hn)) (fun hn => ?_) k hk
      exact (List.mem_cons.1 (hmanual hn)).elim (by decide) (hlines hl)
    · obtain ⟨b, hb, hk⟩ := List.mem_flatMap.1 hk
      refine newline_notMem_blockLines (fun s hs hn => ?_) k hk
      obtain ⟨j, hj, hsub⟩ := (hblocks b hb).subset hs
      exact hlines hj (hsub hn)
  rw [← List.append_nil (Page.text _)]
  exact Text.lines_terminated_append hfree []

/-- **Every page is in the grammar.** Its lines are those that were made for its title and its
blocks; in no line of text does the document reach the reader as a request, and nowhere in the page
as an escape. -/
theorem page_in_grammar {t : Text} {p : Page} (h : convert t = .ok p) :
    Text.lines p.text = p.lines ++ [[]] ∧ IsPage p.lines ∧
      (∀ before behind, p.text = before ++ '\\' :: behind → ∃ e ∈ escapes, e <+: behind) ∧
      ∀ before behind, p.text = before ++ '-' :: behind → before.getLast? = some '\\' := by
  have hlines := lines_text_of_convert h
  obtain ⟨d, hd, rfl⟩ := Except.map_eq_ok_iff.1 h
  have hblocks := (Markdown.Document.ofLines_spec hd).2
  have hescaped : IsEscaped (Page.ofDocument d).text := by
    refine isEscaped_terminated fun k hk => ?_
    rcases List.mem_append.1 hk with hk | hk
    · exact isEscaped_titleLines d.title k hk
    · obtain ⟨b, -, hk⟩ := List.mem_flatMap.1 hk
      exact isEscaped_blockLines b k hk
  refine ⟨hlines, isPage_ofDocument hblocks, ?_, ?_⟩
  · intro before behind he
    exact IsEscaped.backslash_begins_escape (he ▸ hescaped)
  · intro before behind he
    exact IsEscaped.hyphen_is_escaped (he ▸ hescaped)

/-- A page of a document that tries a request in a code span and an escape in its title. -/
theorem page_in_grammar_of_span :
    ∃ p, convert "% a\\-b 1\n\x60.so x\x60".toList = .ok p ∧
      p.lines = [".nh".toList, ".TH a\\e\\-b 1".toList, ".PP".toList,
        "\\fB.so x\\fP".toList] ∧ IsPage p.lines := by
  have hp : (convert "% a\\-b 1\n\x60.so x\x60".toList).toOption = some ⟨⟨"a\\-b".toList, ['1']⟩,
      [".nh".toList, ".TH a\\e\\-b 1".toList, ".PP".toList, "\\fB.so x\\fP".toList]⟩ := by
    decide +kernel
  cases h : convert "% a\\-b 1\n\x60.so x\x60".toList with
  | error f =>
    rw [h] at hp
    cases hp
  | ok p =>
    rw [h] at hp
    obtain rfl := Option.some.inj hp
    exact ⟨_, rfl, rfl, (page_in_grammar h).2.1⟩

end Roff

end CommandManual
