import CommandManual.Proofs.Document.Skeleton

/-!
# The section of a manual page

A manual page is asked for in a section. The section is not handed to the page: it is written into
the title line of the narrative document, behind the name of the application, and read back from
there by words. So it depends on the name whether the page gets it. A name with a blank inside takes
the place of the section with its second word, and a name with a newline inside ends the title line
in front of the section, which is then the first one.

The words of the title line (`titleWords`) carry the whole argument. A page has the section that is
asked for exactly if it is the second one of them, and that is said in terms of the name alone.

## Main definitions

* `titleWords`: the words that the title line of a document has behind the percent sign.

## Main results

* `exists_title_of_renderManual`: the title of a page is the first two of these words.
* `section_of_renderManual`: which pages carry their section.
-/

namespace CommandManual

/-! ### Titles -/

namespace Markdown

/-- A title is made of the first two words behind the percent sign. Without a second one it is in
the first section. -/
theorem Title.exists_words_of_ofLine {t : Text} {title : Title}
    (h : Title.ofLine ('%' :: t) = .ok title) :
    ∃ w ws, Text.words t = w :: ws ∧ title = ⟨w, ws.headD ['1']⟩ := by
  rw [Title.ofLine] at h
  split at h
  · cases h
  · next name hwords =>
    cases h
    exact ⟨name, [], hwords, rfl⟩
  · next name manual rest hwords =>
    cases h
    exact ⟨name, manual :: rest, hwords, rfl⟩

theorem Document.ofLine_of_ofLines_cons {l : Text} {ls : List Text} {d : Document}
    (hink : l.isBlankText = false) (h : Document.ofLines (l :: ls) = .ok d) :
    Title.ofLine l = .ok d.title := by
  rw [Document.ofLines, List.dropWhile_cons_of_neg (by simp [hink])] at h
  obtain ⟨title, htitle, h⟩ := Except.bind_eq_ok_iff.1 h
  obtain ⟨body, -, h⟩ := Except.bind_eq_ok_iff.1 h
  obtain rfl := Except.ok.inj h
  exact htitle

/-- The title of a document whose first line begins with a percent sign. -/
theorem Document.exists_words_of_ofText {k rest : Text} {d : Document} (hk : '\n' ∉ k)
    (h : Document.ofText ('%' :: ' ' :: k ++ '\n' :: rest) = .ok d) :
    ∃ w ws, Text.words k = w :: ws ∧ d.title = ⟨w, ws.headD ['1']⟩ := by
  have hfree : '\n' ∉ '%' :: ' ' :: k := by simpa using hk
  have hshort : '\n' ∉ Text.withoutReturn ('%' :: ' ' :: k) := by
    rw [Text.withoutReturn]
    split
    · exact fun hmem => hfree (List.dropLast_subset _ hmem)
    · exact hfree
  have hfirst : Text.withoutReturn ('%' :: ' ' :: k) = '%' :: Text.withoutReturn (' ' :: k) :=
    Text.withoutReturn_cons '%' (List.cons_ne_nil ' ' k)
  rw [Document.ofText, Text.normalizeReturns_append_newline hfree, Text.lines_append_newline,
    Text.lines_of_notMem hshort, List.singleton_append, hfirst] at h
  obtain ⟨w, ws, hwords, htitle⟩ :=
    Title.exists_words_of_ofLine (Document.ofLine_of_ofLines_cons rfl h)
  rw [Text.words_withoutReturn, Text.words_cons_of_isBlank (by decide)] at hwords
  exact ⟨w, ws, hwords, htitle⟩

end Markdown

namespace Roff

theorem escape_injective {s t : Text} (h : escape s = escape t) : s = t := by
  rw [← decode_escape s, h, decode_escape]

theorem escape_eq_ofInt_iff {n : Int} (hn : 0 ≤ n) {t : Text} :
    escape t = Text.ofInt n ↔ t = Text.ofInt n :=
  ⟨fun h => escape_injective (h.trans (escape_ofInt hn).symm), fun h => h ▸ escape_ofInt hn⟩

/-- Escaping makes no blanks. -/
theorem isBlank_of_mem_escape {t : Text} (ht : ∀ c ∈ t, isBlank c = false) :
    ∀ c ∈ escape t, isBlank c = false := by
  have hescape : ∀ c ∈ ['\\', 'e', '-', '&'], isBlank c = false :=
    Text.forall_mem_of_all (by decide)
  exact fun c hc => (mem_escape hc).elim (ht c) (hescape c)

/-- The words of the line that sets a title. -/
theorem words_titleLine {name manual : Text} (hname : name ≠ []) (hmanual : manual ≠ [])
    (hnameInk : ∀ c ∈ name, isBlank c = false) (hmanualInk : ∀ c ∈ manual, isBlank c = false) :
    Text.words (".TH ".toList ++ escape name ++ ' ' :: escape manual) =
      [".TH".toList, escape name, escape manual] := by
  have hword {w : Text} (hne : w ≠ []) (hw : ∀ c ∈ w, isBlank c = false) :
      Text.words (escape w) = [escape w] :=
    Text.words_of_forall (fun h => hne (escape_injective h)) (isBlank_of_mem_escape hw)
  have hrequest : Text.words ".TH".toList = [".TH".toList] := by decide
  have hsplit : ".TH ".toList ++ escape name ++ ' ' :: escape manual =
      ".TH".toList ++ ' ' :: (escape name ++ ' ' :: escape manual) := by simp
  rw [hsplit, Text.words_append_blank (by decide), Text.words_append_blank (by decide),
    hrequest, hword hname hnameInk, hword hmanual hmanualInk]
  rfl

end Roff

/-! ### Pages -/

/-- The words that the title line of a document has behind the percent sign. A name with a newline
in it ends the line. -/
def titleWords (name : Text) (n : Int) : List Text :=
  if '\n' ∈ name then Text.words (name.takeWhile (· ≠ '\n')) else Text.words name ++ [Text.ofInt n]

section TitleWords

variable {name w : Text} {ws : List Text} {n : Int}

/-- The number of a section is a word. -/
theorem isWord_ofInt (hn : 0 ≤ n) :
    Text.ofInt n ≠ [] ∧ ∀ c ∈ Text.ofInt n, isBlank c = false := by
  refine ⟨Text.ofInt_ne_nil hn, fun c hc => isBlank_of_isAlphanum ?_⟩
  simp [Char.isAlphanum, Text.ofInt_digits hn hc]

theorem isWord_of_mem_titleWords (hn : 0 ≤ n) (h : w ∈ titleWords name n) :
    w ≠ [] ∧ ∀ c ∈ w, isBlank c = false := by
  unfold titleWords at h
  split at h
  · exact Text.isWord_of_mem_words h
  · rcases List.mem_append.1 h with h | h
    · exact Text.isWord_of_mem_words h
    · rw [List.mem_singleton.1 h]
      exact isWord_ofInt hn

theorem takeWhile_of_newline_notMem (h : '\n' ∉ name) : name.takeWhile (· ≠ '\n') = name :=
  List.takeWhile_eq_self_iff.2 fun _ hc => decide_eq_true (ne_of_mem_of_not_mem hc h)

/-- The first line of a document, up to the newline that ends it. -/
theorem exists_titleLine (name : Text) (hn : 0 ≤ n) (t : Text) : ∃ k rest,
    "% ".toList ++ name ++ ' ' :: Text.ofInt n ++ '\n' :: t = '%' :: ' ' :: k ++ '\n' :: rest ∧
      '\n' ∉ k ∧ Text.words k = titleWords name n := by
  by_cases hname : '\n' ∈ name
  · obtain ⟨first, more, rfl, hfirst⟩ := List.eq_append_cons_of_mem hname
    refine ⟨first, more ++ ' ' :: Text.ofInt n ++ '\n' :: t, by simp, hfirst, ?_⟩
    rw [titleWords, if_pos hname, List.takeWhile_append_of_pos fun _ hc =>
      decide_eq_true (ne_of_mem_of_not_mem hc hfirst), List.takeWhile_cons_of_neg (by simp),
      List.append_nil]
  · obtain ⟨hne, hink⟩ := isWord_ofInt hn
    refine ⟨name ++ ' ' :: Text.ofInt n, t, by simp, ?_, ?_⟩
    · have hdigits : '\n' ∉ Text.ofInt n := fun h => absurd (hink _ h) (by decide)
      simp [hname, hdigits]
    · rw [Text.words_append_blank (by decide), Text.words_of_forall hne hink, titleWords,
        if_neg hname]

/-- **When the second word of a title line is the section.** -/
theorem headD_eq_ofInt_iff (hn : 1 ≤ n) (hink : name.hasInk = true)
    (h : titleWords name n = w :: ws) : ws.headD ['1'] = Text.ofInt n ↔
      (Text.words (name.takeWhile (· ≠ '\n'))).length = 1 ∧ ('\n' ∈ name → n = 1) ∨
        (Text.words (name.takeWhile (· ≠ '\n')))[1]? = some (Text.ofInt n) := by
  by_cases hname : '\n' ∈ name
  · rw [titleWords, if_pos hname] at h
    rw [h]
    cases ws with
    | nil =>
      have hone : ['1'] = Text.ofInt n ↔ n = 1 :=
        ⟨fun heq => Text.ofInt_inj (by omega) (by decide) heq.symm, fun heq => heq ▸ rfl⟩
      simp [hone, hname]
    | cons m ws => simp
  · rw [titleWords, if_neg hname] at h
    rw [takeWhile_of_newline_notMem hname]
    have hwords := Text.words_ne_nil hink
    match hfirst : Text.words name, hwords with
    | [v], _ =>
      rw [hfirst, List.singleton_append, List.cons.injEq] at h
      simp [← h.2, hname]
    | v :: m :: vs, _ =>
      rw [hfirst, List.cons_append, List.cons.injEq] at h
      simp [← h.2]

end TitleWords

section Pages

variable {root : Command} {n : Int} {p : Roff.Page}

/-- A page that is made is the page of the narrative document. -/
theorem convert_of_renderManual (hn : 1 ≤ n) (h : renderManual none root n = .ok p) :
    Roff.convert (Narrative.render (DocumentView.ofCommand root [] n)) = .ok p := by
  cases hfault : DocumentView.fault? root with
  | some f =>
    rw [renderManual_of_fault hn hfault] at h
    cases h
  | none =>
    cases hwrite : isWritable n with
    | false =>
      rw [renderManual_of_not_isWritable hn hfault hwrite] at h
      cases h
    | true =>
      have hlaid := layOut_none Narrative.render (v := DocumentView.ofCommand root [] n) hwrite
      rw [renderManual_of_fault?_eq_none hn hfault, hlaid] at h
      exact Except.mapError_eq_ok_iff.1 h

/-- **The title of a page** is the first two words of the title line. -/
theorem exists_title_of_renderManual (hn : 1 ≤ n) (h : renderManual none root n = .ok p) :
    ∃ w ws, titleWords root.details.name n = w :: ws ∧
      (Text.lines p.text)[1]? =
        some (".TH ".toList ++ Roff.escape w ++ ' ' :: Roff.escape (ws.headD ['1'])) := by
  have hconvert := convert_of_renderManual hn h
  have hlines := Roff.lines_text_of_convert hconvert
  rw [render_eq hn] at hconvert
  obtain ⟨k, rest, htext, hfree, hwords⟩ := exists_titleLine root.details.name (by omega : 0 ≤ n) _
  rw [htext] at hconvert
  obtain ⟨d, hd, rfl⟩ := Except.map_eq_ok_iff.1 hconvert
  obtain ⟨w, ws, hk, htitle⟩ := Markdown.Document.exists_words_of_ofText hfree hd
  refine ⟨w, ws, hwords.symm.trans hk, ?_⟩
  rw [hlines, Roff.Page.ofDocument, htitle]
  rfl

/-- **Which pages carry their section.** The second line of a page sets its title, and its last word
is the section that was asked for if and only if the name of the application is one word on one
line, but for two accidents: the second word of the name is that number, or the name is broken
behind its first word and the section is the first one. -/
theorem section_of_renderManual (hn : 1 ≤ n) (hink : root.details.name.hasInk = true)
    (h : renderManual none root n = .ok p) :
    ∃ l, (Text.lines p.text)[1]? = some l ∧ ".TH ".toList <+: l ∧
      ((Text.words l).getLast? = some (Text.ofInt n) ↔
        let first := Text.words (root.details.name.takeWhile (· ≠ '\n'))
        first.length = 1 ∧ ('\n' ∈ root.details.name → n = 1) ∨
          first[1]? = some (Text.ofInt n)) := by
  have hnonneg : 0 ≤ n := Int.le_trans (by decide) hn
  obtain ⟨w, ws, htitle, hline⟩ := exists_title_of_renderManual hn h
  have hword {v : Text} (hv : v ∈ w :: ws) : v ≠ [] ∧ ∀ c ∈ v, isBlank c = false :=
    isWord_of_mem_titleWords hnonneg (htitle ▸ hv)
  obtain ⟨hname, hnameInk⟩ := hword (List.mem_cons_self ..)
  obtain ⟨hmanual, hmanualInk⟩ :
      ws.headD ['1'] ≠ [] ∧ ∀ c ∈ ws.headD ['1'], isBlank c = false := by
    cases ws with
    | nil => exact ⟨List.cons_ne_nil _ _, Text.forall_mem_of_all (by decide)⟩
    | cons m ws => exact hword (by simp)
  refine ⟨_, hline, ?_, ?_⟩
  · rw [List.append_assoc]
    exact List.prefix_append ..
  · rw [Roff.words_titleLine hname hmanual hnameInk hmanualInk,
      ← headD_eq_ofInt_iff hn hink htitle, ← Roff.escape_eq_ofInt_iff hnonneg]
    simp

end Pages

/-- A name of one word, with blanks around it. -/
theorem section_of_renderManual_of_padded_name :
    let root : Command := .mk { name := " x-y\r".toList } []
    (1 : Int) ≤ 8 ∧ root.details.name.hasInk = true ∧ ∃ p, renderManual none root 8 = .ok p ∧
      ∃ l, (Text.lines p.text)[1]? = some l ∧ ".TH ".toList <+: l ∧
        (Text.words l).getLast? = some ['8'] := by
  intro root
  have hpage : renderManual none root 8 = .ok ⟨⟨"x-y".toList, ['8']⟩,
      [".nh", ".TH x\\-y 8", ".SH NAME", ".PP", "x\\-y", ".SH SYNOPSIS", ".PP", "x\\-y", ".PP",
        "\\fBUsage\\fP:", ".EX", " x\\-y\r [GLOBAL OPTIONS] [ARGUMENTS...]", ".EE"].map
          String.toList⟩ := by
    decide +kernel
  obtain ⟨l, hl, htitle, hlast⟩ := section_of_renderManual (by decide) (by decide) hpage
  exact ⟨by decide, by decide, _, hpage, l, hl, htitle,
    hlast.2 (.inl ⟨by decide, fun hnewline => absurd hnewline (by decide)⟩)⟩

/-- A name of two words: the page is in the section that its second word names. -/
theorem title_of_spaced_name :
    let root : Command := .mk { name := "my tool".toList } []
    (1 : Int) ≤ 8 ∧ root.details.name.hasInk = true ∧ ∃ p, renderManual none root 8 = .ok p ∧
      (Text.lines p.text)[1]? = some ".TH my tool".toList ∧
        (Text.words ".TH my tool".toList).getLast? ≠ some (Text.ofInt 8) := by
  intro root
  have hpage : renderManual none root 8 = .ok ⟨⟨"my".toList, "tool".toList⟩,
      [".nh", ".TH my tool", ".SH NAME", ".PP", "my tool", ".SH SYNOPSIS", ".PP", "my tool", ".PP",
        "\\fBUsage\\fP:", ".EX", "my tool [GLOBAL OPTIONS] [ARGUMENTS...]", ".EE"].map
          String.toList⟩ := by
    decide +kernel
  exact ⟨by decide, by decide, _, hpage, by decide +kernel, by decide⟩

end CommandManual
