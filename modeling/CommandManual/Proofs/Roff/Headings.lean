import CommandManual.Proofs.Markdown.Outline
import CommandManual.Proofs.Roff.Payload

/-!
# The headings of a page

Two requests of a page are headings. They come from the headings of the document and from nothing
else: the other requests are different ones, and a line of text never begins like a request. A
document with a title line and an outline therefore has a page, and the headings of the page are
those of the outline.

## Main definitions

* `Roff.isHeading`: a line that sets a heading.
* `Roff.headingLine`: the line that sets a heading.

## Main results

* `Roff.filter_isHeading_lines`: the headings of a page are those of its document.
* `Roff.exists_convert`: a title line and pieces with an outline have a page with these headings.
-/

namespace CommandManual

namespace Roff

open Markdown (Outlines)

/-- Does the line set a heading? -/
def isHeading (l : Text) : Bool := l.startsWith ".SH".toList || l.startsWith ".SS".toList

/-- The line that sets a heading. -/
def headingLine (h : Nat × Text) : Text :=
  (if h.1 = 1 then ".SH ".toList else ".SS ".toList) ++ inline h.2

/-! ### Texts without marks -/

theorem Spanned.eq_of_notMem {mark t u : Text} {font c : Char} (h : Spanned mark font t u)
    (hc : c ∈ mark) (ht : c ∉ t) : u = t := by
  induction h with
  | nil => rfl
  | keep d _ ih => rw [ih (List.not_mem_of_not_mem_cons ht)]
  | span body _ _ => simp [hc] at ht

theorem escape_of_notMem {t : Text} (hback : '\\' ∉ t) (hhyphen : '-' ∉ t)
    (htext : looksLikeRequest t = false) : escape t = t := by
  have hbody : t.flatMap escapeChar = t := by
    clear htext
    induction t with
    | nil => rfl
    | cons c t ih =>
      rw [List.flatMap_cons, ih (List.not_mem_of_not_mem_cons hback)
        (List.not_mem_of_not_mem_cons hhyphen), escapeChar,
        if_neg (List.ne_of_not_mem_cons hback).symm, if_neg (List.ne_of_not_mem_cons hhyphen).symm,
        List.singleton_append]
  simp only [escape, hbody, htext, Bool.false_eq_true, if_false]

/-- A text without any marks is set as it is. -/
theorem inline_of_notMem {t : Text} (hback : '\\' ∉ t) (hhyphen : '-' ∉ t)
    (htick : Text.backtick ∉ t) (hstar : '*' ∉ t) (htext : looksLikeRequest t = false) :
    inline t = t := by
  have hcode : codeSpans t = t :=
    (spanned_codeSpans t).eq_of_notMem (List.mem_singleton_self _) htick
  have hstrong : strongSpans t = t := (spanned_strongSpans t).eq_of_notMem (by simp) hstar
  have hemphasis : emphasisSpans none t = t :=
    (spanned_emphasisSpans none t).eq_of_notMem (List.mem_singleton_self _) hstar
  rw [inline, escape_of_notMem hback hhyphen htext, hcode, hstrong, hemphasis]

/-! ### Lines that are headings -/

theorem isHeading_of_isTextLine {l : Text} (h : IsTextLine l) : isHeading l = false := by
  refine Bool.eq_false_iff.2 fun hl => ?_
  rcases Bool.or_eq_true _ _ ▸ hl with hl | hl <;>
    obtain ⟨t, rfl⟩ := List.isPrefixOf_iff_prefix.1 hl <;> cases h

theorem filter_isHeading_of_isTextLine {ls : List Text} (h : ∀ l ∈ ls, IsTextLine l) :
    ls.filter isHeading = [] :=
  List.filter_eq_nil_iff.2 fun l hl => by simp [isHeading_of_isTextLine (h l hl)]

theorem isHeading_headingLine (h : Nat × Text) : isHeading (headingLine h) = true := by
  unfold headingLine
  split <;> rfl

/-- The lines of a block that set a heading. -/
theorem filter_isHeading_blockLines (b : Markdown.Block) :
    (blockLines b).filter isHeading = (b.heading?.map headingLine).toList := by
  have hskip {l : Text} (hl : isHeading l = false) (ls : List Text) :
      (l :: ls).filter isHeading = ls.filter isHeading := List.filter_cons_of_neg (by simp [hl])
  have hescape (ls : List Text) : (ls.map escape).filter isHeading = [] :=
    filter_isHeading_of_isTextLine (by simp [isTextLine_escape])
  have hinline (ls : List Text) : (ls.map inline).filter isHeading = [] :=
    filter_isHeading_of_isTextLine (by simp [isTextLine_inline])
  cases b with
  | heading level title => exact List.filter_cons_of_pos (isHeading_headingLine (level, title))
  | code ls =>
    rw [blockLines, List.cons_append, hskip rfl, List.filter_append, hescape]
    rfl
  | quote ls =>
    rw [blockLines, List.cons_append, hskip rfl, List.cons_append, hskip rfl, List.filter_append,
      hinline]
    rfl
  | bullet text =>
    rw [blockLines, hskip rfl, hskip (isHeading_of_isTextLine (isTextLine_inline text))]
    rfl
  | paragraph ls =>
    rw [blockLines, hskip rfl, hinline]
    rfl

/-- **The headings of a page are those of its document.** -/
theorem filter_isHeading_lines (d : Markdown.Document) :
    (Page.ofDocument d).lines.filter isHeading =
      (d.blocks.filterMap Markdown.Block.heading?).map headingLine := by
  have htitle : (titleLines d.title).filter isHeading = [] := rfl
  rw [Page.ofDocument, List.filter_append, htitle, List.nil_append]
  induction d.blocks with
  | nil => rfl
  | cons b bs ih =>
    rw [List.flatMap_cons, List.filter_append, filter_isHeading_blockLines, ih]
    cases hb : b.heading? with
    | none => rw [List.filterMap_cons_none hb]; rfl
    | some h => rw [List.filterMap_cons_some hb]; rfl

/-! ### Documents with a title line -/

/-- A word with a word behind it makes up a title line. -/
theorem titleOfLine {name manual : Text} (hname : name ≠ []) (hmanual : manual ≠ [])
    (hnameInk : ∀ c ∈ name, isBlank c = false) (hmanualInk : ∀ c ∈ manual, isBlank c = false) :
    Markdown.Title.ofLine ("% ".toList ++ name ++ ' ' :: manual) = .ok ⟨name, manual⟩ := by
  have hwords : Text.words (' ' :: (name ++ ' ' :: manual)) = [name, manual] := by
    rw [Text.words_cons_of_isBlank (by decide), Text.words_append_blank (by decide),
      Text.words_of_forall hname hnameInk, Text.words_of_forall hmanual hmanualInk]
    rfl
  change Markdown.Title.ofLine ('%' :: ' ' :: (name ++ ' ' :: manual)) = _
  rw [Markdown.Title.ofLine, hwords]

theorem newline_notMem_titleLine {name manual : Text} (hname : ∀ c ∈ name, isBlank c = false)
    (hmanual : ∀ c ∈ manual, isBlank c = false) : '\n' ∉ "% ".toList ++ name ++ ' ' :: manual := by
  have hfree {w : Text} (hw : ∀ c ∈ w, isBlank c = false) : '\n' ∉ w := fun hmem =>
    absurd (hw '\n' hmem) (by decide)
  simp [hfree hname, hfree hmanual]

theorem getLast?_titleLine_ne {manual : Text} (hmanual : manual ≠ [])
    (hink : ∀ c ∈ manual, isBlank c = false) (name : Text) :
    ("% ".toList ++ name ++ ' ' :: manual).getLast? ≠ some '\r' := by
  obtain ⟨w, c, rfl⟩ := (List.eq_nil_or_concat manual).resolve_left hmanual
  have hc : c ≠ '\r' := by
    rintro rfl
    exact absurd (hink '\r' (by simp)) (by decide)
  rw [List.concat_eq_append, ← List.cons_append, ← List.append_assoc, List.getLast?_concat]
  simpa using hc

/-- **A title line and pieces with an outline have a page** with the headings of the outline. -/
theorem exists_convert {name manual t : Text} {hs : List (Nat × Text)} (hname : name ≠ [])
    (hmanual : manual ≠ []) (hnameInk : ∀ c ∈ name, isBlank c = false)
    (hmanualInk : ∀ c ∈ manual, isBlank c = false) (ht : Outlines t hs) :
    ∃ p, convert ("% ".toList ++ name ++ ' ' :: manual ++ '\n' :: t) = .ok p ∧
      p.lines.take 2 = titleLines ⟨name, manual⟩ ∧
      p.lines.filter isHeading = hs.map headingLine := by
  obtain ⟨ls, hls, hout⟩ := ht
  have htitle := titleOfLine hname hmanual hnameInk hmanualInk
  have hplain := newline_notMem_titleLine hnameInk hmanualInk
  have hend := getLast?_titleLine_ne hmanual hmanualInk name
  generalize "% ".toList ++ name ++ ' ' :: manual = l at *
  have hkept : Text.withoutReturn l = l := if_neg hend
  have hlines := (hls.line hplain).lines_normalizeReturns
  rw [List.map_cons, hkept, List.cons_append] at hlines
  have hrest := hout.map_withoutReturn.append (.plain rfl rfl .nil : Markdown.Outlined [[]] [])
  rw [List.append_nil] at hrest
  obtain ⟨bs, hbs, hheadings⟩ := hrest.exists_blocks 2
  have hdocument : Markdown.Document.ofText (l ++ '\n' :: t) = .ok ⟨⟨name, manual⟩, bs⟩ := by
    rw [Markdown.Document.ofText, hlines, Markdown.Document.ofLines_cons htitle, hbs]
    rfl
  refine ⟨_, by rw [convert, hdocument]; rfl, rfl, ?_⟩
  rw [filter_isHeading_lines, hheadings]

end Roff

end CommandManual
