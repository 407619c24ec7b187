import CommandManual.Proofs.Markdown.Blocks
import Mathlib.Data.List.TakeWhile

/-!
# The wording of a document

Cutting a document into blocks takes blanks and marks away: hashes, signs of quotations and items,
indentations, fences. What is left of a line without them is its wording, and no block may lose any
of that, have it twice or put it elsewhere. So the wording of a document is compared line by line:
that of the texts of its blocks is that of its lines.

Lines of which nothing is left are left out on both sides, because blank lines separate blocks and
do not belong to them.

## Main definitions

* `Markdown.bare`: a text without blanks and marks.
* `Markdown.wording`: what is left of some lines.
* `Markdown.textLines`: the lines behind the title line that are no fences.

## Main results

* `Markdown.wording_texts_of_blocks`: the blocks have the wording of their lines.
* `Markdown.Document.wording_of_ofText`: a document has the wording of its text.
-/

namespace CommandManual

namespace Markdown

/-! ### What is left of a line -/

/-- A character that can mark a block or a span. -/
def isMark (c : Char) : Bool := c = '#' || c = '>' || c = '-' || c = '*' || c = Text.backtick

/-- A character that says nothing by itself: a blank or a mark. -/
def isSilent (c : Char) : Bool := isBlank c || isMark c

/-- A text without blanks and marks. -/
def bare (t : Text) : Text := t.filter (!isSilent ·)

/-- What is left of some lines without blanks and marks, as far as there is anything. -/
def wording (ls : List Text) : List Text := (ls.map bare).filter (!·.isEmpty)

section Bare

variable {t : Text} {p : Char → Bool}

@[simp] theorem bare_nil : bare [] = [] := rfl

@[simp] theorem bare_append (s t : Text) : bare (s ++ t) = bare s ++ bare t :=
  List.filter_append ..

theorem bare_cons_of_silent {c : Char} (hc : isSilent c = true) (t : Text) :
    bare (c :: t) = bare t :=
  List.filter_cons_of_neg (by simp [hc])

theorem bare_eq_nil (h : ∀ c ∈ t, isSilent c = true) : bare t = [] := by
  rw [bare, List.filter_eq_nil_iff]
  intro c hc
  simp [h c hc]

theorem isSilent_of_isBlank {c : Char} (h : isBlank c = true) : isSilent c = true := by
  rw [isSilent, h, Bool.true_or]

theorem bare_of_isBlankText (h : t.isBlankText = true) : bare t = [] :=
  bare_eq_nil fun c hc => isSilent_of_isBlank (List.all_eq_true.1 h c hc)

/-- Silent characters can be dropped in front. -/
theorem bare_dropWhile (hp : ∀ c, p c = true → isSilent c = true) (t : Text) :
    bare (t.dropWhile p) = bare t := by
  have hfront : bare (t.takeWhile p) = [] :=
    bare_eq_nil fun c hc => hp c (List.mem_takeWhile_imp hc)
  calc bare (t.dropWhile p) = bare (t.takeWhile p) ++ bare (t.dropWhile p) := by
        rw [hfront, List.nil_append]
    _ = bare t := by rw [← bare_append, List.takeWhile_append_dropWhile]

theorem bare_reverse (t : Text) : bare t.reverse = (bare t).reverse := List.filter_reverse ..

theorem bare_strip (t : Text) : bare t.strip = bare t := by
  have hblank : ∀ c, isBlank c = true → isSilent c = true := fun c => isSilent_of_isBlank
  rw [Text.strip, Text.trim, Text.trimEnd, bare_reverse, bare_dropWhile hblank, bare_reverse,
    List.reverse_reverse, Text.trimStart, bare_dropWhile hblank]

end Bare

section Wording

variable {ls ks : List Text}

@[simp] theorem wording_nil : wording [] = [] := rfl

@[simp] theorem wording_append (ls ks : List Text) :
    wording (ls ++ ks) = wording ls ++ wording ks := by
  rw [wording, List.map_append, List.filter_append, wording, wording]

theorem wording_cons (l : Text) (ls : List Text) :
    wording (l :: ls) = wording [l] ++ wording ls :=
  wording_append [l] ls

theorem wording_congr (h : ls.map bare = ks.map bare) : wording ls = wording ks := by
  rw [wording, h, wording]

theorem wording_singleton_congr {l k : Text} (h : bare l = bare k) : wording [l] = wording [k] :=
  wording_congr (by rw [List.map_singleton, h, List.map_singleton])

theorem wording_map {f : Text → Text} (h : ∀ l ∈ ls, bare (f l) = bare l) :
    wording (ls.map f) = wording ls := by
  refine wording_congr ?_
  rw [List.map_map]
  exact List.map_congr_left h

theorem wording_of_bare_eq_nil (h : ∀ l ∈ ls, bare l = []) : wording ls = [] := by
  rw [wording, List.filter_eq_nil_iff]
  intro l hl
  obtain ⟨k, hk, rfl⟩ := List.mem_map.1 hl
  simp [h k hk]

theorem wording_of_isBlankText {l : Text} (h : l.isBlankText = true) : wording [l] = [] := by
  refine wording_of_bare_eq_nil fun k hk => ?_
  rw [List.mem_singleton.1 hk]
  exact bare_of_isBlankText h

/-- Blank lines can be dropped in front. -/
theorem wording_dropWhile_isBlankText (ls : List Text) :
    wording (ls.dropWhile Text.isBlankText) = wording ls := by
  have hfront : wording (ls.takeWhile Text.isBlankText) = [] :=
    wording_of_bare_eq_nil fun l hl => bare_of_isBlankText (List.mem_takeWhile_imp hl)
  calc wording (ls.dropWhile Text.isBlankText)
      = wording (ls.takeWhile Text.isBlankText) ++ wording (ls.dropWhile Text.isBlankText) := by
        rw [hfront, List.nil_append]
    _ = wording ls := by rw [← wording_append, List.takeWhile_append_dropWhile]

theorem wording_reverse (ls : List Text) : wording ls.reverse = (wording ls).reverse := by
  rw [wording, List.map_reverse, List.filter_reverse, wording]

end Wording

/-! ### What a block takes away from its lines -/

section Taken

variable {l : Text}

theorem bare_of_heading? {level : Nat} {title : Text} (h : heading? l = some (level, title)) :
    bare title = bare l := by
  have hhash : ∀ c, (decide (c = '#')) = true → isSilent c = true := by
    intro c hc
    rw [of_decide_eq_true hc]
    decide
  rw [← bare_dropWhile hhash l]
  simp only [heading?] at h
  split at h
  · cases h
  · split at h
    · next hrest =>
      obtain ⟨-, rfl⟩ := Prod.mk.inj (Option.some.inj h)
      rw [hrest]
    · next c t hrest =>
      split at h
      · next hc =>
        obtain ⟨-, rfl⟩ := Prod.mk.inj (Option.some.inj h)
        rw [hrest, bare_strip, bare_cons_of_silent (isSilent_of_isBlank hc)]
      · cases h

theorem bare_of_bullet? {text : Text} (h : bullet? l = some text) : bare text = bare l := by
  unfold bullet? at h
  split at h
  · next m c t =>
    split at h
    · next hmark =>
      obtain rfl := Option.some.inj h
      rw [Bool.and_eq_true, Bool.or_eq_true, decide_eq_true_eq, decide_eq_true_eq] at hmark
      have hm : isSilent m = true := by rcases hmark.1 with rfl | rfl <;> decide
      rw [bare_dropWhile fun c => isSilent_of_isBlank, bare_cons_of_silent hm,
        bare_cons_of_silent (isSilent_of_isBlank hmark.2)]
    · cases h
  · cases h

theorem bare_quotedText (h : isQuoted l = true) : bare (quotedText l) = bare l := by
  obtain ⟨t, rfl⟩ := List.isPrefixOf_iff_prefix.1 h
  rw [quotedText, bare_strip]
  exact (bare_cons_of_silent (by decide) t).symm

/-- An indentation is made of blanks. -/
theorem bare_drop_codeIndent (h : continuesCode l = true) :
    bare (l.drop codeIndent.length) = bare l := by
  rcases Bool.or_eq_true _ _ ▸ h with h | h
  · obtain ⟨t, rfl⟩ := List.isPrefixOf_iff_prefix.1 h
    rw [List.drop_left, bare_append, bare_of_isBlankText (t := codeIndent) (by decide),
      List.nil_append]
  · have hall := List.all_eq_true.1 h
    rw [bare_of_isBlankText h]
    exact bare_eq_nil fun c hc => isSilent_of_isBlank (hall c (List.drop_subset _ _ hc))

theorem wording_codeLines {ls : List Text} (h : ∀ l ∈ ls, continuesCode l = true) :
    wording (codeLines ls) = wording ls := by
  rw [codeLines, wording_reverse, wording_dropWhile_isBlankText, wording_reverse,
    List.reverse_reverse, wording_map fun l hl => bare_drop_codeIndent (h l hl)]

end Taken

/-! ### Lines that are no fences -/

section Fences

variable {l : Text} {ls : List Text}

/-- A line with a backtick in front is neither indented, quoted nor blank. -/
theorem exists_eq_of_isFence (h : isFence l = true) : ∃ t, l = Text.backtick :: t := by
  obtain ⟨t, rfl⟩ := List.isPrefixOf_iff_prefix.1 h
  exact ⟨_, rfl⟩

theorem isFence_of_continuesCode (h : continuesCode l = true) : isFence l = false := by
  rw [Bool.eq_false_iff]
  intro hf
  obtain ⟨t, rfl⟩ := exists_eq_of_isFence hf
  cases h

theorem isFence_of_isQuoted (h : isQuoted l = true) : isFence l = false := by
  rw [Bool.eq_false_iff]
  intro hf
  obtain ⟨t, rfl⟩ := exists_eq_of_isFence hf
  cases h

theorem isFence_of_continuesParagraph (h : continuesParagraph l = true) : isFence l = false := by
  simp only [continuesParagraph, opensBlock, Bool.and_eq_true, Bool.not_eq_true',
    Bool.or_eq_false_iff] at h
  exact h.2.1.1.1.1

theorem isFence_of_mem_splitFence {body rest : List Text} (h : splitFence ls = some (body, rest)) :
    (∀ l ∈ body, isFence l = false) ∧ ∃ l, isFence l = true ∧ ls = body ++ l :: rest := by
  induction ls generalizing body with
  | nil => cases h
  | cons l ls ih =>
    rw [splitFence] at h
    split at h
    · next hl =>
      obtain ⟨rfl, rfl⟩ := Prod.mk.inj (Option.some.inj h)
      exact ⟨fun k hk => absurd hk List.not_mem_nil, l, hl, rfl⟩
    · next hl =>
      obtain ⟨⟨b, r⟩, hr, h⟩ := Option.map_eq_some_iff.1 h
      obtain ⟨rfl, rfl⟩ := Prod.mk.inj h
      obtain ⟨hbody, k, hk, rfl⟩ := ih hr
      refine ⟨fun j hj => ?_, k, hk, rfl⟩
      rcases List.mem_cons.1 hj with rfl | hj
      · exact Bool.eq_false_iff.2 hl
      · exact hbody j hj

theorem filter_isFence_of_forall (h : ∀ l ∈ ls, isFence l = false) :
    ls.filter (!isFence ·) = ls :=
  List.filter_eq_self.2 fun l hl => by simp [h l hl]

/-- Lines that are no fences: a first one, those that go on with its block, and the others. -/
theorem filter_isFence_takeWhile {p : Text → Bool} (hl : isFence l = false)
    (hp : ∀ k, p k = true → isFence k = false) (ls : List Text) :
    (l :: ls).filter (!isFence ·) =
      l :: ls.takeWhile p ++ (ls.dropWhile p).filter (!isFence ·) := by
  have hbody : ∀ k ∈ ls.takeWhile p, isFence k = false := fun k hk =>
    hp k (List.mem_takeWhile_imp hk)
  have hls : ls.filter (!isFence ·) =
      ls.takeWhile p ++ (ls.dropWhile p).filter (!isFence ·) := by
    rw [← filter_isFence_of_forall hbody, ← List.filter_append, List.takeWhile_append_dropWhile]
  rw [List.filter_cons_of_pos (by simp [hl]), hls, List.cons_append]

end Fences

/-! ### Blocks -/

/-- The wording of a first block and of the blocks of the remaining lines. -/
theorem wording_cons_block {x : Except Fault (List Block)} {b : Block} {bs : List Block}
    (h : (b :: ·) <$> x = .ok bs) {front rest : List Text}
    (first : wording b.texts = wording front)
    (later : ∀ cs, x = .ok cs → wording (cs.flatMap Block.texts) = wording rest) :
    wording (bs.flatMap Block.texts) = wording (front ++ rest) := by
  obtain ⟨cs, hcs, rfl⟩ := Except.map_eq_ok_iff.1 h
  rw [List.flatMap_cons, wording_append, wording_append, first, later cs hcs]

/-- **The blocks have the wording of their lines.** -/
theorem wording_texts_of_blocks {n : Nat} {ls : List Text} {bs : List Block}
    (h : blocks n ls = .ok bs) :
    wording (bs.flatMap Block.texts) = wording (ls.filter (!isFence ·)) := by
  fun_induction blocks n ls generalizing bs with
  | case1 =>
    obtain rfl := Except.ok.inj h
    rfl
  | case2 n l ls hblank ih =>
    rw [ih h, List.filter_cons]
    split
    · rw [wording_cons l, wording_of_isBlankText hblank, List.nil_append]
    · rfl
  | case3 => cases h
  | case4 n l ls _ hfence body rest hsplit _ ih =>
    obtain ⟨hbody, k, hk, rfl⟩ := isFence_of_mem_splitFence hsplit
    have hkept : (l :: (body ++ k :: rest)).filter (!isFence ·) =
        body ++ rest.filter (!isFence ·) := by
      rw [List.filter_cons_of_neg (by simp [hfence]), List.filter_append,
        filter_isFence_of_forall hbody, List.filter_cons_of_neg (by simp [hk])]
    rw [hkept]
    exact wording_cons_block h rfl fun cs hcs => ih hcs
  | case5 => cases h
  | case6 n l ls _ hfence level title heq _ ih =>
    rw [List.filter_cons_of_pos (by simp [hfence])]
    have hfront : wording [title] = wording [l] := wording_singleton_congr (bare_of_heading? heq)
    exact wording_cons_block h hfront fun cs hcs => ih hcs
  | case7 n l ls _ hfence =>
    rename_i hindented body ih
    rw [filter_isFence_takeWhile (by simpa using hfence) fun k => isFence_of_continuesCode]
    refine wording_cons_block h (wording_codeLines ?_) fun cs hcs => ih hcs
    intro k hk
    rcases List.mem_cons.1 hk with rfl | hk
    · simp [continuesCode, hindented]
    · exact List.mem_takeWhile_imp hk
  | case8 n l ls _ hfence =>
    rename_i hquoted body ih
    rw [filter_isFence_takeWhile (by simpa using hfence) fun k => isFence_of_isQuoted]
    refine wording_cons_block h (wording_map fun k hk => bare_quotedText ?_) fun cs hcs => ih hcs
    rcases List.mem_cons.1 hk with rfl | hk
    · exact hquoted
    · exact List.mem_takeWhile_imp hk
  | case9 n l ls _ hfence _ _ _ text heq ih =>
    rw [List.filter_cons_of_pos (by simp [hfence])]
    have hfront : wording [text] = wording [l] := wording_singleton_congr (bare_of_bullet? heq)
    exact wording_cons_block h hfront fun cs hcs => ih hcs
  | case10 n l ls _ hfence =>
    rename_i ih
    rw [filter_isFence_takeWhile (by simpa using hfence) fun k => isFence_of_continuesParagraph]
    exact wording_cons_block h (wording_map fun k _ => bare_strip k) fun cs hcs => ih hcs

/-! ### Documents -/

/-- The lines of a text behind its title line, but those that open or close fenced code. -/
def textLines (t : Text) : List Text :=
  ((Text.lines (Text.normalizeReturns t)).dropWhile Text.isBlankText).tail.filter (!isFence ·)

/-- **A document has the wording of its text.** -/
theorem Document.wording_of_ofText {t : Text} {d : Document} (h : Document.ofText t = .ok d) :
    wording (d.blocks.flatMap Block.texts) = wording (textLines t) := by
  unfold Document.ofText Document.ofLines at h
  split at h
  · cases h
  · next l rest hrest =>
    obtain ⟨title, -, h⟩ := Except.bind_eq_ok_iff.1 h
    obtain ⟨body, hbody, h⟩ := Except.bind_eq_ok_iff.1 h
    obtain rfl := Except.ok.inj h
    rw [textLines, hrest, List.tail_cons]
    exact wording_texts_of_blocks hbody

end Markdown

end CommandManual
