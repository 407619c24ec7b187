import CommandManual.Proofs.Markdown.Wording
import CommandManual.Proofs.Text.Lines

/-!
# The headings of a document

Which headings a document has can be read off its lines: they are the heading lines that stand
outside fenced code. No other block takes a heading line or the line of a fence into itself, so that
the blocks of the lines have the headings of the lines, provided that every fence is closed and
every heading has a text (`Outlined.exists_blocks`).

A document is put together of pieces, and outlines are joined as the pieces are. Free text in a
piece adds nothing to the outline if none of its lines begins like a heading or a fence (`IsPlain`).
Two plain texts can make up a fence only where one begins and the other ends with a backtick.

## Main definitions

* `Outlined`: lines that have given headings.
* `IsPlain`: a text no line of which begins like a heading or a fence.
* `Outlines`: a text of whole lines that have given headings.

## Main results

* `Outlined.exists_blocks`: lines with an outline are cut into blocks with these headings.
* `IsPlain.append`: two plain texts in a row are plain.
-/

namespace CommandManual

namespace Markdown

/-- The headings of lines, those in fenced code left out; every fence is closed. -/
inductive Outlined : List Text → List (Nat × Text) → Prop
  | nil : Outlined [] []
  | plain {l : Text} {ls : List Text} {hs : List (Nat × Text)} (fence : isFence l = false)
      (none : heading? l = none) (rest : Outlined ls hs) : Outlined (l :: ls) hs
  | heading {l title : Text} {level : Nat} {ls : List Text} {hs : List (Nat × Text)}
      (some : heading? l = some (level, title)) (inked : title ≠ []) (rest : Outlined ls hs) :
      Outlined (l :: ls) ((level, title) :: hs)
  | fenced {l k : Text} {body ls : List Text} {hs : List (Nat × Text)} (opening : isFence l = true)
      (inside : ∀ m ∈ body, isFence m = false) (closing : isFence k = true)
      (rest : Outlined ls hs) : Outlined (l :: (body ++ k :: ls)) hs

/-- The heading that a block is. -/
def Block.heading? : Block → Option (Nat × Text)
  | .heading level title => some (level, title)
  | _ => none

/-! ### The beginning of a line -/

section Lines

variable {l t : Text} {c : Char}

theorem heading?_of_head?_ne (h : l.head? ≠ some '#') : heading? l = none := by
  have hhashes : l.takeWhile (· = '#') = [] := by
    cases l with
    | nil => rfl
    | cons c l => exact List.takeWhile_cons_of_neg (by simpa using h)
  simp [heading?, hhashes]

theorem head?_of_heading? {level : Nat} (h : heading? l = some (level, t)) :
    l.head? = some '#' := by
  refine Decidable.byContradiction fun hne => ?_
  rw [heading?_of_head?_ne hne] at h
  cases h

theorem isFence_of_head?_ne (h : l.head? ≠ some Text.backtick) : isFence l = false := by
  rw [Bool.eq_false_iff]
  intro hf
  obtain ⟨t, rfl⟩ := exists_eq_of_isFence hf
  exact h rfl

theorem isFence_of_heading? {level : Nat} (h : heading? l = some (level, t)) : isFence l = false :=
  isFence_of_head?_ne (by rw [head?_of_heading? h]; decide)

theorem head?_ne_of_continuesCode (h : continuesCode l = true) : l.head? ≠ some '#' := by
  intro hl
  obtain ⟨t, rfl⟩ := List.head?_eq_some_iff.1 hl
  cases h

theorem head?_ne_of_isQuoted (h : isQuoted l = true) : l.head? ≠ some '#' := by
  intro hl
  obtain ⟨t, rfl⟩ := List.head?_eq_some_iff.1 hl
  cases h

theorem heading?_of_continuesParagraph (h : continuesParagraph l = true) : heading? l = none := by
  simp only [continuesParagraph, opensBlock, Bool.and_eq_true, Bool.not_eq_true',
    Bool.or_eq_false_iff] at h
  simpa using h.2.1.2

/-- A character behind a line is no part of a mark in front that does not have it. -/
theorem startsWith_append_singleton {mark : Text} (hc : c ∉ mark) :
    (l ++ [c]).startsWith mark = l.startsWith mark := by
  have hiff : mark <+: l ++ [c] ↔ mark <+: l := by
    rw [List.prefix_concat_iff]
    exact or_iff_right fun h => hc (h ▸ List.mem_append_right l (List.mem_singleton_self c))
  rw [Bool.eq_iff_iff, Text.startsWith, Text.startsWith, List.isPrefixOf_iff_prefix,
    List.isPrefixOf_iff_prefix, hiff]

/-- A blank at the end of a line does not change its heading. -/
theorem heading?_append_singleton (hc : isBlank c = true) : heading? (l ++ [c]) = heading? l := by
  have hne : c ≠ '#' := by
    rintro rfl
    cases hc
  have hhashes : (l ++ [c]).takeWhile (· = '#') = l.takeWhile (· = '#') := by
    rw [List.takeWhile_append]
    split
    · next h =>
      rw [List.takeWhile_cons_of_neg (by simpa using hne), List.append_nil]
      exact ((List.takeWhile_prefix _).eq_of_length h).symm
    · rfl
  have hrest : (l ++ [c]).dropWhile (· = '#') = l.dropWhile (· = '#') ++ [c] := by
    rw [List.dropWhile_append]
    split
    · next h => rw [List.isEmpty_iff.1 h, List.dropWhile_cons_of_neg (by simpa using hne)]; rfl
    · rfl
  simp only [heading?, hhashes, hrest]
  cases l.dropWhile (· = '#') with
  | nil => simp [hc, Text.strip]
  | cons d t => simp [Text.strip_append_singleton hc]

theorem withoutReturn_eq (l : Text) :
    Text.withoutReturn l = l ∨ ∃ t, l = t ++ ['\r'] ∧ Text.withoutReturn l = t := by
  rcases List.eq_nil_or_concat l with rfl | ⟨t, c, rfl⟩
  · exact .inl rfl
  · rw [List.concat_eq_append, Text.withoutReturn_append_singleton]
    split
    · next hc => exact .inr ⟨t, by rw [hc], rfl⟩
    · exact .inl rfl

theorem isFence_withoutReturn (l : Text) : isFence (Text.withoutReturn l) = isFence l := by
  rcases withoutReturn_eq l with h | ⟨t, rfl, h⟩
  · rw [h]
  · rw [h]
    exact (startsWith_append_singleton (by decide)).symm

theorem isIndented_withoutReturn (l : Text) :
    isIndented (Text.withoutReturn l) = isIndented l := by
  rcases withoutReturn_eq l with h | ⟨t, rfl, h⟩
  · rw [h]
  · rw [h]
    exact (startsWith_append_singleton (by decide)).symm

theorem isBlankText_withoutReturn (l : Text) :
    Text.isBlankText (Text.withoutReturn l) = Text.isBlankText l := by
  rcases withoutReturn_eq l with h | ⟨t, rfl, h⟩
  · rw [h]
  · rw [h, Text.isBlankText, Text.isBlankText, List.all_append]
    exact (Bool.and_true _).symm

theorem heading?_withoutReturn (l : Text) : heading? (Text.withoutReturn l) = heading? l := by
  rcases withoutReturn_eq l with h | ⟨t, rfl, h⟩
  · rw [h]
  · rw [h, heading?_append_singleton (by decide)]

end Lines

namespace Outlined

variable {ls ms : List Text} {hs gs : List (Nat × Text)}

theorem append (h : Outlined ls hs) (hm : Outlined ms gs) : Outlined (ls ++ ms) (hs ++ gs) := by
  induction h with
  | nil => exact hm
  | plain fence none _ ih => exact .plain fence none ih
  | heading some inked _ ih => exact .heading some inked ih
  | fenced opening inside closing _ ih =>
    have hall := Outlined.fenced opening inside closing ih
    simpa using hall

/-- Lines that go on with a block are neither headings nor fences, so that leaving them out does not
change the outline. -/
theorem dropWhile (h : Outlined ls hs) {p : Text → Bool}
    (hp : ∀ l, p l = true → isFence l = false ∧ heading? l = none) :
    Outlined (ls.dropWhile p) hs := by
  induction h with
  | nil => exact nil
  | @plain l ls hs fence none rest ih =>
    rw [List.dropWhile_cons]
    split
    · exact ih
    · exact .plain fence none rest
  | @heading l title level ls hs some inked rest ih =>
    rw [List.dropWhile_cons_of_neg fun hl => by simp [(hp l hl).2] at some]
    exact .heading some inked rest
  | @fenced l k body ls hs opening inside closing rest ih =>
    rw [List.dropWhile_cons_of_neg fun hl => by simp [(hp l hl).1] at opening]
    exact .fenced opening inside closing rest

/-- A carriage return at the end of a line does not change the outline. -/
theorem map_withoutReturn (h : Outlined ls hs) : Outlined (ls.map Text.withoutReturn) hs := by
  induction h with
  | nil => exact .nil
  | @plain l _ _ fence none _ ih =>
    exact .plain (by rwa [isFence_withoutReturn]) (by rwa [heading?_withoutReturn]) ih
  | @heading l _ _ _ _ some inked _ ih =>
    exact .heading (by rwa [heading?_withoutReturn]) inked ih
  | @fenced l k body _ _ opening inside closing _ ih =>
    rw [List.map_cons, List.map_append, List.map_cons]
    refine .fenced (by rwa [isFence_withoutReturn]) (fun m hm => ?_)
      (by rwa [isFence_withoutReturn]) ih
    obtain ⟨n, hn, rfl⟩ := List.mem_map.1 hm
    rw [isFence_withoutReturn]
    exact inside n hn

theorem splitFence_append {body rest : List Text} {k : Text} (hbody : ∀ m ∈ body, isFence m = false)
    (hk : isFence k = true) : splitFence (body ++ k :: rest) = some (body, rest) := by
  induction body with
  | nil => rw [List.nil_append, splitFence, if_pos hk]
  | cons l body ih =>
    have hl := hbody l (List.mem_cons_self ..)
    rw [List.cons_append, splitFence, if_neg (by simp [hl]),
      ih fun m hm => hbody m (List.mem_cons_of_mem l hm)]
    rfl

/-! What an outline says of the line in front. -/

variable {l : Text}

theorem tail_of_plain (h : Outlined (l :: ls) hs) (fence : isFence l = false)
    (none : heading? l = none) : Outlined ls hs := by
  cases h with
  | plain _ _ rest => exact rest
  | heading some => simp [none] at some
  | fenced opening => simp [fence] at opening

theorem tail_of_heading {level : Nat} {title : Text} (h : Outlined (l :: ls) hs)
    (some : heading? l = some (level, title)) :
    ∃ gs, hs = (level, title) :: gs ∧ title ≠ [] ∧ Outlined ls gs := by
  cases h with
  | plain _ none => simp [none] at some
  | heading other inked rest =>
    obtain ⟨rfl, rfl⟩ := Prod.mk.inj (Option.some.inj (other.symm.trans some))
    exact ⟨_, rfl, inked, rest⟩
  | fenced opening => simp [isFence_of_heading? some] at opening

theorem tail_of_fence (h : Outlined (l :: ls) hs) (fence : isFence l = true) :
    ∃ body rest, splitFence ls = some (body, rest) ∧ Outlined rest hs := by
  cases h with
  | plain other => simp [fence] at other
  | heading some => simp [isFence_of_heading? some] at fence
  | fenced _ inside closing rest => exact ⟨_, _, splitFence_append inside closing, rest⟩

/-- A block that is no heading does not change the headings of the blocks behind it. -/
theorem exists_cons_block {x : Except Fault (List Block)} {b : Block} (hb : b.heading? = none)
    (h : ∃ bs, x = .ok bs ∧ bs.filterMap Block.heading? = hs) :
    ∃ bs, (b :: ·) <$> x = .ok bs ∧ bs.filterMap Block.heading? = hs := by
  obtain ⟨bs, rfl, rfl⟩ := h
  exact ⟨b :: bs, rfl, List.filterMap_cons_none hb⟩

/-- **Lines with an outline are cut into blocks with these headings.** -/
theorem exists_blocks (h : Outlined ls hs) (n : Nat) :
    ∃ bs, blocks n ls = .ok bs ∧ bs.filterMap Block.heading? = hs := by
  fun_induction blocks n ls generalizing hs with
  | case1 =>
    cases h
    exact ⟨[], rfl, rfl⟩
  | case2 n l ls hblank ih =>
    have hcontinues : continuesCode l = true := by simp [continuesCode, hblank]
    exact ih (h.tail_of_plain (isFence_of_continuesCode hcontinues)
      (heading?_of_head?_ne (head?_ne_of_continuesCode hcontinues)))
  | case3 n l ls _ hfence hsplit =>
    obtain ⟨body, rest, hbody, -⟩ := h.tail_of_fence hfence
    simp [hsplit] at hbody
  | case4 n l ls _ hfence body rest hsplit _ ih =>
    obtain ⟨body', rest', hbody, hrest⟩ := h.tail_of_fence hfence
    obtain ⟨rfl, rfl⟩ := Prod.mk.inj (Option.some.inj (hbody.symm.trans hsplit))
    exact exists_cons_block rfl (ih hrest)
  | case5 n l ls _ _ level title heq hempty =>
    obtain ⟨gs, rfl, hne, -⟩ := h.tail_of_heading heq
    exact absurd (List.isEmpty_iff.1 hempty) hne
  | case6 n l ls _ hfence level title heq _ ih =>
    obtain ⟨gs, rfl, -, hrest⟩ := h.tail_of_heading heq
    obtain ⟨bs, hbs, rfl⟩ := ih hrest
    exact ⟨.heading level title :: bs, by rw [hbs]; rfl, rfl⟩
  | case7 n l ls _ hfence heq =>
    rename_i ih
    have hrest := h.tail_of_plain (by simpa using hfence) heq
    exact exists_cons_block rfl (ih (hrest.dropWhile fun k hk =>
      ⟨isFence_of_continuesCode hk, heading?_of_head?_ne (head?_ne_of_continuesCode hk)⟩))
  | case8 n l ls _ hfence heq =>
    rename_i ih
    have hrest := h.tail_of_plain (by simpa using hfence) heq
    exact exists_cons_block rfl (ih (hrest.dropWhile fun k hk =>
      ⟨isFence_of_isQuoted hk, heading?_of_head?_ne (head?_ne_of_isQuoted hk)⟩))
  | case9 n l ls _ hfence heq _ _ text _ ih =>
    exact exists_cons_block rfl (ih (h.tail_of_plain (by simpa using hfence) heq))
  | case10 n l ls _ hfence heq =>
    rename_i ih
    have hrest := h.tail_of_plain (by simpa using hfence) heq
    exact exists_cons_block rfl (ih (hrest.dropWhile fun k hk =>
      ⟨isFence_of_continuesParagraph hk, heading?_of_continuesParagraph hk⟩))

end Outlined

/-! ### Plain texts -/

/-- A line that begins neither like a heading nor like a fence. -/
structure IsPlainLine (l : Text) : Prop where
  hash : l.head? ≠ some '#'
  fence : isFence l = false

/-- No line of the text begins like a heading or a fence. -/
def IsPlain (t : Text) : Prop := ∀ l ∈ Text.lines t, IsPlainLine l

instance (l : Text) : Decidable (IsPlainLine l) :=
  decidable_of_iff (l.head? ≠ some '#' ∧ isFence l = false)
    ⟨fun h => ⟨h.1, h.2⟩, fun h => ⟨h.hash, h.fence⟩⟩

instance (t : Text) : Decidable (IsPlain t) :=
  inferInstanceAs (Decidable (∀ l ∈ Text.lines t, IsPlainLine l))

theorem IsPlainLine.of_head? {l : Text} (hash : l.head? ≠ some '#')
    (backtick : l.head? ≠ some Text.backtick) : IsPlainLine l :=
  ⟨hash, isFence_of_head?_ne backtick⟩

theorem isFence_iff {l : Text} :
    isFence l = true ↔ [Text.backtick, Text.backtick, Text.backtick] <+: l :=
  List.isPrefixOf_iff_prefix

/-- Two plain lines make up a plain line, unless they make up a fence. Of a first line that is
shorter than a fence everything has to be backticks then. -/
theorem IsPlainLine.append {l k : Text} (hl : IsPlainLine l) (hk : IsPlainLine k)
    (hmeet : l.getLast? ≠ some Text.backtick ∨ k.head? ≠ some Text.backtick) :
    IsPlainLine (l ++ k) := by
  have hbacktick {t : Text} (h : Text.backtick :: t <+: k) : k.head? = some Text.backtick := by
    obtain ⟨u, rfl⟩ := h
    rfl
  rcases l with _ | ⟨a, _ | ⟨b, _ | ⟨c, l⟩⟩⟩
  · exact hk
  · refine ⟨hl.hash, Bool.eq_false_iff.2 fun h => ?_⟩
    simp only [isFence_iff, List.cons_append, List.nil_append, List.cons_prefix_cons] at h
    exact hmeet.elim (· (by simp [h.1])) (· (hbacktick h.2))
  · refine ⟨hl.hash, Bool.eq_false_iff.2 fun h => ?_⟩
    simp only [isFence_iff, List.cons_append, List.nil_append, List.cons_prefix_cons] at h
    exact hmeet.elim (· (by simp [h.2.1])) (· (hbacktick h.2.2))
  · exact ⟨hl.hash, hl.fence⟩

theorem IsPlainLine.outlined {ls : List Text} (h : ∀ l ∈ ls, IsPlainLine l) : Outlined ls [] := by
  induction ls with
  | nil => exact .nil
  | cons l ls ih =>
    have hl := h l (List.mem_cons_self ..)
    exact .plain hl.fence (heading?_of_head?_ne hl.hash)
      (ih fun k hk => h k (List.mem_cons_of_mem l hk))

namespace IsPlain

variable {s t l : Text}

theorem of_line (hplain : '\n' ∉ l) (h : IsPlainLine l) : IsPlain l := by
  intro k hk
  rw [Text.lines_of_notMem hplain, List.mem_singleton] at hk
  exact hk ▸ h

theorem nil : IsPlain [] := of_line List.not_mem_nil ⟨by decide, by decide⟩

/-- **Two plain texts in a row are plain**, unless a fence is made where they meet. -/
theorem append (hs : IsPlain s) (ht : IsPlain t)
    (hmeet : s.getLast? ≠ some Text.backtick ∨ t.head? ≠ some Text.backtick) :
    IsPlain (s ++ t) := by
  obtain ⟨ls, l, k, ks, hls, hks, happend⟩ := Text.exists_lines_append s t
  have hjoined : IsPlainLine (l ++ k) := by
    refine (hs l (by simp [hls])).append (ht k (by simp [hks])) (hmeet.imp (mt fun h => ?_)
      (mt fun h => ?_))
    · rw [Text.eq_terminated_append_of_lines hls, List.getLast?_append, h]
      rfl
    · obtain ⟨u, hu⟩ := Text.isPrefix_of_lines hks
      rw [← hu, List.head?_append, h]
      rfl
  intro m hm
  rw [happend, List.mem_append, List.mem_cons] at hm
  rcases hm with hm | rfl | hm
  · exact hs m (by simp [hls, hm])
  · exact hjoined
  · exact ht m (by simp [hks, hm])

/-- A plain text stays plain between two others that meet it without a backtick. -/
theorem between {u : Text} (hs : IsPlain s) (ht : IsPlain t) (hu : IsPlain u)
    (hleft : s.getLast? ≠ some Text.backtick) (hright : u.head? ≠ some Text.backtick) :
    IsPlain (s ++ t ++ u) :=
  (hs.append ht (.inl hleft)).append hu (.inr hright)

/-- A character that is neither a hash nor a backtick keeps a text plain that it is put in front of.
-/
theorem cons {c : Char} (hash : c ≠ '#') (backtick : c ≠ Text.backtick) (newline : c ≠ '\n')
    (h : IsPlain t) : IsPlain (c :: t) := by
  have hc : IsPlain [c] := of_line (by simpa using newline.symm)
    (.of_head? (by simpa using hash) (by simpa using backtick))
  exact hc.append h (.inl (by simpa using backtick))

theorem commaList {ts : List Text} (h : ∀ t ∈ ts, IsPlain t) : IsPlain (Text.commaList ts) := by
  rw [Text.commaList]
  induction ts with
  | nil => exact nil
  | cons t ts ih =>
    have ht := h t (List.mem_cons_self ..)
    have hts := ih fun u hu => h u (List.mem_cons_of_mem t hu)
    cases ts with
    | nil => simpa using ht
    | cons u us =>
      have hsep : IsPlain ", ".toList := by decide
      rw [List.intercalate_cons_cons]
      refine (ht.append hsep (.inr (by decide))).append hts (.inl ?_)
      rw [List.getLast?_append]
      exact fun h => absurd (Option.some.inj h) (by decide)

end IsPlain

/-! ### Pieces of a document -/

/-- The text consists of whole lines that have these headings. -/
def Outlines (t : Text) (hs : List (Nat × Text)) : Prop := ∃ ls, t.HasLines ls ∧ Outlined ls hs

namespace Outlines

variable {s t l : Text} {hs gs : List (Nat × Text)}

theorem nil : Outlines [] [] := ⟨[], .nil, .nil⟩

theorem append (hs' : Outlines s hs) (ht : Outlines t gs) : Outlines (s ++ t) (hs ++ gs) := by
  obtain ⟨ls, hls, hsout⟩ := hs'
  obtain ⟨ms, hms, htout⟩ := ht
  exact ⟨ls ++ ms, hls.append hms, hsout.append htout⟩

theorem flatMap {α : Type} {xs : List α} {f : α → Text} {g : α → List (Nat × Text)}
    (h : ∀ x ∈ xs, Outlines (f x) (g x)) : Outlines (xs.flatMap f) (xs.flatMap g) := by
  induction xs with
  | nil => exact nil
  | cons x xs ih =>
    rw [List.flatMap_cons, List.flatMap_cons]
    exact (h x (List.mem_cons_self ..)).append (ih fun y hy => h y (List.mem_cons_of_mem x hy))

theorem flatMap_nil {α : Type} {xs : List α} {f : α → Text} (h : ∀ x ∈ xs, Outlines (f x) []) :
    Outlines (xs.flatMap f) [] := by
  have hall := flatMap h
  rwa [List.flatMap_eq_nil_iff.2 fun _ _ => rfl] at hall

/-- Free text that is plain has no headings. -/
theorem of_plain (h : IsPlain t) : Outlines (t ++ ['\n']) [] :=
  ⟨Text.lines t, .append_newline t, IsPlainLine.outlined h⟩

/-- Lines that are plain have no headings. -/
theorem of_lines {ls : List Text} (hlines : t.HasLines ls) (h : ∀ l ∈ ls, IsPlainLine l) :
    Outlines t [] :=
  ⟨ls, hlines, IsPlainLine.outlined h⟩

theorem newline_cons (h : Outlines t hs) : Outlines ('\n' :: t) hs := by
  obtain ⟨ls, hls, hout⟩ := h
  exact ⟨[] :: ls, hls.newline_cons, .plain rfl rfl hout⟩

/-- A heading in front of a piece. -/
theorem heading {level : Nat} {title : Text} (hl : '\n' ∉ l)
    (some : heading? l = some (level, title)) (inked : title ≠ []) (h : Outlines t hs) :
    Outlines (l ++ '\n' :: t) ((level, title) :: hs) := by
  obtain ⟨ls, hls, hout⟩ := h
  exact ⟨l :: ls, hls.line hl, .heading some inked hout⟩

/-- Fenced code in front of a piece. -/
theorem fenced {ls : List Text} (hbody : s.HasLines ls) (inside : ∀ l ∈ ls, isFence l = false)
    (h : Outlines t hs) : Outlines (fence ++ '\n' :: (s ++ (fence ++ '\n' :: t))) hs := by
  obtain ⟨ms, hms, hout⟩ := h
  have hplain : '\n' ∉ fence := by decide
  exact ⟨fence :: (ls ++ fence :: ms), (hbody.append (hms.line hplain)).line hplain,
    .fenced rfl inside rfl hout⟩

end Outlines

end Markdown

end CommandManual
