import CommandManual.Proofs.Markdown.Outline

/-!
# The first block of some lines

Lines are cut into blocks from the front: a block, and the blocks of the lines behind it. The
equations for the first block are stated once for each kind of block. They say what the beginning of
a line decides, without the order in which it is looked at.

## Main results

* `blocks_cons_of_isFence` and its companions: the first block of some lines and what is left.
* `blocks_of_blocks`: the number of the first line does not matter for the blocks.
* `blocks_of_continuesCode`: lines that are indented or blank are one block of code, if they are
  not all blank.
-/

namespace CommandManual

namespace Markdown

variable {l : Text} {ls ks : List Text} {bs : List Block} {n : Nat}

/-! ### The first block -/

theorem blocks_cons_of_isBlankText (h : l.isBlankText = true) (n : Nat) (ls : List Text) :
    blocks n (l :: ls) = blocks (n + 1) ls := by
  rw [blocks, if_pos h]

theorem isBlankText_of_isFence (h : isFence l = true) : l.isBlankText = false := by
  obtain ⟨t, rfl⟩ := exists_eq_of_isFence h
  rfl

theorem isBlankText_of_heading? {level : Nat} {title : Text}
    (h : heading? l = some (level, title)) : l.isBlankText = false := by
  obtain ⟨t, rfl⟩ := List.head?_eq_some_iff.1 (head?_of_heading? h)
  rfl

theorem isBlankText_of_isQuoted (h : isQuoted l = true) : l.isBlankText = false := by
  obtain ⟨t, rfl⟩ := List.isPrefixOf_iff_prefix.1 h
  rfl

theorem isIndented_of_isQuoted (h : isQuoted l = true) : isIndented l = false := by
  obtain ⟨t, rfl⟩ := List.isPrefixOf_iff_prefix.1 h
  rfl

theorem blocks_cons_of_isFence {body rest : List Text} (hl : isFence l = true)
    (h : splitFence ls = some (body, rest)) (n : Nat) :
    blocks n (l :: ls) = (Block.code body :: ·) <$> blocks (n + body.length + 2) rest := by
  rw [blocks, if_neg (by simp [isBlankText_of_isFence hl]), if_pos hl]
  split
  · next hnone => simp [h] at hnone
  · next body' rest' hsome =>
    obtain ⟨rfl, rfl⟩ := Prod.mk.inj (Option.some.inj (h.symm.trans hsome))
    rfl

theorem blocks_cons_of_heading? {level : Nat} {title : Text} (h : heading? l = some (level, title))
    (htitle : title.isEmpty = false) (n : Nat) (ls : List Text) :
    blocks n (l :: ls) = (Block.heading level title :: ·) <$> blocks (n + 1) ls := by
  rw [blocks, if_neg (by simp [isBlankText_of_heading? h]),
    if_neg (by simp [isFence_of_heading? h])]
  simp [h, htitle]

theorem blocks_cons_of_isIndented (hl : isIndented l = true) (hblank : l.isBlankText = false)
    (n : Nat) (ls : List Text) :
    blocks n (l :: ls) = (Block.code (codeLines (l :: ls.takeWhile continuesCode)) :: ·) <$>
      blocks (n + 1 + (ls.takeWhile continuesCode).length) (ls.dropWhile continuesCode) := by
  have hcontinues : continuesCode l = true := by simp [continuesCode, hl]
  have hnone := heading?_of_head?_ne (head?_ne_of_continuesCode hcontinues)
  rw [blocks, if_neg (by simp [hblank]), if_neg (by simp [isFence_of_continuesCode hcontinues])]
  simp [hnone, hl]

theorem blocks_cons_of_isQuoted (hl : isQuoted l = true) (n : Nat) (ls : List Text) :
    blocks n (l :: ls) = (Block.quote ((l :: ls.takeWhile isQuoted).map quotedText) :: ·) <$>
      blocks (n + 1 + (ls.takeWhile isQuoted).length) (ls.dropWhile isQuoted) := by
  have hnone := heading?_of_head?_ne (head?_ne_of_isQuoted hl)
  rw [blocks, if_neg (by simp [isBlankText_of_isQuoted hl]),
    if_neg (by simp [isFence_of_isQuoted hl])]
  simp [hnone, isIndented_of_isQuoted hl, hl]

theorem exists_cons_of_bullet? {text : Text} (h : bullet? l = some text) :
    ∃ m t, l = m :: t ∧ (m = '-' ∨ m = '*') := by
  unfold bullet? at h
  split at h
  · next m c t =>
    split at h
    · next hm =>
      rw [Bool.and_eq_true, Bool.or_eq_true, decide_eq_true_eq, decide_eq_true_eq] at hm
      exact ⟨m, c :: t, rfl, hm.1⟩
    · cases h
  · cases h

theorem blocks_cons_of_bullet? {text : Text} (h : bullet? l = some text) (n : Nat)
    (ls : List Text) : blocks n (l :: ls) = (Block.bullet text :: ·) <$> blocks (n + 1) ls := by
  obtain ⟨m, t, rfl, hm⟩ := exists_cons_of_bullet? h
  have hnone : heading? (m :: t) = none :=
    heading?_of_head?_ne (by rcases hm with rfl | rfl <;> simp)
  have hblank : Text.isBlankText (m :: t) = false := by rcases hm with rfl | rfl <;> rfl
  have hfence : isFence (m :: t) = false := by rcases hm with rfl | rfl <;> rfl
  have hindented : isIndented (m :: t) = false := by rcases hm with rfl | rfl <;> rfl
  have hquoted : isQuoted (m :: t) = false := by rcases hm with rfl | rfl <;> rfl
  rw [blocks, if_neg (by simp [hblank]), if_neg (by simp [hfence])]
  simp [hnone, hindented, hquoted, h]

theorem blocks_cons_of_continuesParagraph (hl : continuesParagraph l = true) (n : Nat)
    (ls : List Text) :
    blocks n (l :: ls) =
      (Block.paragraph ((l :: ls.takeWhile continuesParagraph).map Text.strip) :: ·) <$>
        blocks (n + 1 + (ls.takeWhile continuesParagraph).length)
          (ls.dropWhile continuesParagraph) := by
  simp only [continuesParagraph, opensBlock, Bool.and_eq_true, Bool.not_eq_true',
    Bool.or_eq_false_iff, Option.isSome_eq_false_iff, Option.isNone_iff_eq_none] at hl
  obtain ⟨hblank, ⟨⟨⟨hfence, hindented⟩, hquoted⟩, hheading⟩, hbullet⟩ := hl
  rw [blocks, if_neg (by simp [hblank]), if_neg (by simp [hfence])]
  simp [hheading, hindented, hquoted, hbullet]

/-! ### Line numbers -/

/-- **The number of the first line does not matter**, where no fault names it. -/
theorem blocks_of_blocks (h : blocks n ls = .ok bs) (m : Nat) : blocks m ls = .ok bs := by
  fun_induction blocks n ls generalizing bs m with
  | case1 => rw [blocks, ← h]
  | case2 n l ls hblank ih =>
    rw [blocks_cons_of_isBlankText hblank]
    exact ih h (m + 1)
  | case3 => cases h
  | case4 n l ls _ hfence body rest hsplit _ ih =>
    obtain ⟨cs, hcs, rfl⟩ := Except.map_eq_ok_iff.1 h
    rw [blocks_cons_of_isFence hfence hsplit, ih hcs]
    rfl
  | case5 => cases h
  | case6 n l ls _ _ level title heq htitle ih =>
    obtain ⟨cs, hcs, rfl⟩ := Except.map_eq_ok_iff.1 h
    rw [blocks_cons_of_heading? heq (by simpa using htitle), ih hcs]
    rfl
  | case7 n l ls hblank =>
    rename_i hindented body ih
    obtain ⟨cs, hcs, rfl⟩ := Except.map_eq_ok_iff.1 h
    rw [blocks_cons_of_isIndented hindented (by simpa using hblank), ih hcs]
    rfl
  | case8 n l ls =>
    rename_i hquoted body ih
    obtain ⟨cs, hcs, rfl⟩ := Except.map_eq_ok_iff.1 h
    rw [blocks_cons_of_isQuoted hquoted, ih hcs]
    rfl
  | case9 n l ls _ _ _ _ _ text heq ih =>
    obtain ⟨cs, hcs, rfl⟩ := Except.map_eq_ok_iff.1 h
    rw [blocks_cons_of_bullet? heq, ih hcs]
    rfl
  | case10 n l ls hblank hfence hheading hindented hquoted hbullet =>
    rename_i ih
    have hl : continuesParagraph l = true := by
      simp_all [continuesParagraph, opensBlock]
    obtain ⟨cs, hcs, rfl⟩ := Except.map_eq_ok_iff.1 h
    rw [blocks_cons_of_continuesParagraph hl, ih hcs]
    rfl

/-! ### Indented code -/

/-- Blank lines at the end of indented code are given up. -/
theorem codeLines_append (h : ∀ k ∈ ks, k.isBlankText = true) (ls : List Text) :
    codeLines (ls ++ ks) = codeLines ls := by
  have hend : ∀ k ∈ (ks.map (·.drop codeIndent.length)).reverse, Text.isBlankText k = true := by
    intro k hk
    obtain ⟨j, hj, rfl⟩ := List.mem_map.1 (List.mem_reverse.1 hk)
    exact List.all_eq_true.2 fun c hc =>
      List.all_eq_true.1 (h j hj) c (List.drop_subset _ j hc)
  rw [codeLines, List.map_append, List.reverse_append, List.dropWhile_append_of_pos hend, codeLines]

/-- Blank lines in front of a block are counted and nothing else. -/
theorem blocks_dropWhile_isBlankText (n : Nat) (ks : List Text) :
    blocks (n + (ks.takeWhile Text.isBlankText).length) (ks.dropWhile Text.isBlankText) =
      blocks n ks := by
  induction ks generalizing n with
  | nil => rfl
  | cons k ks ih =>
    by_cases hblank : k.isBlankText = true
    · rw [List.takeWhile_cons_of_pos hblank, List.dropWhile_cons_of_pos hblank,
        blocks_cons_of_isBlankText hblank, ← ih (n + 1), List.length_cons, Nat.add_assoc,
        Nat.add_comm 1]
    · rw [List.takeWhile_cons_of_neg hblank, List.dropWhile_cons_of_neg hblank]
      rfl

/-- **Indented and blank lines make up one block of code**, which begins at the first line that is
not blank. -/
theorem blocks_of_continuesCode (h : ∀ l ∈ ls, continuesCode l = true) (n : Nat) :
    blocks n ls = .ok (match ls.dropWhile Text.isBlankText with
      | [] => []
      | k :: ks => [.code (codeLines (k :: ks))]) := by
  rw [← blocks_dropWhile_isBlankText]
  cases hrest : ls.dropWhile Text.isBlankText with
  | nil => rw [blocks]
  | cons k ks =>
    have hsub : k :: ks ⊆ ls := hrest ▸ (List.dropWhile_sublist _).subset
    have hblank : Text.isBlankText k = false := by
      have hhead := List.head_dropWhile_not Text.isBlankText (hrest ▸ List.cons_ne_nil k ks)
      simpa only [hrest, List.head_cons] using hhead
    have hk := h k (hsub (List.mem_cons_self ..))
    have hindented : isIndented k = true := by simpa [continuesCode, hblank] using hk
    have hks (j : Text) (hj : j ∈ ks) : continuesCode j = true :=
      h j (hsub (List.mem_cons_of_mem k hj))
    rw [blocks_cons_of_isIndented hindented hblank, List.takeWhile_eq_self_iff.2 hks,
      List.dropWhile_eq_nil_iff.2 hks, blocks]
    rfl

end Markdown

end CommandManual
