import CommandManual.Proofs.Markdown.FirstBlock

/-!
# Documents that are joined

Sections of a document are put together with a blank line between them. No block reaches over a
blank line, but for fenced code, which is closed, and indented code, which takes blank lines in and
gives them up at its end. So lines behind a blank line are cut as if they stood alone
(`blocks_append`), as long as they do not go on with indented code in front of it.

## Main results

* `blocks_append`: lines that are joined by a blank line.
* `Document.ofLines_append`: documents that are joined by a blank line.
-/

namespace CommandManual

namespace Markdown

variable {l : Text} {ls ks : List Text} {bs : List Block} {n : Nat}

/-! ### A blank line between -/

section Stops

variable {p : Text → Bool}

/-- A block that does not go on with a line takes from what is behind that line nothing. -/
theorem takeWhile_append_cons (hl : p l = false) (ls ks : List Text) :
    (ls ++ l :: ks).takeWhile p = ls.takeWhile p := by
  induction ls with
  | nil => exact List.takeWhile_cons_of_neg (by simp [hl])
  | cons k ls ih => rw [List.cons_append, List.takeWhile_cons, ih, List.takeWhile_cons]

theorem dropWhile_append_cons (hl : p l = false) (ls ks : List Text) :
    (ls ++ l :: ks).dropWhile p = ls.dropWhile p ++ l :: ks := by
  induction ls with
  | nil => exact List.dropWhile_cons_of_neg (by simp [hl])
  | cons k ls ih =>
    rw [List.cons_append, List.dropWhile_cons, ih, List.dropWhile_cons]
    split <;> rfl

theorem length_takeWhile_add_length_dropWhile (p : Text → Bool) (ls : List Text) :
    (ls.takeWhile p).length + (ls.dropWhile p).length = ls.length := by
  rw [← List.length_append, List.takeWhile_append_dropWhile]

end Stops

theorem splitFence_append {body rest : List Text} (h : splitFence ls = some (body, rest))
    (ks : List Text) : splitFence (ls ++ ks) = some (body, rest ++ ks) := by
  obtain ⟨hbody, k, hk, rfl⟩ := isFence_of_mem_splitFence h
  rw [List.append_assoc, List.cons_append]
  exact Outlined.splitFence_append hbody hk

/-- Lines that do not begin with indented code go on with it only as far as they are blank. -/
theorem span_continuesCode (h : ∀ k ∈ ks.find? Text.hasInk, isIndented k = false) :
    ks.takeWhile continuesCode = ks.takeWhile Text.isBlankText ∧
      ks.dropWhile continuesCode = ks.dropWhile Text.isBlankText := by
  induction ks with
  | nil => exact ⟨rfl, rfl⟩
  | cons k ks ih =>
    by_cases hblank : k.isBlankText = true
    · have hcontinues : continuesCode k = true := by simp [continuesCode, hblank]
      have hks := ih (by simpa [List.find?_cons, Text.hasInk, hblank] using h)
      simp only [List.takeWhile_cons, List.dropWhile_cons, hcontinues, hblank, if_true, hks,
        and_self]
    · have hindented : isIndented k = false := h k (by simp [Text.hasInk, hblank])
      have hcontinues : continuesCode k = false := by simp [continuesCode, hblank, hindented]
      simp [hcontinues, hblank]

/-- Indented code that goes on to a blank line takes it in, and what is blank behind it, and gives
all of it up. -/
theorem blocks_append_of_continuesCode (hl : isIndented l = true) (hblank : l.isBlankText = false)
    (hls : ∀ k ∈ ls, continuesCode k = true)
    (hks : ∀ k ∈ ks.find? Text.hasInk, isIndented k = false) (n : Nat) :
    blocks n (l :: (ls ++ [] :: ks)) =
      (Block.code (codeLines (l :: ls)) :: ·) <$> blocks (n + (l :: ls).length + 1) ks := by
  obtain ⟨htake, hdrop⟩ := span_continuesCode hks
  have hends : ∀ k ∈ [] :: ks.takeWhile Text.isBlankText, Text.isBlankText k = true := by
    intro k hk
    rcases List.mem_cons.1 hk with rfl | hk
    · rfl
    · exact List.mem_takeWhile_imp hk
  have hcode : codeLines (l :: (ls ++ [] :: ks.takeWhile Text.isBlankText)) = codeLines (l :: ls) :=
    codeLines_append hends (l :: ls)
  rw [blocks_cons_of_isIndented hl hblank, List.takeWhile_append_of_pos hls,
    List.dropWhile_append_of_pos hls, List.takeWhile_cons_of_pos rfl,
    List.dropWhile_cons_of_pos rfl, htake, hdrop, hcode,
    ← blocks_dropWhile_isBlankText (n + (l :: ls).length + 1)]
  congr 2
  simp only [List.length_append, List.length_cons]
  omega

/-- **Lines behind a blank line are cut as if they stood alone**, if they do not begin with indented
code. The induction is on the cut of the lines in front. -/
theorem blocks_append (h : blocks n ls = .ok bs)
    (hks : ∀ k ∈ ks.find? Text.hasInk, isIndented k = false) :
    blocks n (ls ++ [] :: ks) = (bs ++ ·) <$> blocks (n + ls.length + 1) ks := by
  -- A first block, and what is behind it.
  have hcons (b : Block) (cs : List Block) (x : Except Fault (List Block)) :
      (b :: ·) <$> ((cs ++ ·) <$> x) = ((b :: cs) ++ ·) <$> x := by cases x <;> rfl
  fun_induction blocks n ls generalizing bs with
  | case1 n =>
    obtain rfl := Except.ok.inj h
    rw [List.nil_append, blocks_cons_of_isBlankText rfl]
    cases blocks (n + 1) ks <;> rfl
  | case2 n l ls hblank ih =>
    rw [List.cons_append, blocks_cons_of_isBlankText hblank, ih h, List.length_cons,
      Nat.add_right_comm n 1]
    rfl
  | case3 => cases h
  | case4 n l ls _ hfence body rest hsplit _ ih =>
    obtain ⟨cs, hcs, rfl⟩ := Except.map_eq_ok_iff.1 h
    have hlength := length_of_splitFence hsplit
    rw [List.cons_append, blocks_cons_of_isFence hfence (splitFence_append hsplit _), ih hcs,
      hcons, List.length_cons]
    congr 2
    omega
  | case5 => cases h
  | case6 n l ls _ _ level title heq htitle ih =>
    obtain ⟨cs, hcs, rfl⟩ := Except.map_eq_ok_iff.1 h
    rw [List.cons_append, blocks_cons_of_heading? heq (by simpa using htitle), ih hcs, hcons,
      List.length_cons, Nat.add_right_comm n 1]
    rfl
  | case7 n l ls hblank =>
    rename_i hindented body ih
    obtain ⟨cs, hcs, rfl⟩ := Except.map_eq_ok_iff.1 h
    have hlength := length_takeWhile_add_length_dropWhile continuesCode ls
    by_cases hrest : ls.dropWhile continuesCode = []
    · have hall := List.dropWhile_eq_nil_iff.1 hrest
      have hbody : body = ls := List.takeWhile_eq_self_iff.2 hall
      obtain rfl : cs = [] := by
        rw [hrest, blocks] at hcs
        exact (Except.ok.inj hcs).symm
      rw [List.cons_append, hbody,
        blocks_append_of_continuesCode hindented (by simpa using hblank) hall hks]
      rfl
    · have hshort : ¬ (ls.takeWhile continuesCode).length = ls.length := by
        have := List.length_pos_iff.2 hrest
        omega
      rw [List.cons_append, blocks_cons_of_isIndented hindented (by simpa using hblank),
        List.takeWhile_append, if_neg hshort, List.dropWhile_append,
        if_neg (by simpa using hrest), ih hcs, hcons]
      have hbody : body.length = (ls.takeWhile continuesCode).length := rfl
      congr 2
      rw [List.length_cons]
      omega
  | case8 n l ls =>
    rename_i hquoted body ih
    obtain ⟨cs, hcs, rfl⟩ := Except.map_eq_ok_iff.1 h
    rw [List.cons_append, blocks_cons_of_isQuoted hquoted, takeWhile_append_cons rfl,
      dropWhile_append_cons rfl, ih hcs, hcons]
    have hlength := length_takeWhile_add_length_dropWhile isQuoted ls
    have hbody : body.length = (ls.takeWhile isQuoted).length := rfl
    congr 2
    rw [List.length_cons]
    omega
  | case9 n l ls _ _ _ _ _ text heq ih =>
    obtain ⟨cs, hcs, rfl⟩ := Except.map_eq_ok_iff.1 h
    rw [List.cons_append, blocks_cons_of_bullet? heq, ih hcs, hcons, List.length_cons,
      Nat.add_right_comm n 1]
    rfl
  | case10 n l ls hblank hfence hheading hindented hquoted hbullet =>
    rename_i body ih
    have hl : continuesParagraph l = true := by
      simp_all [continuesParagraph, opensBlock]
    obtain ⟨cs, hcs, rfl⟩ := Except.map_eq_ok_iff.1 h
    rw [List.cons_append, blocks_cons_of_continuesParagraph hl, takeWhile_append_cons rfl,
      dropWhile_append_cons rfl, ih hcs, hcons]
    have hlength := length_takeWhile_add_length_dropWhile continuesParagraph ls
    have hbody : body.length = (ls.takeWhile continuesParagraph).length := rfl
    congr 2
    rw [List.length_cons]
    omega

/-! ### Documents -/

/-- **Documents are joined by a blank line**: what is behind it adds its blocks, if it does not
begin with indented code. -/
theorem Document.ofLines_append {d : Document} (h : Document.ofLines ls = .ok d)
    (hks : ∀ k ∈ ks.find? Text.hasInk, isIndented k = false) :
    Document.ofLines (ls ++ [] :: ks) =
      (fun bs => ⟨d.title, d.blocks ++ bs⟩) <$> Markdown.blocks (ls.length + 2) ks := by
  unfold Document.ofLines at h
  split at h
  · cases h
  · next l rest hrest =>
    obtain ⟨title, htitle, h⟩ := Except.bind_eq_ok_iff.1 h
    obtain ⟨body, hbody, h⟩ := Except.bind_eq_ok_iff.1 h
    obtain rfl := Except.ok.inj h
    have hle : (l :: rest).length ≤ ls.length := hrest ▸ (List.dropWhile_sublist _).length_le
    rw [List.length_cons] at hle
    have hdrop : (ls ++ [] :: ks).dropWhile Text.isBlankText = l :: (rest ++ [] :: ks) := by
      rw [List.dropWhile_append, if_neg (by simp [hrest]), hrest, List.cons_append]
    have hnumber : (ls ++ [] :: ks).length - (rest ++ [] :: ks).length + 1 =
        ls.length - rest.length + 1 := by
      simp only [List.length_append, List.length_cons]
      omega
    have hend : ls.length - rest.length + 1 + rest.length + 1 = ls.length + 2 := by omega
    simp only [Document.ofLines, hdrop, htitle, Except.ok_bind, hnumber, blocks_append hbody hks,
      hend]
    cases Markdown.blocks (ls.length + 2) ks <;> rfl

/-- Whether the first line that is not blank is indented does not depend on the spelling of line
ends. -/
theorem isIndented_of_find?_normalizeReturns {t : Text}
    (h : ∀ k ∈ (Text.lines t).find? Text.hasInk, isIndented k = false) :
    ∀ k ∈ (Text.lines (Text.normalizeReturns t)).find? Text.hasInk, isIndented k = false := by
  obtain ⟨ls, l, hl⟩ := List.eq_nil_or_concat (Text.lines t) |>.resolve_left (Text.lines_ne_nil t)
  rw [List.concat_eq_append] at hl
  have hink : Text.hasInk ∘ Text.withoutReturn = Text.hasInk :=
    funext fun k => congrArg _ (isBlankText_withoutReturn k)
  rw [hl, List.find?_append] at h
  rw [Text.lines_normalizeReturns_of_lines hl, List.find?_append, List.find?_map, hink]
  cases hfind : ls.find? Text.hasInk with
  | none => simpa [hfind] using h
  | some k => simpa [hfind, isIndented_withoutReturn] using h

end Markdown

end CommandManual
