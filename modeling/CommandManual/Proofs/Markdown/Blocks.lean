import CommandManual.Markdown.Document
import CommandManual.Proofs.Outcome
import CommandManual.Proofs.Text.Parts

/-!
# Where the blocks of a document come from

`Markdown.blocks` cuts lines into blocks in one recursion with ten ends. `Block.Arises` says in how
many ways a block can come out of it, one constructor for each, and `arises_of_mem_blocks` is the
only induction along the recursion. A property of all blocks is then shown by cases.

## Main definitions

* `Markdown.Block.texts`: the texts of a block.
* `Markdown.Block.Arises`: the ways in which a block comes from lines.

## Main results

* `Markdown.arises_of_mem_blocks`: every block comes from the lines in one of these ways.
* `Markdown.Block.Arises.subset`: the texts of a block are parts of lines.
* `Markdown.Document.ofLines_cons`: the document of a title line and the lines behind it.
* `Markdown.Document.ofLines_spec`: what a document has in it comes from its lines.
-/

namespace CommandManual

namespace Markdown

/-- The texts of a block. -/
def Block.texts : Block → List Text
  | .heading _ title => [title]
  | .code ls | .quote ls | .paragraph ls => ls
  | .bullet text => [text]

/-- The ways in which a block comes from some lines. -/
inductive Block.Arises (ls : List Text) : Block → Prop
  | heading {l : Text} {level : Nat} {title : Text} (mem : l ∈ ls)
      (eq : heading? l = some (level, title)) (titled : title ≠ []) :
      Arises ls (.heading level title)
  | fenced {body : List Text} (sub : body ⊆ ls) : Arises ls (.code body)
  | indented {body : List Text} (sub : body ⊆ ls) : Arises ls (.code (codeLines body))
  | quote {l : Text} {body : List Text} (sub : l :: body ⊆ ls) :
      Arises ls (.quote ((l :: body).map quotedText))
  | bullet {l text : Text} (mem : l ∈ ls) (eq : bullet? l = some text) : Arises ls (.bullet text)
  | paragraph {l : Text} {body : List Text} (sub : l :: body ⊆ ls) :
      Arises ls (.paragraph ((l :: body).map Text.strip))

variable {ls ks : List Text} {l : Text} {b : Block}

theorem Block.Arises.mono (h : Arises ls b) (hsub : ls ⊆ ks) : Arises ks b := by
  cases h with
  | heading mem eq titled => exact .heading (hsub mem) eq titled
  | fenced sub => exact .fenced (List.Subset.trans sub hsub)
  | indented sub => exact .indented (List.Subset.trans sub hsub)
  | quote sub => exact .quote (List.Subset.trans sub hsub)
  | bullet mem eq => exact .bullet (hsub mem) eq
  | paragraph sub => exact .paragraph (List.Subset.trans sub hsub)

/-! ### Cutting into blocks -/

theorem eq_append_of_splitFence {body rest : List Text} (h : splitFence ls = some (body, rest)) :
    ∃ l, ls = body ++ l :: rest := by
  induction ls generalizing body with
  | nil => cases h
  | cons l ls ih =>
    rw [splitFence] at h
    split at h
    · obtain ⟨rfl, rfl⟩ := Prod.mk.inj (Option.some.inj h)
      exact ⟨l, rfl⟩
    · obtain ⟨⟨b, r⟩, hr, h⟩ := Option.map_eq_some_iff.1 h
      obtain ⟨rfl, rfl⟩ := Prod.mk.inj h
      obtain ⟨k, rfl⟩ := ih hr
      exact ⟨k, rfl⟩

/-- The first block of some lines, and the blocks of the rest of them. -/
theorem forall_arises_cons {x : Except Fault (List Block)} {bs : List Block} (first : b.Arises ls)
    (h : (b :: ·) <$> x = .ok bs)
    (rest : ∀ cs, x = .ok cs → ∀ c ∈ cs, c.Arises ks) (hsub : ks ⊆ ls) :
    ∀ c ∈ bs, c.Arises ls := by
  obtain ⟨cs, hcs, rfl⟩ := Except.map_eq_ok_iff.1 h
  intro c hc
  rcases List.mem_cons.1 hc with rfl | hc
  · exact first
  · exact (rest cs hcs c hc).mono hsub

/-- **Every block comes from the lines** in one of the ways of `Arises`. -/
theorem arises_of_mem_blocks {n : Nat} {bs : List Block} (h : blocks n ls = .ok bs) :
    ∀ b ∈ bs, b.Arises ls := by
  fun_induction blocks n ls generalizing bs with
  | case1 =>
    obtain rfl := Except.ok.inj h
    exact fun b hb => absurd hb List.not_mem_nil
  | case2 n l ls _ ih => exact fun b hb => (ih h b hb).mono (List.subset_cons_self l ls)
  | case3 => cases h
  | case4 n l ls _ _ body rest hsplit _ ih =>
    obtain ⟨k, rfl⟩ := eq_append_of_splitFence hsplit
    refine forall_arises_cons (.fenced ?_) h (fun cs hcs => ih hcs) ?_
    · exact List.subset_cons_of_subset l (List.subset_append_left body _)
    · refine List.subset_cons_of_subset l (List.subset_append_of_subset_right body ?_)
      exact List.subset_cons_self k rest
  | case5 => cases h
  | case6 n l ls _ _ level title heq htitle ih =>
    refine forall_arises_cons (.heading (List.mem_cons_self ..) heq ?_) h (fun cs hcs => ih hcs)
      (List.subset_cons_self l ls)
    simpa using htitle
  | case7 n l ls =>
    rename_i ih
    refine forall_arises_cons (.indented ?_) h (fun cs hcs => ih hcs) ?_
    · exact List.cons_subset_cons l (List.takeWhile_sublist _).subset
    · exact List.subset_cons_of_subset l (List.dropWhile_sublist _).subset
  | case8 n l ls =>
    rename_i ih
    refine forall_arises_cons (.quote ?_) h (fun cs hcs => ih hcs) ?_
    · exact List.cons_subset_cons l (List.takeWhile_sublist _).subset
    · exact List.subset_cons_of_subset l (List.dropWhile_sublist _).subset
  | case9 n l ls _ _ _ _ _ text heq ih =>
    exact forall_arises_cons (.bullet (List.mem_cons_self ..) heq) h (fun cs hcs => ih hcs)
      (List.subset_cons_self l ls)
  | case10 n l ls =>
    rename_i ih
    refine forall_arises_cons (.paragraph ?_) h (fun cs hcs => ih hcs) ?_
    · exact List.cons_subset_cons l (List.takeWhile_sublist _).subset
    · exact List.subset_cons_of_subset l (List.dropWhile_sublist _).subset

/-! ### The texts of a block -/

theorem subset_of_heading? {level : Nat} {title : Text} (h : heading? l = some (level, title)) :
    title ⊆ l := by
  simp only [heading?] at h
  split at h
  · cases h
  · split at h
    · cases h
      exact List.nil_subset _
    · next c t hrest =>
      split at h
      · cases h
        have hl : c :: t ⊆ l := hrest ▸ (List.dropWhile_sublist _).subset
        have ht : t ⊆ l := List.Subset.trans (List.subset_cons_self c t) hl
        exact List.Subset.trans (Text.strip_subset t) ht
      · cases h

theorem subset_of_bullet? {text : Text} (h : bullet? l = some text) : text ⊆ l := by
  unfold bullet? at h
  split at h
  · next m c t =>
    split at h
    · obtain rfl := Option.some.inj h
      have ht : t ⊆ m :: c :: t := List.subset_cons_of_subset m (List.subset_cons_self c t)
      exact List.Subset.trans (List.dropWhile_sublist _).subset ht
    · cases h
  · cases h

/-- A literal line is the end of a line. -/
theorem exists_drop_of_mem_codeLines {body : List Text} {t : Text} (h : t ∈ codeLines body) :
    ∃ l ∈ body, t = l.drop codeIndent.length := by
  rw [codeLines, List.mem_reverse] at h
  have hmem := (List.dropWhile_sublist _).subset h
  rw [List.mem_reverse] at hmem
  obtain ⟨l, hl, ht⟩ := List.mem_map.1 hmem
  exact ⟨l, hl, ht.symm⟩

/-- **The texts of a block are parts of lines.** -/
theorem Block.Arises.subset (h : Arises ls b) {t : Text} (ht : t ∈ b.texts) : ∃ l ∈ ls, t ⊆ l := by
  cases h with
  | heading mem eq titled =>
    obtain rfl := List.mem_singleton.1 ht
    exact ⟨_, mem, subset_of_heading? eq⟩
  | fenced sub => exact ⟨t, sub ht, List.Subset.refl t⟩
  | indented sub =>
    obtain ⟨l, hl, rfl⟩ := exists_drop_of_mem_codeLines ht
    exact ⟨l, sub hl, List.drop_subset _ l⟩
  | quote sub =>
    obtain ⟨l, hl, rfl⟩ := List.mem_map.1 ht
    exact ⟨l, sub hl, List.Subset.trans (Text.strip_subset _) (List.drop_subset 1 l)⟩
  | bullet mem eq =>
    obtain rfl := List.mem_singleton.1 ht
    exact ⟨_, mem, subset_of_bullet? eq⟩
  | paragraph sub =>
    obtain ⟨l, hl, rfl⟩ := List.mem_map.1 ht
    exact ⟨l, sub hl, Text.strip_subset l⟩

/-! ### Documents -/

/-- The words of a title are parts of its line, but for the section that is not given. -/
theorem Title.subset_of_ofLine {title : Title} (h : Title.ofLine l = .ok title) :
    title.name ⊆ l ∧ title.manual ⊆ '1' :: l := by
  unfold Title.ofLine at h
  split at h
  · next t =>
    have hword (w : Text) (hw : w ∈ Text.words t) : w ⊆ '%' :: t :=
      List.subset_cons_of_subset '%' (Text.subset_of_mem_words hw)
    split at h
    · cases h
    · next name hwords =>
      cases h
      exact ⟨hword name (by simp [hwords]), by simp⟩
    · next name manual _ hwords =>
      cases h
      refine ⟨hword name (by simp [hwords]), ?_⟩
      exact List.subset_cons_of_subset '1' (hword manual (by simp [hwords]))
  · cases h

theorem Title.isBlankText_of_ofLine {title : Title} (h : Title.ofLine l = .ok title) :
    l.isBlankText = false := by
  unfold Title.ofLine at h
  split at h
  · rfl
  · cases h

/-- A document whose first line is its title. -/
theorem Document.ofLines_cons {title : Title} (h : Title.ofLine l = .ok title) (ls : List Text) :
    Document.ofLines (l :: ls) = Document.mk title <$> Markdown.blocks 2 ls := by
  have hblank := Title.isBlankText_of_ofLine h
  have hnumber : (l :: ls).length - ls.length + 1 = 2 := by
    rw [List.length_cons]
    omega
  rw [Document.ofLines, List.dropWhile_cons_of_neg (by simp [hblank])]
  simp only [h, Except.ok_bind, hnumber]
  rfl

/-- **A document comes from its lines.** -/
theorem Document.ofLines_spec {d : Document} (h : Document.ofLines ls = .ok d) :
    (∃ l ∈ ls, Title.ofLine l = .ok d.title) ∧ ∀ b ∈ d.blocks, b.Arises ls := by
  unfold Document.ofLines at h
  split at h
  · cases h
  · next l rest hrest =>
    obtain ⟨title, htitle, h⟩ := Except.bind_eq_ok_iff.1 h
    obtain ⟨body, hbody, h⟩ := Except.bind_eq_ok_iff.1 h
    obtain rfl := Except.ok.inj h
    have hsub : l :: rest ⊆ ls := hrest ▸ (List.dropWhile_sublist _).subset
    refine ⟨⟨l, hsub (List.mem_cons_self ..), htitle⟩, fun b hb => ?_⟩
    have hrest : rest ⊆ ls := List.Subset.trans (List.subset_cons_self l rest) hsub
    exact (arises_of_mem_blocks hbody b hb).mono hrest

end Markdown

end CommandManual
