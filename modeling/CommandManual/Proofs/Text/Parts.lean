import CommandManual.Text.Blank
import Mathlib.Data.List.DropRight
import Mathlib.Data.List.TakeWhile

/-!
# Parts of a text

Trimming a text and cutting it into words make up no characters. What is trimmed off stood at the
ends, so that what is left is a part of the text in one piece.

## Main definitions

* `Text.cutWord`: one character on the way from the end of a text through its words.

## Main results

* `Text.strip_subset`, `Text.subset_of_mem_words`.
* `Text.exists_append_trimEnd`: a text and what is trimmed off its end.
* `Text.trim_trim`: what is trimmed has no characters of the class at its ends.
* `Text.words_of_forall`: a word by itself.
* `Text.words_append_blank`: a blank stands between words.
-/

namespace CommandManual

namespace Text

/-- What holds of the characters of a text one by one. Not every way to decide it would go over the
text; some go over all characters that there are. -/
theorem forall_mem_of_all {p : Char → Prop} [DecidablePred p] {t : Text}
    (h : t.all (fun c => decide (p c)) = true) : ∀ c ∈ t, p c :=
  fun c hc => of_decide_eq_true (List.all_eq_true.1 h c hc)

theorem trimEnd_subset (p : Char → Bool) (t : Text) : trimEnd p t ⊆ t := by
  intro c hc
  exact List.mem_reverse.1 ((List.dropWhile_sublist p).subset (List.mem_reverse.1 hc))

theorem trim_subset (p : Char → Bool) (t : Text) : trim p t ⊆ t := by
  intro c hc
  exact (List.dropWhile_sublist p).subset (trimEnd_subset p _ hc)

theorem strip_subset (t : Text) : strip t ⊆ t := trim_subset isBlank t

theorem exists_append_trimEnd (p : Char → Bool) (t : Text) :
    ∃ tail, trimEnd p t ++ tail = t ∧ ∀ c ∈ tail, p c := by
  refine ⟨(t.reverse.takeWhile p).reverse, ?_, fun c hc => ?_⟩
  · rw [trimEnd, ← List.reverse_append, List.takeWhile_append_dropWhile, List.reverse_reverse]
  · exact List.mem_takeWhile_imp (List.mem_reverse.1 hc)

theorem trimEnd_isPrefix (p : Char → Bool) (t : Text) : trimEnd p t <+: t := by
  obtain ⟨tail, ht, -⟩ := exists_append_trimEnd p t
  exact ⟨tail, ht⟩

/-- What is trimmed does not begin with a character of the class. -/
theorem trimStart_trim (p : Char → Bool) (t : Text) : trimStart p (trim p t) = trim p t := by
  cases h : trim p t with
  | nil => rfl
  | cons c u =>
    obtain ⟨tail, htail, -⟩ := exists_append_trimEnd p (trimStart p t)
    have hcons : t.dropWhile p = c :: (u ++ tail) := by
      rw [← List.cons_append, ← h]
      exact htail.symm
    refine List.dropWhile_cons_of_neg fun hc => ?_
    have hne : t.dropWhile p ≠ [] := hcons ▸ List.cons_ne_nil _ _
    have hhead := List.head_dropWhile_not p hne
    simp only [hcons, List.head_cons] at hhead
    exact absurd hc (Bool.eq_false_iff.1 hhead)

/-- What is trimmed does not end in a character of the class. -/
theorem trimEnd_trim (p : Char → Bool) (t : Text) : trimEnd p (trim p t) = trim p t :=
  List.rdropWhile_idempotent p (trimStart p t)

theorem trim_trim (p : Char → Bool) (t : Text) : trim p (trim p t) = trim p t := by
  rw [trim, trimStart_trim, trimEnd_trim]

theorem trimEnd_append_singleton {p : Char → Bool} {c : Char} (hc : p c = true) (t : Text) :
    trimEnd p (t ++ [c]) = trimEnd p t := List.rdropWhile_concat_pos p t c hc

/-- A character of the class at the end of a text is trimmed off. -/
theorem trim_append_singleton {p : Char → Bool} {c : Char} (hc : p c = true) (t : Text) :
    trim p (t ++ [c]) = trim p t := by
  rw [trim, trimStart, trim, trimStart, List.dropWhile_append]
  split
  · next ht =>
    rw [List.isEmpty_iff.1 ht, List.dropWhile_cons_of_pos hc, List.dropWhile_nil]
  · exact trimEnd_append_singleton hc _

theorem strip_strip (t : Text) : strip (strip t) = strip t := trim_trim isBlank t

/-- A blank at the end of a text is trimmed off. -/
theorem strip_append_singleton {c : Char} (hc : isBlank c = true) (t : Text) :
    strip (t ++ [c]) = strip t := trim_append_singleton hc t

/-- A text with anything but blanks in it has something left without its outer blanks. -/
theorem strip_ne_nil {t : Text} (h : hasInk t = true) : strip t ≠ [] := by
  intro hnil
  obtain ⟨tail, htail, hblank⟩ := exists_append_trimEnd isBlank (trimStart isBlank t)
  have hrest : ∀ c ∈ t.dropWhile isBlank, isBlank c = true := by
    have hall : strip t ++ tail = t.dropWhile isBlank := htail
    rw [← hall, hnil]
    exact hblank
  have hall : isBlankText t = true := by
    refine List.all_eq_true.2 fun c hc => ?_
    rw [← List.takeWhile_append_dropWhile (p := isBlank) (l := t)] at hc
    exact (List.mem_append.1 hc).elim List.mem_takeWhile_imp (hrest c)
  simp [hasInk, hall] at h

/-- Nothing is left of a text if and only if it is blank. -/
theorem strip_eq_nil_iff {t : Text} : strip t = [] ↔ hasInk t = false := by
  constructor
  · intro hnil
    by_contra hink
    exact strip_ne_nil (Bool.not_eq_false _ ▸ hink) hnil
  · intro hblank
    have hstart : trimStart isBlank t = [] :=
      List.dropWhile_eq_nil_iff.2 (by simpa [hasInk, isBlankText] using hblank)
    rw [strip, trim, hstart]
    rfl

/-- A text without blanks has none at its ends. -/
theorem strip_of_forall {t : Text} (h : ∀ c ∈ t, isBlank c = false) : strip t = t := by
  have hstart {u : Text} (hu : ∀ c ∈ u, isBlank c = false) : u.dropWhile isBlank = u := by
    cases u with
    | nil => rfl
    | cons c u => exact List.dropWhile_cons_of_neg (by simp [hu c List.mem_cons_self])
  have hreverse : ∀ c ∈ t.reverse, isBlank c = false := fun c hc => h c (List.mem_reverse.1 hc)
  rw [strip, trim, trimStart, hstart h, trimEnd, hstart hreverse, List.reverse_reverse]

theorem substitute_of_notMem {c : Char} {t : Text} (h : c ∉ t) (r : Text) :
    substitute c r t = t := by
  induction t with
  | nil => rfl
  | cons d t ih =>
    rw [substitute, List.flatMap_cons, if_neg (List.ne_of_not_mem_cons h).symm]
    exact congrArg _ (ih (List.not_mem_of_not_mem_cons h))

theorem subset_of_mem_words {t w : Text} (h : w ∈ words t) : w ⊆ t := by
  unfold words at h
  induction t generalizing w with
  | nil => exact absurd h List.not_mem_nil
  | cons c t ih =>
    have hlater (v : Text) (hv : v ⊆ t) : v ⊆ c :: t :=
      List.Subset.trans hv (List.subset_cons_self c t)
    rw [List.foldr_cons] at h
    generalize List.foldr _ _ t = found at h ih
    obtain ⟨outside, ws⟩ := found
    split at h
    · exact hlater w (ih h)
    · split at h
      · rcases List.mem_cons.1 h with rfl | h
        · simp
        · exact hlater w (ih h)
      · cases ws with
        | nil =>
          obtain rfl := List.mem_singleton.1 h
          simp
        | cons v ws =>
          rcases List.mem_cons.1 h with rfl | h
          · exact List.cons_subset_cons c (ih (List.mem_cons_self ..))
          · exact hlater w (ih (List.mem_cons_of_mem v h))

theorem subset_of_mem_splitOn {c : Char} {t part : Text} (h : part ∈ splitOn c t) : part ⊆ t := by
  unfold splitOn at h
  induction t generalizing part with
  | nil =>
    obtain rfl := List.mem_singleton.1 h
    exact List.nil_subset _
  | cons d t ih =>
    have hlater (p : Text) (hp : p ⊆ t) : p ⊆ d :: t :=
      List.Subset.trans hp (List.subset_cons_self d t)
    rw [List.foldr_cons] at h
    generalize List.foldr _ _ t = parts at h ih
    cases parts with
    | nil =>
      dsimp only at h
      split at h
      · simp only [List.mem_cons, List.not_mem_nil, or_false, or_self] at h
        simp [h]
      · obtain rfl := List.mem_singleton.1 h
        simp
    | cons p ps =>
      dsimp only at h
      split at h
      · rcases List.mem_cons.1 h with rfl | h
        · exact List.nil_subset _
        · exact hlater part (ih h)
      · rcases List.mem_cons.1 h with rfl | h
        · exact List.cons_subset_cons d (ih (List.mem_cons_self ..))
        · exact hlater part (ih (List.mem_cons_of_mem p h))

theorem subset_intercalate (sep : Text) {t : Text} {ts : List Text} (h : t ∈ ts) :
    t ⊆ sep.intercalate ts := by
  induction ts with
  | nil => exact absurd h List.not_mem_nil
  | cons s ts ih =>
    cases ts with
    | nil =>
      rw [List.intercalate_singleton, List.mem_singleton.1 h]
      exact List.Subset.refl s
    | cons u ts =>
      rw [List.intercalate_cons_cons]
      rcases List.mem_cons.1 h with rfl | h
      · exact List.Subset.trans (List.subset_append_left t sep) (List.subset_append_left ..)
      · exact List.Subset.trans (ih h) (List.subset_append_right ..)

/-! ### Words in a row -/

theorem words_cons_of_isBlank {c : Char} (hc : isBlank c = true) (t : Text) :
    words (c :: t) = words t := by
  rw [words, List.foldr_cons, if_pos hc, words]

/-- Words are cut from the end of a text on. The state behind a character says whether it is outside
a word there, and which words have been found. -/
def cutWord (c : Char) (found : Bool × List Text) : Bool × List Text :=
  if isBlank c then (true, found.2)
  else if found.1 then (false, [c] :: found.2)
  else match found.2 with
    | [] => (false, [[c]])
    | w :: ws => (false, (c :: w) :: ws)

theorem words_eq (t : Text) : words t = (t.foldr cutWord (true, [])).2 := rfl

/-- A text without blanks is one word. -/
theorem words_of_forall {w : Text} (hne : w ≠ []) (hw : ∀ c ∈ w, isBlank c = false) :
    words w = [w] := by
  have hstate : w.foldr cutWord (true, []) = (false, [w]) := by
    induction w with
    | nil => exact absurd rfl hne
    | cons c w ih =>
      have hc := hw c (List.mem_cons_self ..)
      rw [List.foldr_cons]
      cases w with
      | nil => simp [cutWord, hc]
      | cons d w =>
        rw [ih (List.cons_ne_nil d w) fun e he => hw e (List.mem_cons_of_mem c he)]
        simp [cutWord, hc]
  exact congrArg Prod.snd hstate

/-- A word that is being read has a character. -/
theorem snd_ne_nil_of_foldr_cutWord {t : Text} (h : (t.foldr cutWord (true, [])).1 = false) :
    (t.foldr cutWord (true, [])).2 ≠ [] := by
  cases t with
  | nil => cases h
  | cons c t =>
    rw [List.foldr_cons] at h ⊢
    generalize t.foldr cutWord (true, []) = found at h ⊢
    unfold cutWord at h ⊢
    grind

/-- The words behind a place outside words stay as they are. -/
theorem foldr_cutWord (t : Text) (ws : List Text) : t.foldr cutWord (true, ws) =
    ((t.foldr cutWord (true, [])).1, words t ++ ws) := by
  rw [words_eq]
  induction t with
  | nil => rfl
  | cons c t ih =>
    have hopen := snd_ne_nil_of_foldr_cutWord (t := t)
    rw [List.foldr_cons, List.foldr_cons, ih]
    generalize t.foldr cutWord (true, []) = found at hopen ⊢
    obtain ⟨outside, vs⟩ := found
    unfold cutWord
    grind

/-- **A blank cuts.** The words around it are those of the two sides. -/
theorem words_append_blank {c : Char} (hc : isBlank c = true) (s t : Text) :
    words (s ++ c :: t) = words s ++ words t := by
  have hstate : (c :: t).foldr cutWord (true, []) = (true, words t) := by
    rw [List.foldr_cons, cutWord, if_pos hc, words_eq]
  rw [words_eq, List.foldr_append, hstate, foldr_cutWord]

theorem words_withoutReturn (t : Text) : words (withoutReturn t) = words t := by
  rcases List.eq_nil_or_concat t with rfl | ⟨s, c, rfl⟩
  · rfl
  · rw [List.concat_eq_append, withoutReturn]
    split
    · next h =>
      rw [List.getLast?_concat, Option.some.injEq] at h
      rw [h, List.dropLast_concat, words_append_blank (by decide)]
      exact (List.append_nil _).symm
    · rfl

/-- A word is made of characters that are not blank. -/
theorem isWord_of_mem_words {t w : Text} (h : w ∈ words t) :
    w ≠ [] ∧ ∀ c ∈ w, isBlank c = false := by
  rw [words_eq] at h
  induction t generalizing w with
  | nil => cases h
  | cons c t ih =>
    rw [List.foldr_cons] at h
    generalize t.foldr cutWord (true, []) = found at h ih
    unfold cutWord at h
    grind

theorem words_ne_nil {t : Text} (h : hasInk t = true) : words t ≠ [] := by
  induction t with
  | nil => cases h
  | cons c t ih =>
    by_cases hc : isBlank c = true
    · rw [words_cons_of_isBlank hc]
      refine ih ?_
      simpa [hasInk, isBlankText, hc] using h
    · rw [words_eq, List.foldr_cons]
      unfold cutWord
      grind

end Text

end CommandManual
