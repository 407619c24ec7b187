import CommandManual.Roff.Inline

/-!
# Spans as a relation

The three replacements of spans differ in where a span may begin and end. What they do to a text is
the same: some parts of it that stand between two marks are set in a font, and everything else
stays. `Spanned` is that relation. It says nothing about which parts are chosen; a property of the
output that does not depend on the choice is proved once for the relation.

## Main definitions

* `Roff.Spanned`: a text, and the text in which some of its spans are set in a font.

## Main results

* `Roff.spanned_codeSpans`, `Roff.spanned_strongSpans`, `Roff.spanned_emphasisSpans`: the three
  replacements are instances.
* `Roff.Spanned.looksLikeRequest`, `Roff.Spanned.mem`: what the first character of the output is,
  and which characters it has.
* `Roff.Spanned.eq_of_length_le`: only a text without spans does not get longer.
-/

namespace CommandManual

namespace Roff

/-- Some parts of a text that stand between two marks are set in a font without the marks. -/
inductive Spanned (mark : Text) (font : Char) : Text → Text → Prop
  | nil : Spanned mark font [] []
  | keep {t u : Text} (c : Char) (rest : Spanned mark font t u) :
      Spanned mark font (c :: t) (c :: u)
  | span {t u : Text} (body : Text) (rest : Spanned mark font t u) :
      Spanned mark font (mark ++ body ++ mark ++ t) (inFont font body ++ u)

/-! ### Where spans end -/

theorem eq_append_of_splitBacktick {t body rest : Text}
    (h : splitBacktick t = some (body, rest)) : t = body ++ Text.backtick :: rest := by
  induction t generalizing body with
  | nil => cases h
  | cons c t ih =>
    rw [splitBacktick] at h
    split at h
    · next hc =>
      obtain ⟨rfl, rfl⟩ := Prod.mk.inj (Option.some.inj h)
      rw [hc, List.nil_append]
    · obtain ⟨⟨b, r⟩, hr, h⟩ := Option.map_eq_some_iff.1 h
      obtain ⟨rfl, rfl⟩ := Prod.mk.inj h
      rw [ih hr, List.cons_append]

theorem eq_append_of_splitStrong {t body rest : Text} (h : splitStrong t = some (body, rest)) :
    t = body ++ '*' :: '*' :: rest := by
  induction t generalizing body with
  | nil => cases h
  | cons c t ih =>
    rw [splitStrong] at h
    split at h
    · next hc =>
      obtain ⟨rfl, rfl⟩ := Prod.mk.inj (Option.some.inj h)
      rw [Bool.and_eq_true, decide_eq_true_eq, decide_eq_true_eq] at hc
      obtain ⟨rfl, hhead⟩ := hc
      obtain ⟨u, rfl⟩ := List.head?_eq_some_iff.1 hhead
      rfl
    · split at h
      · cases h
      · obtain ⟨⟨b, r⟩, hr, h⟩ := Option.map_eq_some_iff.1 h
        obtain ⟨rfl, rfl⟩ := Prod.mk.inj h
        rw [ih hr, List.cons_append]

theorem eq_append_of_splitEmphasis {last : Char} {t body rest : Text}
    (h : splitEmphasis last t = some (body, rest)) : t = body ++ '*' :: rest := by
  induction t generalizing last body with
  | nil => cases h
  | cons c t ih =>
    rw [splitEmphasis] at h
    split at h
    · next hc =>
      obtain ⟨rfl, rfl⟩ := Prod.mk.inj (Option.some.inj h)
      rw [Bool.and_eq_true, Bool.and_eq_true, decide_eq_true_eq] at hc
      rw [hc.1.1, List.nil_append]
    · split at h
      · cases h
      · obtain ⟨⟨b, r⟩, hr, h⟩ := Option.map_eq_some_iff.1 h
        obtain ⟨rfl, rfl⟩ := Prod.mk.inj h
        rw [ih hr, List.cons_append]

/-! ### The three replacements -/

theorem spanned_codeSpans (t : Text) : Spanned [Text.backtick] 'B' t (codeSpans t) := by
  fun_induction codeSpans t with
  | case1 => exact .nil
  | case2 t d body rest h _ ih =>
    have hspan := Spanned.span (d :: body) ih
    rw [eq_append_of_splitBacktick h]
    simpa using hspan
  | case3 t h ih => exact .keep _ ih
  | case4 c t hc ih => exact .keep c ih

theorem spanned_strongSpans (t : Text) : Spanned ['*', '*'] 'B' t (strongSpans t) := by
  fun_induction strongSpans t with
  | case1 t ih => exact .keep '*' (.keep '*' (.keep '\n' ih))
  | case2 c t hc body rest h _ ih =>
    have hspan := Spanned.span (c :: body) ih
    rw [eq_append_of_splitStrong h]
    simpa using hspan
  | case3 c t hc h ih => exact .keep '*' ih
  | case4 c t _ ih => exact .keep c ih
  | case5 => exact .nil

theorem spanned_emphasisSpans (last : Option Char) (t : Text) :
    Spanned ['*'] 'I' t (emphasisSpans last t) := by
  fun_induction emphasisSpans last t with
  | case1 last => exact .nil
  | case2 last c hc d u hd body rest h _ ih =>
    have hspan := Spanned.span (d :: body) ih
    rw [Bool.and_eq_true, decide_eq_true_eq] at hc
    rw [hc.1, eq_append_of_splitEmphasis h]
    simpa using hspan
  | case3 last c hc d u hd h ih => exact .keep c ih
  | case4 last c hc d u hd ih => exact .keep c ih
  | case5 last c hc => exact .keep c .nil
  | case6 last c t hc ih => exact .keep c ih

/-! ### What spans leave alone -/

namespace Spanned

variable {mark t u : Text} {font : Char}

/-- A line that is no request is none after its spans are set: a mark at its beginning becomes a
backslash. -/
theorem looksLikeRequest (h : Spanned mark font t u) (ht : looksLikeRequest t = false) :
    looksLikeRequest u = false := by
  cases h with
  | nil => rfl
  | keep c rest => exact ht
  | span body rest => rfl

/-- The characters of the output are those of the input and of the changes of font. -/
theorem mem (h : Spanned mark font t u) {c : Char} (hc : c ∈ u) :
    c ∈ t ∨ c ∈ ['\\', 'f', font, 'P'] := by
  induction h with
  | nil => exact .inl hc
  | keep d rest ih =>
    rcases List.mem_cons.1 hc with rfl | hc
    · exact .inl (List.mem_cons_self ..)
    · exact (ih hc).imp_left (List.mem_cons_of_mem d)
  | span body rest ih =>
    rcases List.mem_append.1 hc with hc | hc
    · rw [inFont, List.cons_append, List.cons_append, List.cons_append] at hc
      simp only [List.mem_cons, List.mem_append, List.not_mem_nil, or_false] at hc ⊢
      grind
    · refine (ih hc).imp_left fun hc => ?_
      exact List.mem_append_right _ hc

/-- A change of font is longer than a mark, so no text gets shorter. -/
theorem length_le (hmark : mark.length ≤ 2) (h : Spanned mark font t u) :
    t.length ≤ u.length := by
  induction h with
  | nil => exact Nat.le_refl 0
  | keep c rest ih => exact Nat.succ_le_succ ih
  | span body rest ih =>
    simp only [inFont, List.length_append, List.length_cons, List.length_nil]
    omega

/-- A text that does not get longer has no span. -/
theorem eq_of_length_le (hmark : mark.length ≤ 2) (h : Spanned mark font t u)
    (hle : u.length ≤ t.length) : u = t := by
  induction h with
  | nil => rfl
  | keep c rest ih => rw [ih (Nat.le_of_succ_le_succ hle)]
  | span body rest ih =>
    have hrest := rest.length_le hmark
    simp only [inFont, List.length_append, List.length_cons, List.length_nil] at hle
    omega

/-- A character that is no mark stays where it is. -/
theorem eq_cons_of_cons {c : Char} (hc : c ∉ mark) (hmark : mark ≠ [])
    (h : Spanned mark font (c :: t) u) : ∃ v, u = c :: v ∧ Spanned mark font t v := by
  generalize hs : c :: t = s at h
  cases h with
  | nil => cases hs
  | keep d rest =>
    obtain ⟨rfl, rfl⟩ := List.cons.inj hs
    exact ⟨_, rfl, rest⟩
  | span body rest =>
    obtain ⟨d, m, rfl⟩ := List.exists_cons_of_ne_nil hmark
    rw [List.cons_append, List.cons_append, List.cons_append] at hs
    exact absurd ((List.cons.inj hs).1 ▸ List.mem_cons_self ..) hc

/-- Characters that are no marks stay where they are. -/
theorem exists_append {s : Text} (hmark : mark ≠ []) (hs : ∀ c ∈ s, c ∉ mark)
    (h : Spanned mark font (s ++ t) u) : ∃ v, u = s ++ v ∧ Spanned mark font t v := by
  induction s generalizing u with
  | nil => exact ⟨u, rfl, h⟩
  | cons c s ih =>
    obtain ⟨v, rfl, hv⟩ := h.eq_cons_of_cons (hs c (List.mem_cons_self ..)) hmark
    obtain ⟨w, rfl, hw⟩ := ih (fun d hd => hs d (List.mem_cons_of_mem c hd)) hv
    exact ⟨w, rfl, hw⟩

end Spanned

end Roff

end CommandManual
