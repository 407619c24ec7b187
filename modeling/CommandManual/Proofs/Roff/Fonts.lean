import CommandManual.Proofs.Roff.Balance
import Mathlib.Data.List.Induction
import Mathlib.Data.List.Infix

/-!
# The fonts of a line

Whoever sets a page knows two fonts: the current one, and the one that was set before it. A change
of font remembers the font that it replaces; going back swaps the two. That is enough for one span
but not for a span inside another, because of the two fonts that are open there the outer one is
remembered and roman is forgotten. It cannot come back by any of the changes that spans make
(`Setting.IsLost`).

So a line ends in roman, and what stands outside its spans is set in roman, exactly if no span of
the line begins inside another (`roman_outside_spans`).

## Main definitions

* `Roff.Setting`, `Roff.Setting.run`: the two fonts, and what they are behind some tokens.
* `Roff.IsFlat`: no span begins inside another.

## Main results

* `Roff.Setting.fits_or_isLost`: where the fonts stand behind balanced tokens.
* `Roff.roman_outside_spans`: which lines are set as their text asks for.
-/

namespace CommandManual

namespace Roff

/-- The fonts that a line can be set in. -/
inductive Font where
  | roman
  | bold
  | italic
  deriving DecidableEq, Repr

/-- The current font, and the one that was current before it. -/
structure Setting where
  current : Font
  remembered : Font
  deriving DecidableEq, Repr

namespace Setting

/-- The fonts behind a token. -/
def after (s : Setting) : Token → Setting
  | .bold => ⟨.bold, s.current⟩
  | .italic => ⟨.italic, s.current⟩
  | .back => ⟨s.remembered, s.current⟩
  | _ => s

/-- The fonts behind some tokens. -/
def run (s : Setting) (ts : List Token) : Setting := ts.foldl after s

@[simp] theorem run_nil (s : Setting) : s.run [] = s := rfl

theorem run_append (s : Setting) (ts us : List Token) : s.run (ts ++ us) = (s.run ts).run us :=
  List.foldl_append ..

theorem run_singleton (s : Setting) (k : Token) : s.run [k] = s.after k := rfl

/-- Roman is neither the current font nor the one before. -/
structure IsLost (s : Setting) : Prop where
  current : s.current ≠ .roman
  remembered : s.remembered ≠ .roman

/-- The fonts as a reader expects them where so many spans are open, one at most. -/
def Fits : Nat → Setting → Prop
  | 0, s => s.current = .roman
  | 1, s => s.current ≠ .roman ∧ s.remembered = .roman
  | _, _ => False

variable {s : Setting} {k : Token} {ts : List Token} {d e : Nat}

/-- Once roman is lost, it stays lost. -/
theorem IsLost.after (h : s.IsLost) (k : Token) : (s.after k).IsLost := by
  cases k with
  | bold => exact ⟨Font.noConfusion, h.current⟩
  | italic => exact ⟨Font.noConfusion, h.current⟩
  | back => exact ⟨h.remembered, h.current⟩
  | _ => exact h

/-- A span that begins outside all others has roman to go back to. -/
theorem Fits.after_outside (h : Fits 0 s) (hk : k.deepen 0 = some e) : Fits e (s.after k) := by
  cases k with
  | back => cases hk
  | bold | italic =>
    obtain rfl := Option.some.inj hk
    exact ⟨Font.noConfusion, h⟩
  | _ =>
    obtain rfl := Option.some.inj hk
    exact h

/-- Inside a span the next change goes back to roman, or it loses it. -/
theorem Fits.after_inside (h : Fits 1 s) (hk : k.deepen 1 = some e) :
    e ≤ 1 ∧ Fits e (s.after k) ∨ 1 < e ∧ (s.after k).IsLost := by
  obtain ⟨hcurrent, hremembered⟩ := h
  cases k with
  | back =>
    obtain rfl := Option.some.inj hk
    exact .inl ⟨Nat.zero_le 1, hremembered⟩
  | bold | italic =>
    obtain rfl := Option.some.inj hk
    exact .inr ⟨Nat.one_lt_two, Font.noConfusion, hcurrent⟩
  | _ =>
    obtain rfl := Option.some.inj hk
    exact .inl ⟨Nat.le_refl 1, hcurrent, hremembered⟩

/-- **One token.** The fonts fit behind it, unless it opens a span inside another. -/
theorem Fits.after (h : Fits d s) (hk : k.deepen d = some e) :
    e ≤ 1 ∧ Fits e (s.after k) ∨ 1 < e ∧ (s.after k).IsLost := by
  match d, h with
  | 0, h =>
    have hfits := h.after_outside hk
    match e, hfits with
    | 0, hfits => exact .inl ⟨Nat.zero_le 1, hfits⟩
    | 1, hfits => exact .inl ⟨Nat.le_refl 1, hfits⟩
  | 1, h => exact h.after_inside hk

end Setting

/-- No span begins inside another. -/
def IsFlat (ts : List Token) : Prop := ∀ ps, ps <+: ts → openings ps ≤ closings ps + 1

instance (ts : List Token) : Decidable (IsFlat ts) :=
  decidable_of_iff (∀ ps ∈ ts.inits, openings ps ≤ closings ps + 1) <|
    forall_congr' fun ps => imp_congr_left (List.mem_inits ps ts)

section Flat

variable {ts ps : List Token} {k : Token} {e : Nat}

theorem IsFlat.of_isPrefix (h : IsFlat ts) (hps : ps <+: ts) : IsFlat ps :=
  fun qs hqs => h qs (hqs.trans hps)

theorem isFlat_concat_iff (h : depth? 0 (ts ++ [k]) = some e) :
    IsFlat (ts ++ [k]) ↔ IsFlat ts ∧ e ≤ 1 := by
  have hcount := openings_add_of_depth? h
  constructor
  · intro hflat
    have hall := hflat _ List.prefix_rfl
    exact ⟨hflat.of_isPrefix (List.prefix_append ts [k]), by omega⟩
  · rintro ⟨hflat, he⟩ ps hps
    rcases List.prefix_concat_iff.1 hps with rfl | hps
    · omega
    · exact hflat ps hps

/-- **All tokens.** The fonts fit as long as no span begins inside another, and from then on roman
is lost. -/
theorem Setting.fits_or_isLost (h : depth? 0 ts = some e) (r : Font) :
    IsFlat ts ∧ Fits e (run ⟨.roman, r⟩ ts) ∨ ¬ IsFlat ts ∧ (run ⟨.roman, r⟩ ts).IsLost := by
  induction ts using List.reverseRecOn generalizing e with
  | nil =>
    obtain rfl := Option.some.inj h
    refine .inl ⟨fun ps hps => ?_, rfl⟩
    rw [List.prefix_nil.1 hps]
    exact Nat.zero_le _
  | append_singleton ts k ih =>
    have hflat := isFlat_concat_iff h
    obtain ⟨d, hd, hk⟩ := depth?_append_eq_some_iff.1 h
    rw [depth?_singleton] at hk
    rw [hflat, run_append, run_singleton]
    rcases ih hd with ⟨hts, hfits⟩ | ⟨hts, hlost⟩
    · rcases hfits.after hk with ⟨he, hfits⟩ | ⟨he, hlost⟩
      · exact .inl ⟨⟨hts, he⟩, hfits⟩
      · exact .inr ⟨fun h => Nat.not_le_of_lt he h.2, hlost⟩
    · exact .inr ⟨fun h => hts h.1, hlost.after k⟩

end Flat

/-! ### Lines of a document -/

/-- **Where a line is set in roman.** If no span of it begins inside another, it ends in roman, and
everything outside its spans is set in roman, whatever font has been current before it. If one
does, it does not end in roman. -/
theorem roman_outside_spans (t : Text) (r : Font) :
    (IsFlat (tokens (inline t)) →
      (Setting.run ⟨.roman, r⟩ (tokens (inline t))).current = .roman ∧
        ∀ ps, ps <+: tokens (inline t) → openings ps = closings ps →
          (Setting.run ⟨.roman, r⟩ ps).current = .roman) ∧
      (¬ IsFlat (tokens (inline t)) →
        (Setting.run ⟨.roman, r⟩ (tokens (inline t))).current ≠ .roman) := by
  have hdepth := depth?_inline t
  constructor
  · intro hflat
    have houtside (ps : List Token) (hps : ps <+: tokens (inline t))
        (hcount : openings ps = closings ps) : (Setting.run ⟨.roman, r⟩ ps).current = .roman := by
      obtain ⟨e, he⟩ := exists_depth?_of_isPrefix hdepth hps
      have hzero : e = 0 := by
        have hopen := openings_add_of_depth? he
        omega
      subst hzero
      rcases Setting.fits_or_isLost he r with ⟨-, hfits⟩ | ⟨hnot, -⟩
      · exact hfits
      · exact absurd (hflat.of_isPrefix hps) hnot
    exact ⟨houtside _ List.prefix_rfl (openings_add_of_depth? hdepth), houtside⟩
  · intro hnot
    rcases Setting.fits_or_isLost hdepth r with ⟨hflat, -⟩ | ⟨-, hlost⟩
    · exact absurd hflat hnot
    · exact hlost.current

/-- The line of a flag has two spans, one behind the other. -/
theorem roman_outside_spans_of_flag :
    let ts := tokens (inline "**--name, -n**=\"\": who to *greet* (required)".toList)
    (Setting.run ⟨.roman, .bold⟩ ts).current = .roman ∧
      (Setting.run ⟨.roman, .bold⟩ (ts.take 20)).current = .roman := by
  intro ts
  obtain ⟨hend, houtside⟩ := (roman_outside_spans
    "**--name, -n**=\"\": who to *greet* (required)".toList .bold).1 (by decide +kernel)
  exact ⟨hend, houtside (ts.take 20) (List.take_prefix 20 ts) (by decide +kernel)⟩

/-- Emphasis inside strong text: what stands behind both is set in italics. -/
theorem italic_behind_nested_spans :
    inline "**a *b* c** d".toList = "\\fBa \\fIb\\fP c\\fP d".toList ∧
      (Setting.run ⟨.roman, .roman⟩ (tokens (inline "**a *b* c** d".toList))).current =
        .italic := by
  decide +kernel

end Roff

end CommandManual
