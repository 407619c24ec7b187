import CommandManual.Proofs.Roff.Escapes
import CommandManual.Proofs.Text.Parts

/-!
# A line of a page as tokens

Whoever reads a line of a page from left to right meets characters and escapes. `tokens` is that
reading. It knows nothing of how the line was made, so that what is said of the tokens of a line is
said of the line itself.

Spans are set in a text that is escaped already. Their marks are in no escape, so that the parts
between two marks consist of whole tokens, and setting spans character by character
(`Spanned`) is setting them token by token (`Dressed`). There no escape can be cut, and a property
of the output is an induction with one case for a span.

## Main definitions

* `Roff.Token`, `Roff.Token.spell`: what stands in a line, and how it is written.
* `Roff.written`, `Roff.tokens`: the line of some tokens, and the tokens of a line.
* `Roff.Dressed`: tokens, and the tokens in which some of their spans are set in a font.
* `Roff.Dressing`: spans that are set one kind after the other.

## Main results

* `Roff.written_tokens`, `Roff.tokens_written`: reading and writing are inverse.
* `Roff.Spanned.exists_dressed`: spans are made of whole tokens.
* `Roff.Dressing.keeps`: what every kind of span keeps is kept by all of them.
* `Roff.dressing_tokens_inline`: the tokens of a line of a document.
* `Roff.isEscaped_escape`, `Roff.isEscaped_inline`: escaped text and lines of a document.
-/

namespace CommandManual

namespace Roff

/-- What stands in a line of a page. -/
inductive Token where
  /-- A character as it is. -/
  | plain (c : Char)
  | backslash
  | hyphen
  /-- Nothing at all, so that the line does not begin with the character behind it. -/
  | guard
  | bold
  | italic
  /-- The font before is set again. -/
  | back
  deriving DecidableEq, Repr

namespace Token

/-- How a token is written. -/
def spell : Token → Text
  | .plain c => [c]
  | .backslash => ['\\', 'e']
  | .hyphen => ['\\', '-']
  | .guard => ['\\', '&']
  | .bold => ['\\', 'f', 'B']
  | .italic => ['\\', 'f', 'I']
  | .back => ['\\', 'f', 'P']

/-- The character that a token sets. -/
def char? : Token → Option Char
  | .plain c => some c
  | .backslash => some '\\'
  | .hyphen => some '-'
  | .guard | .bold | .italic | .back => none

/-- A token that is no backslash and no hyphen as it is. -/
def IsOrdinary : Token → Prop
  | .plain c => c ≠ '\\' ∧ c ≠ '-'
  | _ => True

/-- The token that sets a character. -/
def ofChar (c : Char) : Token :=
  if c = '\\' then .backslash else if c = '-' then .hyphen else .plain c

variable {k : Token} {c : Char}

theorem spell_ofChar (c : Char) : (ofChar c).spell = escapeChar c := by
  rw [ofChar, escapeChar]
  split
  · rfl
  · split <;> rfl

theorem char?_ofChar (c : Char) : (ofChar c).char? = some c := by
  rw [ofChar]
  split
  · next hc => rw [hc]; rfl
  · split
    · next hc => rw [hc]; rfl
    · rfl

theorem isOrdinary_ofChar (c : Char) : (ofChar c).IsOrdinary := by
  rw [ofChar]
  split
  · trivial
  · next hback =>
    split
    · trivial
    · next hhyphen => exact ⟨hback, hhyphen⟩

/-- Behind its first character a token has letters of escapes only. -/
theorem exists_spell_eq_cons (k : Token) :
    ∃ c s, k.spell = c :: s ∧ ∀ d ∈ s, ¬ Reading.IsOutside d := by
  cases k with
  | plain c => exact ⟨c, [], rfl, by simp⟩
  | _ => exact ⟨'\\', _, rfl, Text.forall_mem_of_all (by decide)⟩

/-- A character that is in no escape stands for itself. -/
theorem eq_plain_of_mem_spell (hc : Reading.IsOutside c) (h : c ∈ k.spell) : k = .plain c := by
  cases k with
  | plain d => rw [List.mem_singleton.1 h]
  | _ =>
    simp only [spell, List.mem_cons, List.not_mem_nil, or_false] at h
    rcases h with rfl | rfl | rfl <;> exact absurd hc (by decide)

end Token

/-! ### Writing and reading -/

/-- The line of some tokens. -/
def written (ts : List Token) : Text := ts.flatMap Token.spell

/-- The tokens of a line. -/
def tokens : Text → List Token
  | '\\' :: 'e' :: t => .backslash :: tokens t
  | '\\' :: '-' :: t => .hyphen :: tokens t
  | '\\' :: '&' :: t => .guard :: tokens t
  | '\\' :: 'f' :: 'B' :: t => .bold :: tokens t
  | '\\' :: 'f' :: 'I' :: t => .italic :: tokens t
  | '\\' :: 'f' :: 'P' :: t => .back :: tokens t
  | c :: t => .plain c :: tokens t
  | [] => []

section Written

variable {k : Token} {ts us : List Token} {s t : Text}

@[simp] theorem written_nil : written [] = [] := rfl

@[simp] theorem written_cons (k : Token) (ts : List Token) :
    written (k :: ts) = k.spell ++ written ts :=
  List.flatMap_cons

@[simp] theorem written_append (ts us : List Token) :
    written (ts ++ us) = written ts ++ written us :=
  List.flatMap_append

theorem written_map_ofChar (t : Text) : written (t.map Token.ofChar) = t.flatMap escapeChar := by
  induction t with
  | nil => rfl
  | cons c t ih => rw [List.map_cons, written_cons, Token.spell_ofChar, ih, List.flatMap_cons]

/-- Reading loses nothing. -/
theorem written_tokens (t : Text) : written (tokens t) = t := by
  fun_induction tokens t with
  | case8 => rfl
  | _ => simp_all [Token.spell]

theorem tokens_cons {c : Char} (hc : c ≠ '\\') (t : Text) :
    tokens (c :: t) = .plain c :: tokens t := by
  rw [tokens] <;> simp [hc]

theorem tokens_spell_append (hk : k.IsOrdinary) (t : Text) :
    tokens (k.spell ++ t) = k :: tokens t := by
  cases k with
  | plain c => exact tokens_cons hk.1 t
  | _ => rfl

/-- What is written is read again. -/
theorem tokens_written (h : ∀ k ∈ ts, k.IsOrdinary) : tokens (written ts) = ts := by
  induction ts with
  | nil => rfl
  | cons k ts ih =>
    rw [written_cons, tokens_spell_append (h k (List.mem_cons_self ..)),
      ih fun j hj => h j (List.mem_cons_of_mem k hj)]

theorem written_eq_nil_iff : written ts = [] ↔ ts = [] := by
  constructor
  · intro h
    cases ts with
    | nil => rfl
    | cons k ts => cases k <;> cases h
  · rintro rfl
    rfl

/-- A line that begins with a character that is in no escape begins with that token. -/
theorem exists_of_written_eq_cons {c : Char} (hc : Reading.IsOutside c) (h : written ts = c :: t) :
    ∃ us, ts = .plain c :: us ∧ written us = t := by
  cases ts with
  | nil => cases h
  | cons k ts =>
    have hk : k = .plain c := by
      refine Token.eq_plain_of_mem_spell hc ?_
      cases k <;> obtain ⟨rfl, -⟩ := List.cons.inj h <;> exact List.mem_cons_self
    subst hk
    exact ⟨ts, rfl, (List.cons.inj h).2⟩

/-- A mark that is in no escape is a part of the tokens in front of a line. -/
theorem exists_of_written_eq_mark {mark : Text} (hout : ∀ c ∈ mark, Reading.IsOutside c)
    (h : written ts = mark ++ t) : ∃ us, ts = mark.map .plain ++ us ∧ written us = t := by
  induction mark generalizing ts with
  | nil => exact ⟨ts, rfl, h⟩
  | cons c mark ih =>
    obtain ⟨us, rfl, hus⟩ := exists_of_written_eq_cons (hout c (List.mem_cons_self ..)) h
    obtain ⟨vs, rfl, hvs⟩ := ih (fun d hd => hout d (List.mem_cons_of_mem c hd)) hus
    exact ⟨vs, rfl, hvs⟩

/-- **A mark that is in no escape stands between two tokens.** -/
theorem exists_of_written_eq_append {mark : Text} (hmark : mark ≠ [])
    (hout : ∀ c ∈ mark, Reading.IsOutside c) (h : written ts = s ++ mark ++ t) :
    ∃ xs ys, ts = xs ++ mark.map .plain ++ ys ∧ written xs = s ∧ written ys = t := by
  induction ts generalizing s with
  | nil => simp [hmark] at h
  | cons k ts ih =>
    rw [written_cons, List.append_assoc] at h
    rcases List.append_eq_append_iff.1 h with ⟨a, rfl, ha⟩ | ⟨a, hk, ha⟩
    · obtain ⟨xs, ys, rfl, rfl, rfl⟩ := ih (s := a) (by rw [ha, List.append_assoc])
      exact ⟨k :: xs, ys, rfl, written_cons k xs, rfl⟩
    · cases a with
      | nil =>
        obtain ⟨ys, rfl, hys⟩ := exists_of_written_eq_mark hout ha.symm
        exact ⟨[k], ys, rfl, by simp [hk], hys⟩
      | cons c a =>
        -- The mark begins in a token, which is then that character and nothing else.
        obtain ⟨d, m, rfl⟩ := List.exists_cons_of_ne_nil hmark
        obtain ⟨rfl, -⟩ := List.cons.inj ha
        obtain rfl := Token.eq_plain_of_mem_spell (k := k) (hout d (List.mem_cons_self ..))
          (by simp [hk])
        obtain ⟨rfl, -⟩ | ⟨-, hnil⟩ := List.append_eq_singleton_iff.1 hk.symm
        · obtain ⟨ys, hts, hys⟩ := exists_of_written_eq_mark hout ((written_cons ..).trans h)
          exact ⟨[], ys, hts, rfl, hys⟩
        · cases hnil

theorem Token.isEscaped_spell (h : k.IsOrdinary) : IsEscaped k.spell := by
  cases k with
  | plain c => simp [IsEscaped, Token.spell, Reading.scan_cons, Reading.next, h.1, h.2]
  | _ => rfl

/-- What is written in ordinary tokens is escaped. -/
theorem isEscaped_written (h : ∀ k ∈ ts, k.IsOrdinary) : IsEscaped (written ts) := by
  induction ts with
  | nil => exact .nil
  | cons k ts ih =>
    rw [written_cons]
    exact (Token.isEscaped_spell (h k (List.mem_cons_self ..))).append
      (ih fun j hj => h j (List.mem_cons_of_mem k hj))

end Written

/-! ### Spans -/

/-- Some parts of a line that stand between two marks are set in a font without the marks. -/
inductive Dressed (mark : Text) (font : Token) : List Token → List Token → Prop
  | nil : Dressed mark font [] []
  | keep {ts us : List Token} (k : Token) (rest : Dressed mark font ts us) :
      Dressed mark font (k :: ts) (k :: us)
  | span {ts us : List Token} (body : List Token) (rest : Dressed mark font ts us) :
      Dressed mark font (mark.map .plain ++ body ++ mark.map .plain ++ ts)
        (font :: body ++ .back :: us)

section Spanned

variable {mark s t u : Text} {letter : Char} {font : Token}

theorem written_span (hfont : font.spell = ['\\', 'f', letter]) (bs us : List Token) :
    written (font :: bs ++ .back :: us) = inFont letter (written bs) ++ written us := by
  rw [written_append, written_cons, written_cons, hfont, inFont]
  simp [Token.spell]

/-- **Spans are made of whole tokens.** -/
theorem Spanned.exists_dressed (hmark : mark ≠ []) (hout : ∀ c ∈ mark, Reading.IsOutside c)
    (hfont : font.spell = ['\\', 'f', letter]) {ts : List Token}
    (h : Spanned mark letter (written ts) u) : ∃ us, u = written us ∧ Dressed mark font ts us := by
  -- The induction is on the number of tokens, because a span takes many of them at once.
  generalize hn : ts.length = n
  induction n using Nat.strongRecOn generalizing ts u with
  | ind n ih =>
    generalize hs : written ts = s at h
    cases h with
    | nil =>
      rw [written_eq_nil_iff] at hs
      subst hs
      exact ⟨[], rfl, .nil⟩
    | @keep t u c rest =>
      obtain ⟨k, ts, rfl⟩ := List.exists_cons_of_ne_nil (l := ts) (by rintro rfl; cases hs)
      obtain ⟨d, inside, hk, hinside⟩ := k.exists_spell_eq_cons
      rw [written_cons, hk, List.cons_append] at hs
      obtain ⟨rfl, rfl⟩ := List.cons.inj hs
      obtain ⟨v, rfl, hv⟩ := rest.exists_append hmark fun e he hmem => hinside e he (hout e hmem)
      obtain ⟨us, rfl, hus⟩ := ih ts.length (by simp [← hn]) hv rfl
      exact ⟨k :: us, by simp [hk], .keep k hus⟩
    | @span t u body rest =>
      obtain ⟨xs, ys, rfl, hxs, rfl⟩ := exists_of_written_eq_append hmark hout hs
      obtain ⟨bs, rfl, rfl⟩ := exists_of_written_eq_mark hout hxs
      have hshorter : ys.length < n := by
        have hpos := List.length_pos_iff.2 hmark
        simp only [← hn, List.length_append, List.length_map]
        omega
      obtain ⟨us, rfl, hus⟩ := ih ys.length hshorter rest rfl
      exact ⟨font :: bs ++ .back :: us, (written_span hfont bs us).symm, .span bs hus⟩

end Spanned

namespace Dressed

variable {mark : Text} {font k : Token} {ts us : List Token}

/-- The tokens of the output are those of the input and the changes of font. -/
theorem mem (h : Dressed mark font ts us) (hk : k ∈ us) : k ∈ ts ∨ k = font ∨ k = .back := by
  induction h with
  | nil => exact .inl hk
  | keep j rest ih =>
    rcases List.mem_cons.1 hk with rfl | hk
    · exact .inl (List.mem_cons_self ..)
    · exact (ih hk).imp_left (List.mem_cons_of_mem j)
  | span body rest ih =>
    simp only [List.cons_append, List.mem_cons, List.mem_append] at hk ⊢
    rcases hk with rfl | hk | rfl | hk
    · exact .inr (.inl rfl)
    · exact .inl (.inl (.inl (.inr hk)))
    · exact .inr (.inr rfl)
    · exact (ih hk).imp_left .inr

/-- Behind the first token there are only such tokens as before, and changes of font. -/
theorem mem_tail (hmark : mark ≠ []) (h : Dressed mark font ts us) (hk : k ∈ us.tail) :
    k ∈ ts.tail ∨ k = font ∨ k = .back := by
  cases h with
  | nil => cases hk
  | keep j rest => exact rest.mem hk
  | span body rest =>
    obtain ⟨c, m, rfl⟩ := List.exists_cons_of_ne_nil hmark
    simp only [List.cons_append, List.map_cons, List.tail_cons, List.mem_append,
      List.mem_cons] at hk ⊢
    rcases hk with hk | rfl | hk
    · exact .inl (.inl (.inl (.inr hk)))
    · exact .inr (.inr rfl)
    · exact (rest.mem hk).imp_left .inr

end Dressed

/-! ### The three kinds of span -/

/-- The marks of the three kinds of span with the font that they are set in, in the order in which
they are replaced. -/
def spanKinds : List (Text × Token) :=
  [([Text.backtick], .bold), (['*', '*'], .bold), (['*'], .italic)]

/-- A character that marks a span. -/
def isSpanMark (c : Char) : Bool := c = '*' || c = Text.backtick

/-- What is known of a kind of span. -/
theorem of_mem_spanKinds {mark : Text} {font : Token} (h : (mark, font) ∈ spanKinds) :
    mark ≠ [] ∧ (∀ c ∈ mark, isSpanMark c = true) ∧ (font = .bold ∨ font = .italic) := by
  simp only [spanKinds, List.mem_cons, List.not_mem_nil, or_false, Prod.mk.injEq] at h
  rcases h with ⟨rfl, rfl⟩ | ⟨rfl, rfl⟩ | ⟨rfl, rfl⟩ <;> simp [isSpanMark]

/-- Tokens, and what becomes of them when spans of some kinds are set one kind after the other. -/
inductive Dressing : List (Text × Token) → List Token → List Token → Prop
  | nil (ts : List Token) : Dressing [] ts ts
  | cons {mark : Text} {font : Token} {kinds : List (Text × Token)} {ts us vs : List Token}
      (first : Dressed mark font ts us) (rest : Dressing kinds us vs) :
      Dressing ((mark, font) :: kinds) ts vs

/-- **What every kind of span keeps is kept**, however spans of one kind lie in spans of another. -/
theorem Dressing.keeps {kinds : List (Text × Token)} {ts us : List Token} {P : List Token → Prop}
    (step : ∀ mark font, (mark, font) ∈ kinds → ∀ ts us, Dressed mark font ts us → P ts → P us)
    (h : Dressing kinds ts us) (hts : P ts) : P us := by
  induction h with
  | nil => exact hts
  | cons first _ ih =>
    refine ih (fun mark font hmem => step mark font (List.mem_cons_of_mem _ hmem)) ?_
    exact step _ _ (List.mem_cons_self ..) _ _ first hts

/-- The tokens of an escaped text. -/
def escapeTokens (t : Text) : List Token :=
  if looksLikeRequest (t.flatMap escapeChar) then .guard :: t.map Token.ofChar
  else t.map Token.ofChar

theorem written_escapeTokens (t : Text) : written (escapeTokens t) = escape t := by
  simp only [escapeTokens, escape]
  split
  · rw [written_cons, written_map_ofChar]
    rfl
  · exact written_map_ofChar t

theorem forall_mem_escapeTokens {P : Token → Prop} (guard : P .guard) (ofChar : ∀ c, P (.ofChar c))
    (t : Text) : ∀ k ∈ escapeTokens t, P k := by
  have hchars : ∀ k ∈ t.map Token.ofChar, P k := by
    intro k hk
    obtain ⟨c, -, rfl⟩ := List.mem_map.1 hk
    exact ofChar c
  unfold escapeTokens
  split
  · exact List.forall_mem_cons.2 ⟨guard, hchars⟩
  · exact hchars

/-- **Escaped text is escaped.** -/
theorem isEscaped_escape (t : Text) : IsEscaped (escape t) := by
  rw [← written_escapeTokens]
  exact isEscaped_written (forall_mem_escapeTokens trivial Token.isOrdinary_ofChar t)

theorem guard_notMem_tail_escapeTokens (t : Text) : .guard ∉ (escapeTokens t).tail := by
  have hchars : .guard ∉ t.map Token.ofChar := by
    intro h
    obtain ⟨c, -, hc⟩ := List.mem_map.1 h
    have hset := Token.char?_ofChar c
    rw [hc] at hset
    cases hset
  unfold escapeTokens
  split
  · exact hchars
  · exact fun h => hchars (List.mem_of_mem_tail h)

theorem exists_dressing_inline (t : Text) :
    ∃ us, inline t = written us ∧ Dressing spanKinds (escapeTokens t) us := by
  have hcode := spanned_codeSpans (escape t)
  rw [← written_escapeTokens] at hcode
  obtain ⟨us, hus, hcode⟩ := hcode.exists_dressed (by decide)
    (by simp [Reading.isOutside_backtick]) (rfl : Token.bold.spell = _)
  have hstrong := spanned_strongSpans (written us)
  obtain ⟨vs, hvs, hstrong⟩ := hstrong.exists_dressed (by decide)
    (by simp [Reading.isOutside_asterisk]) (rfl : Token.bold.spell = _)
  have hemphasis := spanned_emphasisSpans none (written vs)
  obtain ⟨ws, hws, hemphasis⟩ := hemphasis.exists_dressed (by decide)
    (by simp [Reading.isOutside_asterisk]) (rfl : Token.italic.spell = _)
  refine ⟨ws, ?_, .cons hcode (.cons hstrong (.cons hemphasis (.nil ws)))⟩
  rw [inline, ← written_escapeTokens, hus, hvs, hws]

/-- The tokens of a line are ordinary. -/
theorem isOrdinary_of_dressing {t : Text} {us : List Token}
    (h : Dressing spanKinds (escapeTokens t) us) : ∀ k ∈ us, k.IsOrdinary := by
  refine h.keeps (P := fun ts => ∀ k ∈ ts, k.IsOrdinary) ?_
    (forall_mem_escapeTokens trivial Token.isOrdinary_ofChar t)
  intro mark font hkind ts us hdressed hts k hk
  rcases hdressed.mem hk with hk | rfl | rfl
  · exact hts k hk
  · rcases (of_mem_spanKinds hkind).2.2 with rfl | rfl <;> trivial
  · trivial

/-- **The tokens of a line of a document** are those of the escaped text with its spans set. -/
theorem dressing_tokens_inline (t : Text) :
    Dressing spanKinds (escapeTokens t) (tokens (inline t)) := by
  obtain ⟨us, hus, h⟩ := exists_dressing_inline t
  rwa [hus, tokens_written (isOrdinary_of_dressing h)]

/-- **A line of a document is escaped**, also after its spans are set. -/
theorem isEscaped_inline (t : Text) : IsEscaped (inline t) := by
  rw [← written_tokens (inline t)]
  exact isEscaped_written (isOrdinary_of_dressing (dressing_tokens_inline t))

end Roff

end CommandManual
