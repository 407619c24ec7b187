import CommandManual.Proofs.Roff.Spans

/-!
# Escapes in the source of a page

A reader of a page has to know how far it is in an escape when it meets a character. `Reading` is
that knowledge, and `Reading.scan` follows it over a text. It stops at a backslash that begins no
escape of a page and at a hyphen that is not escaped, so that a text which is read from plain to
plain has neither (`backslash_begins_escape`, `hyphen_is_escaped`).

No mark of a span is a part of an escape (`Reading.IsOutside`).

## Main definitions

* `Roff.escapes`: what follows the backslash in the escapes of a page.
* `Roff.Reading`, `Roff.Reading.next`, `Roff.Reading.scan`: the reader.
* `Roff.IsEscaped`: a text is read from plain to plain.

## Main results

* `Roff.IsEscaped.backslash_begins_escape`, `Roff.IsEscaped.hyphen_is_escaped`: what escaped text
  is.
* `Roff.IsEscaped.append`: escaped texts in a row.
-/

namespace CommandManual

namespace Roff

/-! ### Escaping -/

theorem mem_flatMap_escapeChar {c : Char} {t : Text} (h : c ∈ t.flatMap escapeChar) :
    c ∈ t ∨ c ∈ ['\\', 'e', '-'] := by
  have hescape : ∀ c ∈ ['\\', 'e'] ++ ['\\', '-'], c ∈ ['\\', 'e', '-'] := by simp
  obtain ⟨d, hd, h⟩ := List.mem_flatMap.1 h
  unfold escapeChar at h
  split at h
  · exact .inr (hescape c (List.mem_append_left _ h))
  · split at h
    · exact .inr (hescape c (List.mem_append_right _ h))
    · exact .inl (List.mem_singleton.1 h ▸ hd)

/-- The characters of an escaped text are those of the text and of its escapes. -/
theorem mem_escape {c : Char} {t : Text} (h : c ∈ escape t) :
    c ∈ t ∨ c ∈ ['\\', 'e', '-', '&'] := by
  have hbody (h : c ∈ t.flatMap escapeChar) : c ∈ t ∨ c ∈ ['\\', 'e', '-', '&'] :=
    (mem_flatMap_escapeChar h).imp_right fun h => List.mem_append_left ['&'] h
  simp only [escape] at h
  split at h
  · simp only [List.mem_cons] at h
    rcases h with rfl | rfl | h
    · exact .inr (by decide)
    · exact .inr (by decide)
    · exact hbody h
  · exact hbody h

/-- Only the beginning of a text is escaped otherwise than the rest. -/
theorem escape_append {s t : Text} (h : looksLikeRequest (t.flatMap escapeChar) = false) :
    escape (s ++ t) = escape s ++ t.flatMap escapeChar := by
  have hrequest (u : Text) : looksLikeRequest (u ++ t.flatMap escapeChar) = looksLikeRequest u := by
    cases u with
    | nil => exact h
    | cons c u => rfl
  simp only [escape, List.flatMap_append, hrequest]
  split <;> rfl

/-! ### Readers -/

/-- What follows the backslash in the escapes of a page: a backslash, a hyphen, nothing at all,
three changes of font, and a bullet. -/
def escapes : List Text :=
  ["e".toList, "-".toList, "&".toList, "fB".toList, "fI".toList, "fP".toList, "(bu".toList]

/-- How far a reader is in an escape. -/
inductive Reading where
  | plain
  /-- Behind a backslash. -/
  | begun
  /-- Behind a backslash and an `f`. -/
  | font
  /-- Behind a backslash and a parenthesis. -/
  | special
  /-- Behind the first letter of a bullet's name. -/
  | bullet
  deriving DecidableEq, Repr

namespace Reading

/-- Read one character. -/
def next (q : Reading) (c : Char) : Option Reading :=
  match q with
  | .plain => if c = '\\' then some .begun else if c = '-' then none else some .plain
  | .begun =>
    if c = 'e' ∨ c = '-' ∨ c = '&' then some .plain
    else if c = 'f' then some .font
    else if c = '(' then some .special
    else none
  | .font => if c = 'B' ∨ c = 'I' ∨ c = 'P' then some .plain else none
  | .special => if c = 'b' then some .bullet else none
  | .bullet => if c = 'u' then some .plain else none

/-- Read a text. -/
def scan (q : Reading) : Text → Option Reading
  | [] => some q
  | c :: t => (q.next c).bind fun r => scan r t

variable {q r : Reading} {s t : Text} {c : Char}

@[simp] theorem scan_nil : q.scan [] = some q := rfl

theorem scan_cons : q.scan (c :: t) = (q.next c).bind fun r => r.scan t := rfl

theorem scan_append : q.scan (s ++ t) = (q.scan s).bind fun r => r.scan t := by
  induction s generalizing q with
  | nil => rfl
  | cons c s ih =>
    rw [List.cons_append, scan_cons, scan_cons]
    cases q.next c with
    | none => rfl
    | some q' => exact ih

theorem scan_append_eq_some_iff :
    q.scan (s ++ t) = some r ↔ ∃ p, q.scan s = some p ∧ p.scan t = some r := by
  rw [scan_append, Option.bind_eq_some_iff]

/-- Only a backslash begins an escape, and only in plain text. -/
theorem eq_of_next_begun (h : q.next c = some .begun) : q = .plain ∧ c = '\\' := by
  cases q <;> simp only [next] at h <;> grind

/-- A backslash is read in plain text only. -/
theorem eq_of_next_backslash (h : q.next '\\' = some r) : q = .plain ∧ r = .begun := by
  cases q <;> simp [next] at h ⊢
  exact h.symm

/-- A hyphen is read behind a backslash only. -/
theorem eq_of_next_hyphen (h : q.next '-' = some r) : q = .begun := by
  cases q <;> simp [next] at h ⊢

/-- A character that is in no escape. -/
def IsOutside (c : Char) : Prop := c ∉ '\\' :: escapes.flatten

instance (c : Char) : Decidable (IsOutside c) := inferInstanceAs (Decidable (¬ _))

theorem isOutside_backtick : IsOutside Text.backtick := by decide

theorem isOutside_asterisk : IsOutside '*' := by decide

/-- A reader that has changed has read a character. -/
theorem exists_cons_of_scan (hne : q ≠ r) (h : q.scan t = some r) :
    ∃ c u p, t = c :: u ∧ q.next c = some p ∧ p.scan u = some r := by
  cases t with
  | nil => exact absurd (Option.some.inj h) hne
  | cons c u =>
    obtain ⟨p, hp, h⟩ := Option.bind_eq_some_iff.1 h
    exact ⟨c, u, p, rfl, hp, h⟩

theorem prefix_of_scan_font (h : Reading.font.scan t = some .plain) :
    ['B'] <+: t ∨ ['I'] <+: t ∨ ['P'] <+: t := by
  obtain ⟨c, u, p, rfl, hp, -⟩ := exists_cons_of_scan (by decide) h
  simp only [next] at hp
  split at hp
  · next hc =>
    rcases hc with rfl | rfl | rfl
    · exact .inl ⟨u, rfl⟩
    · exact .inr (.inl ⟨u, rfl⟩)
    · exact .inr (.inr ⟨u, rfl⟩)
  · cases hp

theorem prefix_of_scan_special (h : Reading.special.scan t = some .plain) : ['b', 'u'] <+: t := by
  obtain ⟨c, u, p, rfl, hp, h⟩ := exists_cons_of_scan (by decide) h
  simp only [next] at hp
  split at hp
  · next hc =>
    obtain rfl := Option.some.inj hp
    obtain ⟨d, v, p, rfl, hp, -⟩ := exists_cons_of_scan (by decide) h
    simp only [next] at hp
    split at hp
    · next hd => exact ⟨v, by rw [hc, hd]; rfl⟩
    · cases hp
  · cases hp

/-- What is read behind a backslash, up to plain text, begins with the rest of an escape. -/
theorem exists_prefix_of_scan_begun (h : Reading.begun.scan t = some .plain) :
    ∃ e ∈ escapes, e <+: t := by
  obtain ⟨c, u, p, rfl, hp, h⟩ := exists_cons_of_scan (by decide) h
  simp only [next] at hp
  split at hp
  · next hc => exact ⟨[c], by rcases hc with rfl | rfl | rfl <;> decide, u, rfl⟩
  · split at hp
    · next hc =>
      obtain rfl := Option.some.inj hp
      subst hc
      rcases prefix_of_scan_font h with h | h | h
      · exact ⟨['f', 'B'], by decide, List.cons_prefix_cons.2 ⟨rfl, h⟩⟩
      · exact ⟨['f', 'I'], by decide, List.cons_prefix_cons.2 ⟨rfl, h⟩⟩
      · exact ⟨['f', 'P'], by decide, List.cons_prefix_cons.2 ⟨rfl, h⟩⟩
    · split at hp
      · next hc =>
        obtain rfl := Option.some.inj hp
        subst hc
        have hbullet := prefix_of_scan_special h
        exact ⟨['(', 'b', 'u'], by decide, List.cons_prefix_cons.2 ⟨rfl, hbullet⟩⟩
      · cases hp

/-- A reader that is behind a backslash has just read it. -/
theorem getLast?_of_scan_begun (h : Reading.plain.scan t = some .begun) :
    t.getLast? = some '\\' := by
  rcases List.eq_nil_or_concat t with rfl | ⟨s, c, rfl⟩
  · cases h
  · rw [List.concat_eq_append] at h ⊢
    obtain ⟨p, -, h⟩ := scan_append_eq_some_iff.1 h
    obtain ⟨r, hr, h⟩ := Option.bind_eq_some_iff.1 h
    obtain rfl := Option.some.inj h
    rw [List.getLast?_concat, (eq_of_next_begun hr).2]

end Reading

/-! ### Escaped text -/

/-- A text that is read from plain to plain: every backslash in it begins an escape, and every
hyphen is escaped. -/
def IsEscaped (t : Text) : Prop := Reading.plain.scan t = some .plain

instance (t : Text) : Decidable (IsEscaped t) := inferInstanceAs (Decidable (_ = _))

namespace IsEscaped

variable {s t : Text}

theorem nil : IsEscaped [] := rfl

theorem append (hs : IsEscaped s) (ht : IsEscaped t) : IsEscaped (s ++ t) :=
  Reading.scan_append_eq_some_iff.2 ⟨.plain, hs, ht⟩

/-- **Every backslash begins an escape.** -/
theorem backslash_begins_escape {before behind : Text}
    (h : IsEscaped (before ++ '\\' :: behind)) : ∃ e ∈ escapes, e <+: behind := by
  obtain ⟨p, -, h⟩ := Reading.scan_append_eq_some_iff.1 h
  obtain ⟨r, hr, h⟩ := Option.bind_eq_some_iff.1 h
  obtain ⟨-, rfl⟩ := Reading.eq_of_next_backslash hr
  exact Reading.exists_prefix_of_scan_begun h

/-- **Every hyphen is escaped.** -/
theorem hyphen_is_escaped {before behind : Text} (h : IsEscaped (before ++ '-' :: behind)) :
    before.getLast? = some '\\' := by
  obtain ⟨p, hp, h⟩ := Reading.scan_append_eq_some_iff.1 h
  obtain ⟨r, hr, -⟩ := Option.bind_eq_some_iff.1 h
  obtain rfl := Reading.eq_of_next_hyphen hr
  exact Reading.getLast?_of_scan_begun hp

end IsEscaped

end Roff

end CommandManual
