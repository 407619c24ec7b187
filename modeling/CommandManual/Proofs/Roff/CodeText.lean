import CommandManual.Proofs.Roff.Escapes

/-!
# Text with code spans

Code spans are set first, and the marks of strong and emphasized text are looked for in what that
leaves. So an asterisk of a code span is no longer known as code: with others of its line, from the
same span or from another one, it makes a span of its own. A line with code is set as its pieces ask
for exactly if nothing that its code spans leave makes strong or emphasized text
(`inline_source_eq_literal_iff`).

Where strong and emphasized text stand is stated by their marks alone (`HasStrong`, `HasEmphasis`).
That the replacements find a span if there is one, by whatever order they look for it, is the
content of `strongSpans_eq_self_iff` and `emphasisSpans_eq_self_iff`.

## Main definitions

* `Roff.HasStrong`, `Roff.HasEmphasis`: somewhere in the text strong or emphasized text begins.
* `Roff.CodeSpan`, `Roff.CodeText`: a text cut at its code spans. `source` is how it is written,
  `literal` how its pieces ask to be set.

## Main results

* `Roff.strongSpans_eq_self_iff`, `Roff.emphasisSpans_eq_self_iff`: which texts stay as they are.
* `Roff.CodeText.codeSpans_source`: code spans by themselves are set literally.
* `Roff.inline_source_eq_literal_iff`: which lines with code are set literally.
-/

namespace CommandManual

namespace Roff

/-! ### Places in a text -/

/-- Something begins somewhere in the text. Whether it does may depend on the character in front;
`last` is the one in front of the text. -/
def Somewhere (P : Option Char → Text → Prop) (last : Option Char) (t : Text) : Prop :=
  ∃ front rest, t = front ++ rest ∧ P (front.getLast?.or last) rest

section Somewhere

variable {P : Option Char → Text → Prop} {last : Option Char} {c : Char} {t : Text}

theorem somewhere_nil_iff : Somewhere P last [] ↔ P last [] := by
  constructor
  · rintro ⟨front, rest, heq, h⟩
    obtain ⟨rfl, rfl⟩ := List.append_eq_nil_iff.1 heq.symm
    exact h
  · exact fun h => ⟨[], [], rfl, h⟩

theorem somewhere_cons_iff :
    Somewhere P last (c :: t) ↔ P last (c :: t) ∨ Somewhere P (some c) t := by
  have hfront (front : Text) : (c :: front).getLast?.or last = front.getLast?.or (some c) := by
    rw [List.getLast?_cons]
    cases front.getLast? <;> rfl
  constructor
  · rintro ⟨front, rest, heq, h⟩
    cases front with
    | nil => exact .inl (heq ▸ h)
    | cons d front =>
      obtain ⟨rfl, rfl⟩ := List.cons.inj heq
      exact .inr ⟨front, rest, rfl, hfront front ▸ h⟩
  · rintro (h | ⟨front, rest, rfl, h⟩)
    · exact ⟨[], c :: t, rfl, h⟩
    · exact ⟨c :: front, rest, rfl, (hfront front).symm ▸ h⟩

end Somewhere

/-! ### Strong text -/

/-- The text begins with strong text: two pairs of asterisks with something of one line between. -/
def StartsStrong (t : Text) : Prop :=
  ∃ body rest, t = '*' :: '*' :: (body ++ '*' :: '*' :: rest) ∧ body ≠ [] ∧ '\n' ∉ body

/-- Strong text begins somewhere. -/
def HasStrong (t : Text) : Prop := Somewhere (fun _ => StartsStrong) none t

/-- A pair of asterisks is found on the line if there is one. -/
theorem isSome_splitStrong_iff {t : Text} :
    (splitStrong t).isSome ↔ ∃ body rest, t = body ++ '*' :: '*' :: rest ∧ '\n' ∉ body := by
  induction t with
  | nil => simp [splitStrong]
  | cons c t ih =>
    rw [splitStrong]
    split
    · next hc =>
      rw [Bool.and_eq_true, decide_eq_true_eq, decide_eq_true_eq] at hc
      obtain ⟨rfl, hhead⟩ := hc
      obtain ⟨u, rfl⟩ := List.head?_eq_some_iff.1 hhead
      exact iff_of_true rfl ⟨[], u, rfl, List.not_mem_nil⟩
    · next hc =>
      have hbody {body rest : Text} (heq : c :: t = body ++ '*' :: '*' :: rest) :
          ∃ tail, body = c :: tail ∧ t = tail ++ '*' :: '*' :: rest := by
        cases body with
        | nil =>
          cases heq
          exact absurd rfl hc
        | cons d tail =>
          obtain ⟨rfl, rfl⟩ := List.cons.inj heq
          exact ⟨tail, rfl, rfl⟩
      split
      · next hnewline =>
        refine iff_of_false Bool.false_ne_true ?_
        rintro ⟨body, rest, heq, hmem⟩
        obtain ⟨tail, rfl, -⟩ := hbody heq
        exact hmem (hnewline ▸ List.mem_cons_self ..)
      · next hnewline =>
        rw [Option.isSome_map, ih]
        constructor
        · rintro ⟨body, rest, rfl, hmem⟩
          exact ⟨c :: body, rest, rfl, by simp [Ne.symm hnewline, hmem]⟩
        · rintro ⟨body, rest, heq, hmem⟩
          obtain ⟨tail, rfl, rfl⟩ := hbody heq
          exact ⟨tail, rest, rfl, List.not_mem_of_not_mem_cons hmem⟩

theorem startsStrong_iff {c : Char} {t : Text} :
    StartsStrong ('*' :: '*' :: c :: t) ↔ c ≠ '\n' ∧ (splitStrong t).isSome := by
  rw [isSome_splitStrong_iff]
  constructor
  · rintro ⟨body, rest, heq, hne, hmem⟩
    obtain ⟨d, body, rfl⟩ := List.exists_cons_of_ne_nil hne
    obtain ⟨rfl, rfl⟩ := List.cons.inj (List.cons.inj (List.cons.inj heq).2).2
    exact ⟨(List.ne_of_not_mem_cons hmem).symm, body, rest, rfl, List.not_mem_of_not_mem_cons hmem⟩
  · rintro ⟨hc, body, rest, rfl, hmem⟩
    exact ⟨c :: body, rest, rfl, List.cons_ne_nil c body, by simp [Ne.symm hc, hmem]⟩

/-- A text stays as it is if no strong text begins in it. -/
theorem strongSpans_eq_self_iff (last : Option Char) (t : Text) :
    strongSpans t = t ↔ ¬ Somewhere (fun _ => StartsStrong) last t := by
  fun_induction strongSpans t generalizing last with
  | case1 t ih =>
    have hnone : ¬ StartsStrong ('*' :: '*' :: '\n' :: t) := fun h => (startsStrong_iff.1 h).1 rfl
    have htail : ¬ StartsStrong ('*' :: '\n' :: t) := by rintro ⟨_, _, heq, -⟩; cases heq
    have hline : ¬ StartsStrong ('\n' :: t) := by rintro ⟨_, _, heq, -⟩; cases heq
    simp only [List.cons_inj_right, ih (some '\n'), somewhere_cons_iff, hnone, htail, hline,
      false_or]
  | case2 c t hc body rest h _ ih =>
    have hstarts : StartsStrong ('*' :: '*' :: c :: t) := startsStrong_iff.2 ⟨hc, by rw [h]; rfl⟩
    refine iff_of_false (fun heq => ?_) (not_not_intro (somewhere_cons_iff.2 (.inl hstarts)))
    cases heq
  | case3 c t hc h ih =>
    have hnone : ¬ StartsStrong ('*' :: '*' :: c :: t) := fun hs => by
      simpa [h] using (startsStrong_iff.1 hs).2
    rw [List.cons_inj_right, ih (some '*'), somewhere_cons_iff (t := '*' :: c :: t),
      or_iff_right hnone]
  | case4 c t hplain ih =>
    have hnone : ¬ StartsStrong (c :: t) := by
      rintro ⟨body, rest, heq, hne, -⟩
      obtain ⟨d, body, rfl⟩ := List.exists_cons_of_ne_nil hne
      obtain ⟨rfl, rfl⟩ := List.cons.inj heq
      exact hplain d _ rfl rfl
    rw [List.cons_inj_right, ih (some c), somewhere_cons_iff, or_iff_right hnone]
  | case5 =>
    refine iff_of_true rfl fun h => ?_
    obtain ⟨_, _, heq, -⟩ := somewhere_nil_iff.1 h
    cases heq

/-! ### Emphasized text -/

/-- The text begins with emphasized text: two asterisks, at the edges of words outside and inside,
with something of one line between. `last` is the character in front. -/
def StartsEmphasis (last : Option Char) (t : Text) : Prop :=
  ∃ body rest, t = '*' :: (body ++ '*' :: rest) ∧ '\n' ∉ body ∧
    isOuterEdge last ∧ body.head?.any isInnerEdge ∧
    body.getLast?.any isInnerEdge ∧ isOuterEdge rest.head?

/-- Emphasized text begins somewhere. -/
def HasEmphasis (t : Text) : Prop := Somewhere StartsEmphasis none t

/-- An asterisk that can close is found on the line if there is one. -/
theorem isSome_splitEmphasis_iff {last : Char} {t : Text} :
    (splitEmphasis last t).isSome ↔ ∃ body rest, t = body ++ '*' :: rest ∧ '\n' ∉ body ∧
      isInnerEdge (body.getLast?.getD last) ∧ isOuterEdge rest.head? := by
  induction t generalizing last with
  | nil => simp [splitEmphasis]
  | cons c t ih =>
    rw [splitEmphasis]
    split
    · next hc =>
      rw [Bool.and_eq_true, Bool.and_eq_true, decide_eq_true_eq] at hc
      obtain ⟨⟨rfl, hinner⟩, houter⟩ := hc
      exact iff_of_true rfl ⟨[], t, rfl, List.not_mem_nil, hinner, houter⟩
    · next hc =>
      have hbody {body rest : Text} (heq : c :: t = body ++ '*' :: rest)
          (hinner : isInnerEdge (body.getLast?.getD last)) (houter : isOuterEdge rest.head?) :
          ∃ tail, body = c :: tail ∧ t = tail ++ '*' :: rest := by
        cases body with
        | nil =>
          obtain ⟨rfl, rfl⟩ := List.cons.inj heq
          exact absurd (by simpa using ⟨hinner, houter⟩) hc
        | cons d tail =>
          obtain ⟨rfl, rfl⟩ := List.cons.inj heq
          exact ⟨tail, rfl, rfl⟩
      split
      · next hnewline =>
        refine iff_of_false Bool.false_ne_true ?_
        rintro ⟨body, rest, heq, hmem, hinner, houter⟩
        obtain ⟨tail, rfl, -⟩ := hbody heq hinner houter
        exact hmem (hnewline ▸ List.mem_cons_self ..)
      · next hnewline =>
        rw [Option.isSome_map, ih]
        constructor
        · rintro ⟨body, rest, rfl, hmem, hinner, houter⟩
          refine ⟨c :: body, rest, rfl, by simp [Ne.symm hnewline, hmem], ?_, houter⟩
          rwa [List.getLast?_cons, Option.getD_some]
        · rintro ⟨body, rest, heq, hmem, hinner, houter⟩
          obtain ⟨tail, rfl, rfl⟩ := hbody heq hinner houter
          rw [List.getLast?_cons, Option.getD_some] at hinner
          exact ⟨tail, rest, rfl, List.not_mem_of_not_mem_cons hmem, hinner, houter⟩

theorem startsEmphasis_iff {last : Option Char} {c d : Char} {u : Text} :
    StartsEmphasis last (c :: d :: u) ↔
      (c = '*' ∧ isOuterEdge last) ∧ isInnerEdge d ∧ (splitEmphasis d u).isSome := by
  rw [isSome_splitEmphasis_iff]
  constructor
  · rintro ⟨body, rest, heq, hmem, hlast, hhead, hinner, houter⟩
    cases body with
    | nil => cases hhead
    | cons e body =>
      injection heq with hc heq
      injection heq with hd heq
      subst hc hd heq
      rw [List.getLast?_cons] at hinner
      exact ⟨⟨rfl, hlast⟩, hhead, body, rest, rfl, List.not_mem_of_not_mem_cons hmem, hinner,
        houter⟩
  · rintro ⟨⟨rfl, hlast⟩, hhead, body, rest, rfl, hmem, hinner, houter⟩
    have hne : '\n' ≠ d := by
      rintro rfl
      exact absurd hhead (by decide)
    refine ⟨d :: body, rest, rfl, by simp [hne, hmem], hlast, hhead, ?_, houter⟩
    rwa [List.getLast?_cons]

/-- A text stays as it is if no emphasized text begins in it. -/
theorem emphasisSpans_eq_self_iff (last : Option Char) (t : Text) :
    emphasisSpans last t = t ↔ ¬ Somewhere StartsEmphasis last t := by
  fun_induction emphasisSpans last t with
  | case1 last =>
    refine iff_of_true rfl fun h => ?_
    obtain ⟨_, _, heq, -⟩ := somewhere_nil_iff.1 h
    cases heq
  | case2 last c hc d u hd body rest h _ ih =>
    rw [Bool.and_eq_true, decide_eq_true_eq] at hc
    have hstarts : StartsEmphasis last (c :: d :: u) :=
      startsEmphasis_iff.2 ⟨hc, hd, by rw [h]; rfl⟩
    refine iff_of_false (fun heq => ?_) (not_not_intro (somewhere_cons_iff.2 (.inl hstarts)))
    obtain ⟨rfl, -⟩ := hc
    cases heq
  | case3 last c hc d u hd h ih =>
    have hnone : ¬ StartsEmphasis last (c :: d :: u) := fun hs => by
      simpa [h] using (startsEmphasis_iff.1 hs).2.2
    rw [List.cons_inj_right, ih, somewhere_cons_iff (c := c), or_iff_right hnone]
  | case4 last c hc d u hd ih =>
    have hnone : ¬ StartsEmphasis last (c :: d :: u) := fun hs => hd (startsEmphasis_iff.1 hs).2.1
    rw [List.cons_inj_right, ih, somewhere_cons_iff (c := c), or_iff_right hnone]
  | case5 last c hc =>
    have hnone : ¬ StartsEmphasis last [c] := by
      rintro ⟨body, rest, heq, -⟩
      simp at heq
    have hempty : ¬ StartsEmphasis (some c) [] := by rintro ⟨_, _, heq, -⟩; cases heq
    simp only [somewhere_cons_iff, somewhere_nil_iff, hnone, hempty, or_false, not_false_eq_true]
  | case6 last c t hc ih =>
    have hnone : ¬ StartsEmphasis last (c :: t) := by
      rintro ⟨body, rest, heq, -, hlast, -⟩
      obtain ⟨rfl, -⟩ := List.cons.inj heq
      exact hc (by simpa using hlast)
    rw [List.cons_inj_right, ih, somewhere_cons_iff, or_iff_right hnone]

/-! ### Code -/

theorem codeSpans_append_of_notMem {p : Text} (hp : Text.backtick ∉ p) (t : Text) :
    codeSpans (p ++ t) = p ++ codeSpans t := by
  induction p with
  | nil => rfl
  | cons c p ih =>
    rw [List.cons_append, codeSpans, if_neg (List.ne_of_not_mem_cons hp).symm,
      ih (List.not_mem_of_not_mem_cons hp), List.cons_append]

theorem splitBacktick_append_of_notMem {s : Text} (hs : Text.backtick ∉ s) (t : Text) :
    splitBacktick (s ++ Text.backtick :: t) = some (s, t) := by
  induction s with
  | nil => exact if_pos rfl
  | cons c s ih =>
    rw [List.cons_append, splitBacktick, if_neg (List.ne_of_not_mem_cons hs).symm,
      ih (List.not_mem_of_not_mem_cons hs), Option.map_some]

/-- A code span is set in bold. -/
theorem codeSpans_span {s : Text} (hne : s ≠ []) (hs : Text.backtick ∉ s) (t : Text) :
    codeSpans (Text.backtick :: (s ++ Text.backtick :: t)) = inFont 'B' s ++ codeSpans t := by
  have hsplit := splitBacktick_append_of_notMem hs t
  obtain ⟨c, s, rfl⟩ := List.exists_cons_of_ne_nil hne
  rw [codeSpans, if_pos rfl]
  split
  · next d body rest h =>
    cases h.symm.trans hsplit
    rfl
  · next h => exact absurd hsplit (h c s t)

/-- A code span and the piece of text behind it. -/
structure CodeSpan where
  code : Text
  behind : Text
  code_ne_nil : code ≠ []
  code_plain : Text.backtick ∉ code
  behind_plain : Text.backtick ∉ behind

namespace CodeSpan

/-- The span as it is written, with backticks. -/
def source (s : CodeSpan) : Text := Text.backtick :: (s.code ++ Text.backtick :: s.behind)

/-- The span with its code in bold, and both pieces escaped. -/
def literal (s : CodeSpan) : Text :=
  inFont 'B' (s.code.flatMap escapeChar) ++ s.behind.flatMap escapeChar

theorem flatMap_source (s : CodeSpan) : s.source.flatMap escapeChar =
    Text.backtick ::
      (s.code.flatMap escapeChar ++ Text.backtick :: s.behind.flatMap escapeChar) := by
  have htick : escapeChar Text.backtick = [Text.backtick] := by decide
  simp only [source, List.flatMap_cons, List.flatMap_append, htick, List.singleton_append]

/-- A code span is set literally, and what stands behind it is set for itself. -/
theorem codeSpans_source_append (s : CodeSpan) (t : Text) :
    codeSpans (s.source.flatMap escapeChar ++ t) = s.literal ++ codeSpans t := by
  have hplain {t : Text} (ht : Text.backtick ∉ t) : Text.backtick ∉ t.flatMap escapeChar :=
    fun hmem => (mem_flatMap_escapeChar hmem).elim ht (by decide)
  have hescape (c : Char) : escapeChar c ≠ [] := by grind [escapeChar]
  have hne : s.code.flatMap escapeChar ≠ [] := fun hnil =>
    hescape _ (List.flatMap_eq_nil_iff.1 hnil _ (List.head_mem s.code_ne_nil))
  rw [flatMap_source, List.cons_append, List.append_assoc, List.cons_append,
    codeSpans_span hne (hplain s.code_plain), codeSpans_append_of_notMem (hplain s.behind_plain),
    literal, List.append_assoc]

end CodeSpan

/-- A text cut at its code spans. -/
structure CodeText where
  lead : Text
  spans : List CodeSpan
  lead_plain : Text.backtick ∉ lead

namespace CodeText

/-- The text as it is written. -/
def source (t : CodeText) : Text := t.lead ++ t.spans.flatMap CodeSpan.source

/-- The text with its pieces escaped, its code in bold, and no other change of font. -/
def literal (t : CodeText) : Text := escape t.lead ++ t.spans.flatMap CodeSpan.literal

/-- A text with code is escaped span by span: none of them begins like a request. -/
theorem escape_source (t : CodeText) : escape t.source =
    escape t.lead ++ t.spans.flatMap fun s => s.source.flatMap escapeChar := by
  have hrequest :
      looksLikeRequest ((t.spans.flatMap CodeSpan.source).flatMap escapeChar) = false := by
    cases t.spans with
    | nil => rfl
    | cons s spans =>
      rw [List.flatMap_cons, List.flatMap_append, CodeSpan.flatMap_source]
      rfl
  rw [source, escape_append hrequest, List.flatMap_assoc]

/-- Code spans by themselves are set literally. -/
theorem codeSpans_source (t : CodeText) : codeSpans (escape t.source) = t.literal := by
  have hlead : Text.backtick ∉ escape t.lead :=
    fun hmem => (mem_escape hmem).elim t.lead_plain (by decide)
  rw [escape_source, codeSpans_append_of_notMem hlead, literal, List.append_cancel_left_eq]
  induction t.spans with
  | nil => rw [List.flatMap_nil, List.flatMap_nil, codeSpans]
  | cons s spans ih =>
    rw [List.flatMap_cons, s.codeSpans_source_append, ih, List.flatMap_cons]

end CodeText

/-! ### Lines with code -/

/-- **Which lines with code are set literally.** A line is set as its pieces ask for exactly if no
strong and no emphasized text begins in what its code spans leave. -/
theorem inline_source_eq_literal_iff (t : CodeText) :
    inline t.source = t.literal ↔ ¬ HasStrong t.literal ∧ ¬ HasEmphasis t.literal := by
  have hstrong := spanned_strongSpans t.literal
  have hemphasis := spanned_emphasisSpans none (strongSpans t.literal)
  rw [inline, t.codeSpans_source, HasStrong, HasEmphasis, ← strongSpans_eq_self_iff,
    ← emphasisSpans_eq_self_iff]
  constructor
  · intro h
    -- A span makes the text longer, so one that is set cannot be taken back by the other kind.
    have hkept : strongSpans t.literal = t.literal :=
      hstrong.eq_of_length_le (by decide) (by simpa [h] using hemphasis.length_le (by decide))
    exact ⟨hkept, by rwa [hkept] at h⟩
  · rintro ⟨hstrong, hemphasis⟩
    rw [hstrong, hemphasis]

/-- Two globs in code: the asterisks of one are paired with those of the other. -/
theorem globs_not_literal :
    ∃ t : CodeText, '*' ∉ t.lead ∧ (∀ s ∈ t.spans, '*' ∉ s.behind) ∧
      t.source = "`**/*.md` or `**/*.py`".toList ∧
      t.literal = "\\fB**/*.md\\fP or \\fB**/*.py\\fP".toList ∧
      inline t.source = "\\fB\\fB/\\fI.md\\fP or \\fB\\fP/\\fP.py\\fP".toList :=
  let first : CodeSpan := ⟨"**/*.md".toList, " or ".toList, by decide, by decide, by decide⟩
  let second : CodeSpan := ⟨"**/*.py".toList, [], by decide, by decide, by decide⟩
  ⟨⟨[], [first, second], by decide⟩, by decide, by decide, rfl, rfl, by decide +kernel⟩

/-- Globs with one asterisk each are set literally. -/
example : inline "`*.py` and `*.md`".toList = "\\fB*.py\\fP and \\fB*.md\\fP".toList := by
  decide +kernel

end Roff

end CommandManual
