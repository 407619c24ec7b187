import CommandManual.Proofs.Roff.Tokens

/-!
# Spans open and close

Spans of different kinds may lie in one another and even cross, because each kind is replaced in the
text that the one before has left. Still every change of font that a span makes is taken back behind
it. So a line of a document is balanced: read from left to right, never more fonts have been given
back than set, and in the end as many. What is set of it is the text, but for the marks.

What carries the induction over the spans is how many spans are open (`depth?`). The part between
two marks need not be balanced by itself; inside the span it is only read one level deeper
(`depth?_succ`).

## Main definitions

* `Roff.openings`, `Roff.closings`: the changes of font in some tokens.
* `Roff.chars`: the characters that some tokens set.
* `Roff.depth?`: how many spans are open behind some tokens.

## Main results

* `Roff.depth?_inline`: no span is closed that is not open, and none is left open.
* `Roff.filter_chars_inline`: a line loses nothing but marks.
* `Roff.balanced_inline`: the tokens of a line, how they are balanced, and what they set.
-/

namespace CommandManual

namespace Roff

/-- Does the token set another font? -/
def Token.opens : Token → Bool
  | .bold | .italic => true
  | _ => false

/-- How often another font is set. -/
def openings (ts : List Token) : Nat := ts.countP Token.opens

/-- How often the font before is set again. -/
def closings (ts : List Token) : Nat := ts.count .back

/-- The characters that are set. -/
def chars (ts : List Token) : Text := ts.filterMap Token.char?

/-- How many spans are open behind a token, if the token closes none that is not open. -/
def Token.deepen (d : Nat) : Token → Option Nat
  | .bold | .italic => some (d + 1)
  | .back => if d = 0 then none else some (d - 1)
  | _ => some d

/-- How many spans are open behind some tokens, if none is closed that is not open. -/
def depth? (d : Nat) (ts : List Token) : Option Nat := ts.foldlM Token.deepen d

theorem openings_append (ts us : List Token) :
    openings (ts ++ us) = openings ts + openings us :=
  List.countP_append ..

theorem closings_append (ts us : List Token) :
    closings (ts ++ us) = closings ts + closings us :=
  List.count_append ..

section Depth

variable {mark : Text} {font k : Token} {ts us : List Token} {d e : Nat}

@[simp] theorem depth?_nil (d : Nat) : depth? d [] = some d := rfl

theorem depth?_cons (d : Nat) (k : Token) (ts : List Token) :
    depth? d (k :: ts) = (k.deepen d).bind fun e => depth? e ts :=
  List.foldlM_cons

theorem depth?_singleton (d : Nat) (k : Token) : depth? d [k] = k.deepen d := by
  rw [depth?_cons]
  cases k.deepen d <;> rfl

theorem depth?_append (d : Nat) (ts us : List Token) :
    depth? d (ts ++ us) = (depth? d ts).bind fun e => depth? e us :=
  List.foldlM_append

theorem depth?_append_eq_some_iff :
    depth? d (ts ++ us) = some e ↔ ∃ m, depth? d ts = some m ∧ depth? m us = some e := by
  rw [depth?_append, Option.bind_eq_some_iff]

theorem Token.deepen_of_opens (h : k.opens = true) : k.deepen d = some (d + 1) := by
  cases k <;> first | rfl | cases h

theorem Token.deepen_succ (h : k.deepen d = some e) : k.deepen (d + 1) = some (e + 1) := by
  cases k with
  | back =>
    simp only [deepen] at h ⊢
    split at h
    · cases h
    · obtain rfl := Option.some.inj h
      rw [if_neg (Nat.succ_ne_zero d)]
      exact congrArg some (by omega)
  | _ =>
    obtain rfl := Option.some.inj h
    rfl

/-- Tokens can be read one level deeper. -/
theorem depth?_succ (h : depth? d ts = some e) : depth? (d + 1) ts = some (e + 1) := by
  induction ts generalizing d with
  | nil =>
    obtain rfl := Option.some.inj h
    rfl
  | cons k ts ih =>
    rw [depth?_cons] at h ⊢
    obtain ⟨m, hm, h⟩ := Option.bind_eq_some_iff.1 h
    rw [Token.deepen_succ hm]
    exact ih h

/-- Tokens that set characters close and open nothing. -/
theorem depth?_of_forall (h : ∀ k ∈ ts, k.deepen d = some d) : depth? d ts = some d := by
  induction ts with
  | nil => rfl
  | cons k ts ih =>
    rw [depth?_cons, h k (List.mem_cons_self ..)]
    exact ih fun j hj => h j (List.mem_cons_of_mem k hj)

theorem depth?_map_plain (d : Nat) (t : Text) : depth? d (t.map .plain) = some d := by
  refine depth?_of_forall fun k hk => ?_
  obtain ⟨c, -, rfl⟩ := List.mem_map.1 hk
  rfl

/-- **Spans close what they open**, wherever they lie. -/
theorem Dressed.depth? (hfont : font.opens = true) (h : Dressed mark font ts us)
    (hd : depth? d ts = some e) : Roff.depth? d us = some e := by
  induction h generalizing d with
  | nil => exact hd
  | keep k rest ih =>
    rw [depth?_cons] at hd ⊢
    obtain ⟨m, hm, hd⟩ := Option.bind_eq_some_iff.1 hd
    rw [hm]
    exact ih hd
  | span body rest ih =>
    obtain ⟨m, hm, hd⟩ := depth?_append_eq_some_iff.1 hd
    have hbody : Roff.depth? d body = some m := by
      rw [depth?_append, depth?_append, depth?_map_plain] at hm
      obtain ⟨n, hn, hm⟩ := Option.bind_eq_some_iff.1 hm
      rw [depth?_map_plain] at hm
      exact hn.trans hm
    rw [List.cons_append, depth?_cons, Token.deepen_of_opens hfont, Option.bind_some,
      depth?_append, depth?_succ hbody, Option.bind_some, depth?_cons]
    exact ih hd

theorem Token.count_of_deepen (h : k.deepen d = some e) :
    openings [k] + d = closings [k] + e := by
  cases k with
  | back =>
    simp only [deepen] at h
    split at h
    · cases h
    · obtain rfl := Option.some.inj h
      have hopen : openings [.back] = 0 := rfl
      have hclose : closings [.back] = 1 := rfl
      omega
  | _ =>
    obtain rfl := Option.some.inj h
    simp [openings, closings, opens, Nat.add_comm]

/-- How many spans are open is how many have been opened without being closed. -/
theorem openings_add_of_depth? (h : depth? d ts = some e) :
    openings ts + d = closings ts + e := by
  induction ts generalizing d with
  | nil =>
    obtain rfl := Option.some.inj h
    rfl
  | cons k ts ih =>
    rw [depth?_cons] at h
    obtain ⟨m, hm, h⟩ := Option.bind_eq_some_iff.1 h
    have hk := Token.count_of_deepen hm
    have hts := ih h
    have hopen : openings (k :: ts) = openings [k] + openings ts := openings_append [k] ts
    have hclose : closings (k :: ts) = closings [k] + closings ts := closings_append [k] ts
    omega

/-- What is read to the end is read up to every place. -/
theorem exists_depth?_of_isPrefix {ps : List Token} (h : depth? d ts = some e) (hps : ps <+: ts) :
    ∃ m, depth? d ps = some m := by
  obtain ⟨us, rfl⟩ := hps
  obtain ⟨m, hm, -⟩ := depth?_append_eq_some_iff.1 h
  exact ⟨m, hm⟩

end Depth

/-! ### What is set -/

section Chars

variable {mark : Text} {font : Token} {ts us : List Token} {p : Char → Bool}

theorem chars_append (ts us : List Token) : chars (ts ++ us) = chars ts ++ chars us :=
  List.filterMap_append

theorem chars_map_plain (t : Text) : chars (t.map .plain) = t := by
  rw [chars, List.filterMap_map]
  exact List.filterMap_some

/-- Spans take nothing but marks away. -/
theorem Dressed.filter_chars (hmark : ∀ c ∈ mark, p c = false) (hfont : font.char? = none)
    (h : Dressed mark font ts us) : (chars us).filter p = (chars ts).filter p := by
  have hnone : mark.filter p = [] := List.filter_eq_nil_iff.2 fun c hc => by simp [hmark c hc]
  induction h with
  | nil => rfl
  | @keep ts us k rest ih =>
    have hcons (ts : List Token) : chars (k :: ts) = chars [k] ++ chars ts := chars_append [k] ts
    rw [hcons us, hcons ts, List.filter_append, List.filter_append, ih]
  | @span ts us body rest ih =>
    have hdressed : chars (font :: body ++ .back :: us) = chars body ++ chars us := by
      rw [List.cons_append, chars, List.filterMap_cons_none hfont, ← chars, chars_append]
      rfl
    rw [hdressed, chars_append, chars_append, chars_append, chars_map_plain]
    simp only [List.filter_append, hnone, ih, List.nil_append, List.append_nil]

end Chars

/-! ### Lines of a document -/

theorem chars_escapeTokens (t : Text) : chars (escapeTokens t) = t := by
  have hchars : chars (t.map Token.ofChar) = t := by
    rw [chars, List.filterMap_map, funext (f := Token.char? ∘ Token.ofChar) Token.char?_ofChar]
    exact List.filterMap_some
  unfold escapeTokens
  split
  · exact hchars
  · exact hchars

/-- **Every span of a line is closed**, and none is closed that is not open. -/
theorem depth?_inline (t : Text) : depth? 0 (tokens (inline t)) = some 0 := by
  refine (dressing_tokens_inline t).keeps (P := fun ts => depth? 0 ts = some 0) ?_ ?_
  · intro mark font hkind ts us hdressed hts
    refine hdressed.depth? ?_ hts
    rcases (of_mem_spanKinds hkind).2.2 with rfl | rfl <;> rfl
  · refine depth?_of_forall (forall_mem_escapeTokens (P := (·.deepen 0 = some 0)) rfl ?_ t)
    intro c
    rw [Token.ofChar]
    split
    · rfl
    · split <;> rfl

/-- **A line loses nothing but marks.** -/
theorem filter_chars_inline (t : Text) :
    (chars (tokens (inline t))).filter (!isSpanMark ·) = t.filter (!isSpanMark ·) := by
  refine (dressing_tokens_inline t).keeps
    (P := fun ts => (chars ts).filter (!isSpanMark ·) = t.filter (!isSpanMark ·)) ?_ ?_
  · intro mark font hkind ts us hdressed hts
    obtain ⟨-, hmark, hfont⟩ := of_mem_spanKinds hkind
    rw [hdressed.filter_chars (fun c hc => by simp [hmark c hc]) ?_, hts]
    rcases hfont with rfl | rfl <;> rfl
  · rw [chars_escapeTokens]

/-- The guard stands nowhere but in front of a line. -/
theorem guard_notMem_tail_inline (t : Text) : .guard ∉ (tokens (inline t)).tail := by
  refine (dressing_tokens_inline t).keeps (P := fun ts => .guard ∉ ts.tail) ?_
    (guard_notMem_tail_escapeTokens t)
  intro mark font hkind ts us hdressed hts hguard
  obtain ⟨hmark, -, hfont⟩ := of_mem_spanKinds hkind
  rcases hdressed.mem_tail hmark hguard with hguard | rfl | hback
  · exact hts hguard
  · rcases hfont with hfont | hfont <;> cases hfont
  · cases hback

/-- **A line of a document is lossless and balanced.** It is made of ordinary characters and of
escapes, the guard among them in front only. No more fonts are ever given back than set, and in the
end as many. What is set is the text, but for the marks of spans. -/
theorem balanced_inline (t : Text) :
    written (tokens (inline t)) = inline t ∧
      (∀ k ∈ tokens (inline t), k.IsOrdinary) ∧ .guard ∉ (tokens (inline t)).tail ∧
      (∀ ps, ps <+: tokens (inline t) → closings ps ≤ openings ps) ∧
      closings (tokens (inline t)) = openings (tokens (inline t)) ∧
      (chars (tokens (inline t))).filter (!isSpanMark ·) = t.filter (!isSpanMark ·) := by
  have hdepth := depth?_inline t
  refine ⟨written_tokens _, isOrdinary_of_dressing (dressing_tokens_inline t),
    guard_notMem_tail_inline t, fun ps hps => ?_, ?_, filter_chars_inline t⟩
  · obtain ⟨m, hm⟩ := exists_depth?_of_isPrefix hdepth hps
    have hcount := openings_add_of_depth? hm
    omega
  · have hcount := openings_add_of_depth? hdepth
    omega

end Roff

end CommandManual
