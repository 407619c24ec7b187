import CommandManual.Proofs.Markdown.Wording
import CommandManual.Proofs.Roff.Balance

/-!
# Reading a page back

`Roff.decode` gives a text of a page its characters back: an escaped backslash and an escaped
hyphen are plain ones, and the guard in front of a line and the changes of font are nothing. What
it reads of a line is what the tokens of the line set, so that it is the inverse of escaping. A line
of a document also loses the marks of its spans on its way into the page, so that there the bare
texts are compared.

## Main definitions

* `Roff.decode`: the characters that a text of a page stands for.

## Main results

* `Roff.decode_written`: a line is read as its tokens are set.
* `Roff.decode_escape`: escaping loses nothing.
* `Roff.bare_decode_inline`: a line of a document loses nothing but marks.
-/

namespace CommandManual

namespace Roff

open Markdown (bare isSilent)

/-- A text without the guard that keeps it from being a request. -/
def dropGuard : Text → Text
  | '\\' :: '&' :: t => t
  | t => t

/-- A text with its escaped characters as they are meant, and without changes of font. -/
def readEscapes : Text → Text
  | '\\' :: 'e' :: t => '\\' :: readEscapes t
  | '\\' :: '-' :: t => '-' :: readEscapes t
  | '\\' :: 'f' :: 'B' :: t => readEscapes t
  | '\\' :: 'f' :: 'I' :: t => readEscapes t
  | '\\' :: 'f' :: 'P' :: t => readEscapes t
  | c :: t => c :: readEscapes t
  | [] => []

/-- The characters that a text of a page stands for. -/
def decode (t : Text) : Text := readEscapes (dropGuard t)

/-! ### Tokens -/

section Tokens

variable {ts : List Token}

theorem readEscapes_cons {c : Char} (hc : c ≠ '\\') (t : Text) :
    readEscapes (c :: t) = c :: readEscapes t := by
  rw [readEscapes] <;> simp [hc]

/-- Behind its guard a line is read as its tokens are set. -/
theorem readEscapes_written (h : ∀ k ∈ ts, k.IsOrdinary) (hguard : .guard ∉ ts) :
    readEscapes (written ts) = chars ts := by
  induction ts with
  | nil => rfl
  | cons k ts ih =>
    have hts := ih (fun j hj => h j (List.mem_cons_of_mem k hj))
      (List.not_mem_of_not_mem_cons hguard)
    cases k with
    | plain c =>
      have hc : c ≠ '\\' := (h _ (List.mem_cons_self ..)).1
      exact (readEscapes_cons hc _).trans (congrArg _ hts)
    | guard => exact absurd (List.mem_cons_self ..) hguard
    | backslash | hyphen => exact congrArg _ hts
    | bold | italic | back => exact hts

/-- **A line is read as its tokens are set**, if the guard stands nowhere but in front. -/
theorem decode_written (h : ∀ k ∈ ts, k.IsOrdinary) (hguard : .guard ∉ ts.tail) :
    decode (written ts) = chars ts := by
  by_cases hfront : ts.head? = some .guard
  · obtain ⟨us, rfl⟩ := List.head?_eq_some_iff.1 hfront
    exact readEscapes_written (fun k hk => h k (List.mem_cons_of_mem _ hk)) hguard
  · have hkept : dropGuard (written ts) = written ts := by
      cases ts with
      | nil => rfl
      | cons k ts =>
        cases k with
        | plain c =>
          have hc : c ≠ '\\' := (h _ (List.mem_cons_self ..)).1
          rw [written_cons, Token.spell, List.singleton_append, dropGuard]
          exact fun u hu => hc (List.cons.inj hu).1
        | guard => exact absurd rfl hfront
        | _ => rfl
    rw [decode, hkept, readEscapes_written h]
    cases ts with
    | nil => exact List.not_mem_nil
    | cons k ts =>
      rintro (_ | ⟨_, hmem⟩)
      · exact hfront rfl
      · exact hguard hmem

end Tokens

/-! ### Escaped text and lines of a document -/

/-- **Escaping loses nothing.** -/
theorem decode_escape (t : Text) : decode (escape t) = t := by
  rw [← written_escapeTokens, decode_written
    (forall_mem_escapeTokens trivial Token.isOrdinary_ofChar t) (guard_notMem_tail_escapeTokens t),
    chars_escapeTokens]

/-- The marks of spans are silent. -/
theorem bare_filter_isSpanMark (t : Text) : bare (t.filter (!isSpanMark ·)) = bare t := by
  have hsilent (c : Char) (hc : isSpanMark c = true) : isSilent c = true := by
    simp only [isSpanMark, Bool.or_eq_true, decide_eq_true_eq] at hc
    rcases hc with rfl | rfl <;> decide
  rw [bare, List.filter_filter]
  refine List.filter_congr fun c _ => ?_
  cases hmark : isSpanMark c with
  | false => rw [Bool.not_false, Bool.and_true]
  | true => rw [hsilent c hmark]; rfl

/-- **A line of a document loses nothing but marks.** -/
theorem bare_decode_inline (t : Text) : bare (decode (inline t)) = bare t := by
  have hread : decode (inline t) = chars (tokens (inline t)) := by
    have hwritten := decode_written (isOrdinary_of_dressing (dressing_tokens_inline t))
      (guard_notMem_tail_inline t)
    rwa [written_tokens] at hwritten
  rw [hread, ← bare_filter_isSpanMark, filter_chars_inline, bare_filter_isSpanMark]

end Roff

end CommandManual
