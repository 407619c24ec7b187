import CommandManual.Proofs.Text.Parts
import CommandManual.Prose
import Mathlib.Data.List.SplitBy

/-!
# Runs of newlines

A tidied document is the text without the blanks around it, each run of newlines written as two at
most. What a run is can be said without the scan that counts newlines: the text is cut between a
newline and another character, and nowhere else.

Newlines are dropped first and the ends are trimmed afterwards. The order does not matter, because
the blanks at an end are a piece of their own: what is kept in front of them does not depend on how
many of them there are.

## Main definitions

* `Prose.isMargin`: what is trimmed off the ends of a document.
* `Prose.runs`: a text, cut into runs of newlines and runs of other characters.
* `Prose.shortened`: a run of newlines, written as two at most.

## Main results

* `Prose.squeeze_eq_flatMap_runs`: the scan shortens each run.
* `Prose.trim_squeeze`: dropping newlines and trimming the ends can change places.
* `Prose.runs_of_tidy`: what a tidied document is.
-/

namespace CommandManual

namespace Prose

open Text

variable {s t : Text} {c : Char}

/-- What is trimmed off the ends of a document. -/
def isMargin (c : Char) : Bool := c = ' ' || c = '\n'

/-- A text, cut wherever a newline stands beside another character. -/
def runs (t : Text) : List Text := t.splitBy fun c d => (c == '\n') == (d == '\n')

/-- Two or more newlines are written as two, and other runs as they are. -/
def shortened (r : Text) : Text :=
  if 2 ≤ r.length ∧ r.all (· == '\n') then ['\n', '\n'] else r

/-! ### The scan -/

theorem squeezeFrom_newline (run : Nat) (t : Text) : squeezeFrom run ('\n' :: t) =
    if run < 2 then '\n' :: squeezeFrom (run + 1) t else squeezeFrom run t := by
  rw [squeezeFrom, if_pos rfl]

theorem squeezeFrom_cons (hc : c ≠ '\n') (run : Nat) (t : Text) :
    squeezeFrom run (c :: t) = c :: squeezeFrom 0 t := by
  rw [squeezeFrom, if_neg hc]

/-- Newlines that went before matter only to a newline. -/
theorem squeezeFrom_of_head? (h : t.head? ≠ some '\n') (run : Nat) :
    squeezeFrom run t = squeeze t := by
  cases t with
  | nil => rfl
  | cons c t =>
    have hc : c ≠ '\n' := by simpa using h
    rw [squeeze, squeezeFrom_cons hc, squeezeFrom_cons hc]

/-- Of a run of newlines as many are kept as there is room for. -/
theorem squeezeFrom_replicate_append (h : t.head? ≠ some '\n') (run n : Nat) :
    squeezeFrom run (List.replicate n '\n' ++ t) =
      List.replicate (min n (2 - run)) '\n' ++ squeeze t := by
  induction n generalizing run with
  | zero => simpa using squeezeFrom_of_head? h run
  | succ n ih =>
    rw [List.replicate_succ, List.cons_append, squeezeFrom_newline]
    split
    · next hrun =>
      have hroom : min (n + 1) (2 - run) = min n (2 - (run + 1)) + 1 := by omega
      rw [ih, hroom, List.replicate_succ, List.cons_append]
    · next hrun =>
      have hroom : min (n + 1) (2 - run) = min n (2 - run) := by omega
      rw [ih, hroom]

/-- Where there is no newline, everything is kept. -/
theorem squeezeFrom_append_of_notMem (hne : s ≠ []) (h : '\n' ∉ s) (run : Nat) (t : Text) :
    squeezeFrom run (s ++ t) = s ++ squeeze t := by
  induction s generalizing run with
  | nil => exact absurd rfl hne
  | cons c s ih =>
    have hc : c ≠ '\n' := (List.ne_of_not_mem_cons h).symm
    rw [List.cons_append, squeezeFrom_cons hc, List.cons_append]
    cases s with
    | nil => rfl
    | cons d s => rw [ih (List.cons_ne_nil d s) (List.not_mem_of_not_mem_cons h)]

/-! ### Runs -/

/-- A run is made of newlines, or has none. -/
def IsRun (r : Text) : Prop := (∃ n, r = List.replicate (n + 1) '\n') ∨ r ≠ [] ∧ '\n' ∉ r

theorem shortened_replicate (n : Nat) :
    shortened (List.replicate n '\n') = List.replicate (min n 2) '\n' := by
  rw [shortened, List.length_replicate]
  split
  · next h => rw [min_eq_right h.1]; rfl
  · next h =>
    have hn : n < 2 := Nat.not_le.1 fun hn => h ⟨hn, by simp⟩
    rw [min_eq_left (Nat.le_of_lt hn)]

theorem shortened_of_notMem {r : Text} (h : '\n' ∉ r) : shortened r = r := by
  refine if_neg fun hr => ?_
  obtain ⟨c, hc⟩ := List.exists_mem_of_length_pos (Nat.lt_of_lt_of_le Nat.two_pos hr.1)
  have hnewline : c = '\n' := beq_iff_eq.1 (List.all_eq_true.1 hr.2 c hc)
  exact h (hnewline ▸ hc)

/-- In a run all characters are newlines or none is. -/
theorem isRun_of_mem_runs {r : Text} (h : r ∈ runs t) : IsRun r := by
  have hne := List.ne_nil_of_mem_splitBy h
  have hchain := List.isChain_of_mem_splitBy h
  obtain ⟨c, r, rfl⟩ := List.exists_cons_of_ne_nil hne
  have hsame : ∀ d ∈ r, (c == '\n') = (d == '\n') := by
    clear h hne
    induction r generalizing c with
    | nil => exact List.forall_mem_nil _
    | cons d r ih =>
      rw [List.isChain_cons_cons, beq_iff_eq] at hchain
      rw [List.forall_mem_cons]
      exact ⟨hchain.1, fun e he => hchain.1.trans (ih d hchain.2 e he)⟩
  by_cases hc : c = '\n'
  · refine .inl ⟨r.length, List.eq_replicate_iff.2 ⟨rfl, List.forall_mem_cons.2 ⟨hc, fun d hd => ?_⟩⟩⟩
    simpa [hc] using (hsame d hd).symm
  · refine .inr ⟨List.cons_ne_nil c r, fun hmem => ?_⟩
    rcases List.mem_cons.1 hmem with h | h
    · exact hc h.symm
    · simpa [hc] using hsame _ h

/-- A newline stands on one side of a cut, and another character on the other. -/
def Differ (r r' : Text) : Prop :=
  ∃ h h', ((r.getLast h == '\n') == (r'.head h' == '\n')) = false

theorem isChain_runs (t : Text) : (runs t).IsChain Differ :=
  List.isChain_getLast_head_splitBy (fun c d => (c == '\n') == (d == '\n')) t

theorem flatten_runs (t : Text) : (runs t).flatten = t := List.flatten_splitBy _ t

/-- Behind a run of newlines there is another character, if there is anything. -/
theorem head?_flatten_of_isChain {n : Nat} {rs : List Text}
    (h : (List.replicate (n + 1) '\n' :: rs).IsChain Differ) : rs.flatten.head? ≠ some '\n' := by
  cases rs with
  | nil => simp
  | cons r rs =>
    obtain ⟨_, hr, hdiffer⟩ := (List.isChain_cons_cons.1 h).1
    obtain ⟨c, r, rfl⟩ := List.exists_cons_of_ne_nil hr
    simpa using hdiffer

/-- **The scan shortens each of some runs**, if neighbours differ. -/
theorem squeeze_flatten {rs : List Text} (hrun : ∀ r ∈ rs, IsRun r) (hchain : rs.IsChain Differ) :
    squeeze rs.flatten = rs.flatMap shortened := by
  induction rs with
  | nil => rfl
  | cons r rs ih =>
    have hrest := ih (fun s hs => hrun s (List.mem_cons_of_mem r hs)) hchain.tail
    rw [List.flatten_cons, List.flatMap_cons, ← hrest]
    rcases hrun r List.mem_cons_self with ⟨n, rfl⟩ | ⟨hne, hr⟩
    · rw [shortened_replicate]
      exact squeezeFrom_replicate_append (head?_flatten_of_isChain hchain) 0 (n + 1)
    · rw [shortened_of_notMem hr]
      exact squeezeFrom_append_of_notMem hne hr 0 _

/-- **The scan shortens each run of a text.** -/
theorem squeeze_eq_flatMap_runs (t : Text) : squeeze t = (runs t).flatMap shortened := by
  have h := squeeze_flatten (fun _ hr => isRun_of_mem_runs hr) (isChain_runs t)
  rwa [flatten_runs] at h

example : (runs "a\n\n\nbc\n".toList).flatMap shortened = "a\n\nbc\n".toList := by decide

/-! ### What the scan keeps -/

/-- Only newlines are dropped. -/
theorem filter_squeezeFrom (run : Nat) (t : Text) :
    (squeezeFrom run t).filter (· ≠ '\n') = t.filter (· ≠ '\n') := by
  fun_induction squeezeFrom run t with
  | case1 => rfl
  | case2 run t hrun ih =>
    rw [List.filter_cons_of_neg (by simp), List.filter_cons_of_neg (by simp), ih]
  | case3 run t hrun ih => rw [List.filter_cons_of_neg (by simp), ih]
  | case4 run c t hc ih =>
    rw [List.filter_cons_of_pos (by simpa using hc), List.filter_cons_of_pos (by simpa using hc), ih]

/-- Once newlines are dropped there are none to be dropped. -/
theorem squeezeFrom_squeezeFrom (run : Nat) (t : Text) :
    squeezeFrom run (squeezeFrom run t) = squeezeFrom run t := by
  fun_induction squeezeFrom run t with
  | case1 => rfl
  | case2 run t hrun ih => rw [squeezeFrom_newline, if_pos hrun, ih]
  | case3 run t hrun ih => exact ih
  | case4 run c t hc ih => rw [squeezeFrom_cons hc, ih]

theorem squeeze_squeeze (t : Text) : squeeze (squeeze t) = squeeze t := squeezeFrom_squeezeFrom 0 t

/-- Newlines that went before leave so much less room for newlines at the front, and nowhere are
there three of them. -/
theorem newlines_squeezeFrom (run : Nat) (t : Text) :
    (∀ n, List.replicate n '\n' <+: squeezeFrom run t → n + min run 2 ≤ 2) ∧
      ¬ List.replicate 3 '\n' <:+: squeezeFrom run t := by
  fun_induction squeezeFrom run t with
  | case1 run =>
    refine ⟨fun n hn => ?_, by simp⟩
    have hzero : n = 0 := by simpa using hn
    omega
  | case2 run t hrun ih =>
    have hfront : ∀ n, List.replicate n '\n' <+: '\n' :: squeezeFrom (run + 1) t →
        n + min run 2 ≤ 2 := by
      intro n hn
      cases n with
      | zero => omega
      | succ n =>
        have hroom := ih.1 n (List.cons_prefix_cons.1 hn).2
        omega
    refine ⟨hfront, fun hthree => ?_⟩
    rcases List.infix_cons_iff.1 hthree with h | h
    · have hroom := hfront 3 h
      omega
    · exact ih.2 h
  | case3 run t hrun ih => exact ih
  | case4 run c t hc ih =>
    have hfront : ∀ n, List.replicate n '\n' <+: c :: squeezeFrom 0 t → n = 0 := by
      intro n hn
      cases n with
      | zero => rfl
      | succ n => exact absurd (List.cons_prefix_cons.1 hn).1.symm hc
    refine ⟨fun n hn => ?_, fun hthree => ?_⟩
    · have hzero := hfront n hn
      omega
    · rcases List.infix_cons_iff.1 hthree with h | h
      · exact absurd (hfront 3 h) (by decide)
      · exact ih.2 h

/-! ### The ends of a document -/

/-- A character behind a text is kept, or it is a newline. -/
theorem squeeze_append_singleton (t : Text) (c : Char) :
    squeeze (t ++ [c]) = squeeze t ++ [c] ∨ c = '\n' ∧ squeeze (t ++ [c]) = squeeze t := by
  have hend (run : Nat) : squeezeFrom run (t ++ [c]) = squeezeFrom run t ++ [c] ∨
      c = '\n' ∧ squeezeFrom run (t ++ [c]) = squeezeFrom run t := by
    fun_induction squeezeFrom run t with
    | case1 run =>
      by_cases hc : c = '\n'
      · subst hc
        rw [List.nil_append, squeezeFrom_newline]
        split
        · exact .inl rfl
        · exact .inr ⟨rfl, rfl⟩
      · exact .inl (squeezeFrom_cons hc run [])
    | case2 run t hrun ih =>
      rw [List.cons_append, squeezeFrom_newline, if_pos hrun]
      exact ih.imp (congrArg _) (And.imp_right (congrArg _))
    | case3 run t hrun ih =>
      rw [List.cons_append, squeezeFrom_newline, if_neg hrun]
      exact ih
    | case4 run d t hd ih =>
      rw [List.cons_append, squeezeFrom_cons hd]
      exact ih.imp (congrArg _) (And.imp_right (congrArg _))
  exact hend 0

theorem trimStart_squeezeFrom (run : Nat) (t : Text) :
    trimStart isMargin (squeezeFrom run t) = squeeze (trimStart isMargin t) := by
  fun_induction squeezeFrom run t with
  | case1 => rfl
  | case2 run t hrun ih =>
    rw [trimStart, List.dropWhile_cons_of_pos (by decide), trimStart,
      List.dropWhile_cons_of_pos (by decide)]
    exact ih
  | case3 run t hrun ih =>
    rw [ih, trimStart, trimStart, List.dropWhile_cons_of_pos (by decide)]
  | case4 run c t hc ih =>
    rw [trimStart, trimStart, List.dropWhile_cons, List.dropWhile_cons]
    split
    · exact ih
    · rw [squeeze, squeezeFrom_cons hc]

theorem trimEnd_squeeze (t : Text) : trimEnd isMargin (squeeze t) = squeeze (trimEnd isMargin t) := by
  induction t using List.reverseRecOn with
  | nil => rfl
  | append_singleton t c ih =>
    by_cases hc : isMargin c = true
    · rw [trimEnd_append_singleton hc, ← ih]
      rcases squeeze_append_singleton t c with h | ⟨-, h⟩
      · rw [h, trimEnd_append_singleton hc]
      · rw [h]
    · have hkept (s : Text) : trimEnd isMargin (s ++ [c]) = s ++ [c] :=
        List.rdropWhile_concat_neg _ _ _ hc
      rcases squeeze_append_singleton t c with h | ⟨rfl, -⟩
      · rw [hkept, h, hkept]
      · exact absurd rfl hc

/-- **Dropping newlines and trimming the ends can change places.** -/
theorem trim_squeeze (t : Text) : trim isMargin (squeeze t) = squeeze (trim isMargin t) := by
  have hstart : trimStart isMargin (squeeze t) = squeeze (trimStart isMargin t) :=
    trimStart_squeezeFrom 0 t
  rw [trim, hstart, trimEnd_squeeze, trim]

/-- A tidied document is what is left between the ends, each run shortened, and a newline. -/
theorem tidy_eq (t : Text) : tidy t = squeeze (trim isMargin t) ++ ['\n'] :=
  congrArg (· ++ ['\n']) (trim_squeeze t)

/-- Nothing is left at the ends that would be trimmed off. -/
theorem ends_of_trim (t : Text) : (∀ c, (trim isMargin t).head? = some c → isMargin c = false) ∧
    ∀ c, (trim isMargin t).getLast? = some c → isMargin c = false := by
  refine ⟨fun c hc => ?_, fun c hc => ?_⟩
  · rw [← trimStart_trim, trimStart] at hc
    have hne : (trim isMargin t).dropWhile isMargin ≠ [] := fun hnil => by simp [hnil] at hc
    rw [List.head?_eq_some_head hne, Option.some_inj] at hc
    exact hc ▸ List.head_dropWhile_not isMargin hne
  · have hne : trim isMargin t ≠ [] := fun hnil => by simp [hnil] at hc
    rw [List.getLast?_eq_some_getLast hne, Option.some_inj] at hc
    exact Bool.eq_false_iff.2 (hc ▸ List.rdropWhile_last_not isMargin _ hne)

/-- **Tidying makes a document as it is to be, and changes nothing else.** Tidying it again does
nothing. It has no three newlines in a row, ends in one newline behind another character, and begins
with no space or newline, unless it is a newline alone. In front of its last newline it is the text
without the spaces and newlines around it, each run of two or more newlines written as two; so the
other characters are the same, in the same order. -/
theorem runs_of_tidy (t : Text) : tidy (tidy t) = tidy t ∧
    ¬ ['\n', '\n', '\n'] <:+: tidy t ∧
    (tidy t = ['\n'] ∨ (tidy t).head? ≠ some ' ' ∧ (tidy t).head? ≠ some '\n') ∧
    ∃ body, tidy t = body ++ ['\n'] ∧ body.getLast? ≠ some '\n' ∧
      body = (runs (trim isMargin t)).flatMap shortened ∧
      body.filter (· ≠ '\n') = (trim isMargin t).filter (· ≠ '\n') := by
  have hbody : squeeze (trim isMargin t) = trim isMargin (squeeze t) := (trim_squeeze t).symm
  obtain ⟨hhead, hlast⟩ := ends_of_trim (squeeze t)
  rw [← hbody] at hhead hlast
  have hend : (squeeze (trim isMargin t)).getLast? ≠ some '\n' := fun h =>
    absurd (hlast '\n' h) (by decide)
  refine ⟨?_, fun hthree => ?_, ?_, squeeze (trim isMargin t), tidy_eq t, hend,
    squeeze_eq_flatMap_runs _, filter_squeezeFrom 0 _⟩
  · rw [tidy_eq (tidy t), tidy_eq t, trim_append_singleton (by decide), ← trim_squeeze,
      squeeze_squeeze, ← trim_squeeze, trim_trim]
  · rw [tidy_eq, List.infix_concat_iff] at hthree
    rcases hthree with h | h
    · obtain ⟨front, hfront⟩ := h
      have hthree : front ++ ['\n', '\n'] ++ ['\n'] = squeeze (trim isMargin t) ++ ['\n'] := by
        simpa using hfront
      exact hend (by simp [← List.append_cancel_right hthree])
    · exact (newlines_squeezeFrom 0 _).2 h
  · rw [tidy_eq]
    cases hnil : squeeze (trim isMargin t) with
    | nil => exact .inl rfl
    | cons c u =>
      rw [hnil] at hhead
      have hc : c ≠ ' ' ∧ c ≠ '\n' := by simpa [isMargin] using hhead c rfl
      exact .inr ⟨by simpa using hc.1, by simpa using hc.2⟩

end Prose

end CommandManual
