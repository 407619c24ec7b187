import CommandManual.Proofs.Region.Cut

/-!
# The delimiter lines of a region

Whoever looks at a file counts its lines. The region lies between two of them: the first line that
equals the start tag, and the first line behind it that equals the end tag. A carriage return at the
end of a line, one at most, is taken off before the line is compared (`Region.isTag`). The search
counts characters instead, and where a line ends in a carriage return or the last line ends in
nothing the two counts differ.

This file says in line numbers what the search finds and when it finds nothing. A pair of line
numbers is a cut of the content (`delimited_lines_iff`), so the offsets are those of a cut.

## Main definitions

* `Region.firstFrom?`: the number of the first line that equals a tag, from a line on.
* `Region.Delimited`: the numbers of the two delimiter lines.
* `Region.Between`: a region that holds the lines between two lines and nothing else.

## Main results

* `Region.find_spec`: which region is found, and which tag is missing otherwise.
-/

namespace CommandManual

namespace Region

/-- The number of the first line that equals a tag, from line `k` on. -/
def firstFrom? (tag : Text) (k : Nat) (ls : List Text) : Option Nat :=
  ((ls.drop k).findIdx? (isTag tag)).map (k + ·)

/-- Line `i` is the first one that equals the start tag, and line `j` is the first one behind it
that equals the end tag. -/
structure Delimited (tags : Tags) (ls : List Text) (i j : Nat) : Prop where
  opening : firstFrom? tags.opening 0 ls = some i
  closing : firstFrom? tags.closing (i + 1) ls = some j

/-- The region begins behind line `i` of a content, ends in front of line `j`, and holds the lines
between the two. -/
structure Between (r : Region) (content : Text) (i j : Nat) : Prop where
  take_start : content.take r.start = Text.terminated ((Text.lines content).take (i + 1))
  text_eq : r.text content = Text.terminated (((Text.lines content).take j).drop (i + 1))
  drop_stop : content.drop r.stop = Text.unlines ((Text.lines content).drop j)
  start_le_stop : r.start ≤ r.stop
  stop_le_length : r.stop ≤ content.length

section FirstFrom

variable {tag : Text} {k i : Nat} {ls : List Text}

theorem firstFrom?_eq_some_iff : firstFrom? tag k ls = some i ↔
    ∃ front l rest, ls.drop k = front ++ l :: rest ∧ (∀ m ∈ front, isTag tag m = false) ∧
      isTag tag l = true ∧ k + front.length = i := by
  rw [firstFrom?, Option.map_eq_some_iff]
  generalize ls.drop k = ms
  constructor
  · rintro ⟨n, hn, hi⟩
    obtain ⟨hlt, hl, hfront⟩ := List.findIdx?_eq_some_iff_getElem.1 hn
    refine ⟨ms.take n, ms[n], ms.drop (n + 1), ?_, fun m hm => ?_, hl, ?_⟩
    · rw [← List.drop_eq_getElem_cons hlt, List.take_append_drop]
    · obtain ⟨a, ha, rfl⟩ := List.mem_take_iff_getElem.1 hm
      exact Bool.eq_false_iff.2 (hfront a (Nat.lt_of_lt_of_le ha (Nat.min_le_left ..)))
    · rw [List.length_take_of_le (Nat.le_of_lt hlt), hi]
  · rintro ⟨front, l, rest, rfl, hfront, hl, hi⟩
    refine ⟨front.length, ?_, hi⟩
    rw [List.findIdx?_append, List.findIdx?_eq_none_iff.2 hfront, List.findIdx?_cons, if_pos hl,
      Option.none_or, Option.map_some, Nat.zero_add]

theorem firstFrom?_eq_none_iff :
    firstFrom? tag k ls = none ↔ ∀ l ∈ ls.drop k, isTag tag l = false := by
  rw [firstFrom?, Option.map_eq_none_iff, List.findIdx?_eq_none_iff]

end FirstFrom

/-! ### Line numbers and cuts -/

variable {tags : Tags} {content : Text}

namespace Cut

/-- The number of the end line. -/
def stopLine (c : Cut tags) : Nat := c.before.length + 1 + c.inside.length

theorem delimited (c : Cut tags) :
    Delimited tags (Text.lines c.text) c.before.length c.stopLine := by
  have hdrop : (Text.lines c.text).drop (c.before.length + 1) =
      c.inside ++ c.closing :: c.after := by
    rw [c.lines_text, List.drop_length_add_append, List.drop_one, List.tail_cons]
  constructor
  · rw [firstFrom?_eq_some_iff]
    exact ⟨c.before, c.opening, _, c.lines_text, c.before_ne, c.opening_eq, Nat.zero_add _⟩
  · rw [firstFrom?_eq_some_iff]
    exact ⟨c.inside, c.closing, c.after, hdrop, c.inside_ne, c.closing_eq, rfl⟩

theorem between (c : Cut tags) : c.region.Between c.text c.before.length c.stopLine := by
  have htake : (Text.lines c.text).take (c.before.length + 1) = c.before ++ [c.opening] := by
    rw [c.lines_text, List.take_length_add_append, List.take_one, List.head?_cons,
      Option.toList_some]
  have hstop : Text.lines c.text =
      (c.before ++ c.opening :: c.inside) ++ c.closing :: c.after := by
    rw [c.lines_text]
    simp
  have hlength : c.stopLine = (c.before ++ c.opening :: c.inside).length := by
    simp only [stopLine, List.length_append, List.length_cons]
    omega
  have hbody : (c.before ++ c.opening :: c.inside).drop (c.before.length + 1) = c.inside := by
    rw [List.drop_length_add_append, List.drop_one, List.tail_cons]
  refine ⟨?_, ?_, ?_, Nat.le_add_right .., ?_⟩
  · rw [take_start_text, htake, front]
  · rw [text_region, hstop, hlength, List.take_left, hbody, body]
  · rw [drop_stop_text, hstop, hlength, List.drop_left, back]
  · simp [region, text]

end Cut

/-- **Two delimiter lines are a cut.** -/
theorem delimited_lines_iff {i j : Nat} : Delimited tags (Text.lines content) i j ↔
    ∃ c : Cut tags, c.text = content ∧ c.before.length = i ∧ c.stopLine = j := by
  constructor
  · rintro ⟨hi, hj⟩
    obtain ⟨before, opening, rest, hlines, hb, ho, hlength⟩ := firstFrom?_eq_some_iff.1 hi
    rw [List.drop_zero] at hlines
    obtain rfl : before.length = i := by rw [← hlength, Nat.zero_add]
    obtain ⟨inside, closing, after, hrest, hn, hc, hstop⟩ := firstFrom?_eq_some_iff.1 hj
    obtain rfl : rest = inside ++ closing :: after := by
      rw [← hrest, hlines, List.drop_length_add_append, List.drop_one, List.tail_cons]
    have hfree : ∀ l ∈ before ++ opening :: inside ++ closing :: after, '\n' ∉ l := by
      intro l hl
      refine Text.newline_notMem_of_mem_lines (t := content) ?_
      rw [hlines]
      simpa using hl
    let c : Cut tags := ⟨before, opening, inside, closing, after, hb, ho, hn, hc, hfree⟩
    have htext : c.text = content := by
      rw [← Text.unlines_lines content, hlines, ← Text.unlines_lines c.text, c.lines_text]
    exact ⟨c, htext, rfl, hstop⟩
  · rintro ⟨c, rfl, rfl, rfl⟩
    exact c.delimited

/-- A region is known by what lies in front of it and behind it. -/
theorem Between.eq {r q : Region} {i j : Nat} (hr : r.Between content i j)
    (hq : q.Between content i j) : r = q := by
  have hstart : r.start = q.start := by
    have hlength := congrArg List.length (hr.take_start.trans hq.take_start.symm)
    rw [List.length_take_of_le (Nat.le_trans hr.start_le_stop hr.stop_le_length),
      List.length_take_of_le (Nat.le_trans hq.start_le_stop hq.stop_le_length)] at hlength
    exact hlength
  have hstop : r.stop = q.stop := by
    have hlength := congrArg List.length (hr.drop_stop.trans hq.drop_stop.symm)
    rw [List.length_drop, List.length_drop] at hlength
    have hrle := hr.stop_le_length
    have hqle := hq.stop_le_length
    omega
  cases r
  cases q
  exact congr (congrArg Region.mk hstart) hstop

/-! ### Contents without a region -/

theorem error_eq_error_iff {α : Type} {tag : Text} {m : MissingTag} :
    (.error ⟨tag⟩ : Except MissingTag α) = .error m ↔ m.tag = tag := by
  cases m
  rw [Except.error.injEq, MissingTag.mk.injEq, eq_comm]

theorem findClosing_eq_error_iff {tag : Text} {start offset : Nat} {ls : List Text}
    {m : MissingTag} : findClosing tag start offset ls = .error m ↔
      m.tag = tag ∧ ∀ l ∈ ls, isTag tag l = false := by
  induction ls generalizing offset with
  | nil =>
    rw [findClosing, error_eq_error_iff]
    simp
  | cons l ls ih =>
    rw [findClosing, List.forall_mem_cons]
    cases hl : isTag tag l with
    | true => simp
    | false => simpa using ih

theorem findOpening_of_forall {offset : Nat} {ls : List Text}
    (h : ∀ l ∈ ls, isTag tags.opening l = false) :
    findOpening tags offset ls = .error ⟨tags.opening⟩ := by
  induction ls generalizing offset with
  | nil => rfl
  | cons l ls ih =>
    rw [List.forall_mem_cons] at h
    rw [findOpening, h.1]
    exact ih h.2

/-- **The missing tag.** It is the start tag if no line equals that, and else the end tag if no line
behind the start line equals it. -/
theorem find_eq_error_iff {m : MissingTag} : find tags content = .error m ↔
    (m.tag = tags.opening ∧ ∀ l ∈ Text.lines content, isTag tags.opening l = false) ∨
      (m.tag = tags.closing ∧ ∃ i, firstFrom? tags.opening 0 (Text.lines content) = some i ∧
        ∀ l ∈ (Text.lines content).drop (i + 1), isTag tags.closing l = false) := by
  rw [find]
  cases hi : firstFrom? tags.opening 0 (Text.lines content) with
  | none =>
    have hnone : ∀ l ∈ Text.lines content, isTag tags.opening l = false := by
      simpa using firstFrom?_eq_none_iff.1 hi
    rw [findOpening_of_forall hnone, error_eq_error_iff]
    simpa using fun _ => hnone
  | some i =>
    obtain ⟨before, opening, rest, hlines, hb, ho, hlength⟩ := firstFrom?_eq_some_iff.1 hi
    rw [List.drop_zero] at hlines
    obtain rfl : before.length = i := by rw [← hlength, Nat.zero_add]
    have hrest : (Text.lines content).drop (before.length + 1) = rest := by
      rw [hlines, List.drop_length_add_append, List.drop_one, List.tail_cons]
    have hsome : ¬ ∀ l ∈ Text.lines content, isTag tags.opening l = false := fun hall => by
      rw [hlines] at hall
      simp [hall opening (by simp)] at ho
    rw [hlines, findOpening_append hb ho, ← hlines, findClosing_eq_error_iff]
    simp [hsome, hrest]

/-- **What the search finds.** There is a region if and only if some line equals the start tag and
some line behind the first such line equals the end tag. It lies between these two lines, the first
end line behind the start line being meant, and is the only region that does. Otherwise the tag that
is missing there is reported. A line equals a tag if it is the tag once a carriage return at its end
is taken off. -/
theorem find_spec (tags : Tags) (content : Text) :
    ((∃ r, find tags content = .ok r) ↔ ∃ i j, Delimited tags (Text.lines content) i j) ∧
      (∀ r, find tags content = .ok r ↔
        ∃ i j, Delimited tags (Text.lines content) i j ∧ r.Between content i j) ∧
      (∀ m, find tags content = .error m ↔
        (m.tag = tags.opening ∧ ∀ l ∈ Text.lines content, isTag tags.opening l = false) ∨
          (m.tag = tags.closing ∧
            ∃ i, firstFrom? tags.opening 0 (Text.lines content) = some i ∧
              ∀ l ∈ (Text.lines content).drop (i + 1), isTag tags.closing l = false)) := by
  refine ⟨?_, fun r => ?_, fun m => find_eq_error_iff⟩
  · constructor
    · rintro ⟨r, hr⟩
      obtain ⟨c, rfl, -⟩ := find_eq_ok_iff.1 hr
      exact ⟨_, _, c.delimited⟩
    · rintro ⟨i, j, h⟩
      obtain ⟨c, rfl, -, -⟩ := delimited_lines_iff.1 h
      exact ⟨c.region, find_text c⟩
  · constructor
    · intro hr
      obtain ⟨c, rfl, rfl⟩ := find_eq_ok_iff.1 hr
      exact ⟨_, _, c.delimited, c.between⟩
    · rintro ⟨i, j, h, hr⟩
      obtain ⟨c, rfl, rfl, rfl⟩ := delimited_lines_iff.1 h
      rw [find_text, hr.eq c.between]

/-- Two equal tags, the second one on a last line without a newline. -/
example : find ⟨['b'], ['b'], by decide, by decide⟩ "a\nb\r\nx\nb\r".toList = .ok ⟨5, 7⟩ := rfl

end Region

end CommandManual
