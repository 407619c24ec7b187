import CommandManual.Region

/-!
# A content cut at its region

`Region.find` walks over the lines of a content and keeps an offset. What it finds is easier to
say in lines: the first line that equals the start tag, and the first one behind it that equals
the end tag. `Cut` is that decomposition, with the two minimality conditions as fields, and
`find_eq_ok_iff` says that the search returns exactly the regions of cuts.

Everything about replacing a region is then a matter of building the cut of the new content, and
no later proof follows the search or counts an offset.

## Main definitions

* `Region.Cut`: the lines around a region, and the lines in it.
* `Region.Cut.front`, `Region.Cut.body`, `Region.Cut.back`: the three parts of the content.

## Main results

* `Region.find_eq_ok_iff`: the search finds the region of a cut, and nothing else.
* `Region.find_text`, `Region.extract_text`, `Region.replace_text`: what the three operations do
  with a content that is given as a cut.
-/

namespace CommandManual

namespace Region

/-- The lines of a content around its first region. -/
structure Cut (tags : Tags) where
  /-- The lines in front of the start line. -/
  before : List Text
  opening : Text
  /-- The lines of the region. -/
  inside : List Text
  closing : Text
  /-- The lines behind the end line. -/
  after : List Text
  before_ne : ∀ l ∈ before, isTag tags.opening l = false
  opening_eq : isTag tags.opening opening = true
  inside_ne : ∀ l ∈ inside, isTag tags.closing l = false
  closing_eq : isTag tags.closing closing = true
  /-- None of them has a newline in it. -/
  newline_notMem : ∀ l ∈ before ++ opening :: inside ++ closing :: after, '\n' ∉ l

namespace Cut

variable {tags : Tags} (c : Cut tags)

/-- The content in front of the region: the start line is its last one. -/
def front : Text := Text.terminated (c.before ++ [c.opening])

/-- The region. -/
def body : Text := Text.terminated c.inside

/-- The content behind the region: the end line is its first one. -/
def back : Text := Text.unlines (c.closing :: c.after)

/-- The whole content. -/
def text : Text := c.front ++ c.body ++ c.back

/-- Where the region is. -/
def region : Region := ⟨c.front.length, c.front.length + c.body.length⟩

theorem lines_text :
    Text.lines c.text = c.before ++ c.opening :: (c.inside ++ c.closing :: c.after) := by
  have hclosing : ∀ l ∈ c.closing :: c.after, '\n' ∉ l := fun l hl =>
    c.newline_notMem l (List.mem_append_right _ hl)
  have hrest : ∀ l ∈ c.before ++ [c.opening] ++ c.inside, '\n' ∉ l := fun l hl =>
    c.newline_notMem l (List.mem_append_left _ (by simpa using hl))
  rw [text, front, body, back, ← Text.terminated_append, Text.lines_terminated_append hrest,
    Text.lines_unlines (List.cons_ne_nil c.closing c.after) hclosing]
  simp

/-- There is at least the newline of the start line. -/
theorem text_ne_nil : c.text ≠ [] := by
  intro h
  have hlength := congrArg List.length c.lines_text
  rw [h] at hlength
  simp [Text.lines] at hlength
  omega

@[simp] theorem take_start_text : c.text.take c.region.start = c.front := by
  simp [text, region]

@[simp] theorem drop_stop_text : c.text.drop c.region.stop = c.back := by
  rw [text, region, ← List.length_append, List.drop_left]

@[simp] theorem text_region : c.region.text c.text = c.body := by
  rw [Region.text, text, region, ← List.length_append, List.take_left, List.drop_left]

@[simp] theorem patch_region (new : Text) :
    c.region.patch new c.text = c.front ++ new ++ c.back := by
  rw [patch, take_start_text, drop_stop_text]

end Cut

/-! ### The search, in lines -/

theorem findClosing_append {tag : Text} {inside : List Text} {closing : Text}
    (hi : ∀ l ∈ inside, isTag tag l = false) (hc : isTag tag closing = true) (start : Nat)
    (after : List Text) (offset : Nat) :
    findClosing tag start offset (inside ++ closing :: after) =
      .ok ⟨start, offset + (Text.terminated inside).length⟩ := by
  induction inside generalizing offset with
  | nil => simp [findClosing, hc]
  | cons l ls ih =>
    have hl := hi l (List.mem_cons_self ..)
    rw [List.cons_append, findClosing, hl, if_neg Bool.false_ne_true,
      ih fun k hk => hi k (List.mem_cons_of_mem _ hk)]
    simp only [Text.terminated_cons, List.length_append, List.length_cons]
    congr 2
    omega

theorem findOpening_append {tags : Tags} {before : List Text} {opening : Text}
    (hb : ∀ l ∈ before, isTag tags.opening l = false) (ho : isTag tags.opening opening = true)
    (rest : List Text) (offset : Nat) :
    findOpening tags offset (before ++ opening :: rest) =
      let start := offset + (Text.terminated (before ++ [opening])).length
      findClosing tags.closing start start rest := by
  induction before generalizing offset with
  | nil => simp [findOpening, ho, Nat.add_assoc]
  | cons l ls ih =>
    have hl := hb l (List.mem_cons_self ..)
    rw [List.cons_append, findOpening, hl, if_neg Bool.false_ne_true,
      ih fun k hk => hb k (List.mem_cons_of_mem _ hk)]
    have e : offset + l.length + 1 + (Text.terminated (ls ++ [opening])).length =
        offset + (Text.terminated (l :: ls ++ [opening])).length := by
      simp only [List.cons_append, Text.terminated_cons, List.length_append, List.length_cons]
      omega
    simp only [e]

theorem eq_append_of_findClosing {tag : Text} {start offset : Nat} {ls : List Text} {r : Region}
    (h : findClosing tag start offset ls = .ok r) :
    ∃ inside closing after, ls = inside ++ closing :: after ∧
      (∀ l ∈ inside, isTag tag l = false) ∧ isTag tag closing = true := by
  induction ls generalizing offset with
  | nil => simp [findClosing] at h
  | cons l ls ih =>
    rw [findClosing] at h
    split at h
    · next hl => exact ⟨[], l, ls, rfl, by simp, hl⟩
    · next hl =>
      obtain ⟨inside, closing, after, rfl, hi, hc⟩ := ih h
      refine ⟨l :: inside, closing, after, rfl, ?_, hc⟩
      intro k hk
      rcases List.mem_cons.1 hk with rfl | hk
      · simpa using hl
      · exact hi k hk

theorem eq_append_of_findOpening {tags : Tags} {offset : Nat} {ls : List Text} {r : Region}
    (h : findOpening tags offset ls = .ok r) :
    ∃ before opening inside closing after, ls = before ++ opening :: (inside ++ closing :: after) ∧
      (∀ l ∈ before, isTag tags.opening l = false) ∧ isTag tags.opening opening = true ∧
      (∀ l ∈ inside, isTag tags.closing l = false) ∧ isTag tags.closing closing = true := by
  induction ls generalizing offset with
  | nil => simp [findOpening] at h
  | cons l ls ih =>
    rw [findOpening] at h
    split at h
    · next hl =>
      obtain ⟨inside, closing, after, rfl, hi, hc⟩ := eq_append_of_findClosing h
      exact ⟨[], l, inside, closing, after, rfl, by simp, hl, hi, hc⟩
    · next hl =>
      obtain ⟨before, opening, inside, closing, after, rfl, hb, ho, hi, hc⟩ := ih h
      refine ⟨l :: before, opening, inside, closing, after, rfl, ?_, ho, hi, hc⟩
      intro k hk
      rcases List.mem_cons.1 hk with rfl | hk
      · simpa using hl
      · exact hb k hk

/-! ### The operations on a cut -/

variable {tags : Tags}

/-- The region of a cut is found. -/
@[simp] theorem find_text (c : Cut tags) : find tags c.text = .ok c.region := by
  rw [find, c.lines_text, findOpening_append c.before_ne c.opening_eq]
  simp only [Nat.zero_add]
  rw [findClosing_append c.inside_ne c.closing_eq]
  rfl

/-- **The search finds cuts and nothing else.** -/
theorem find_eq_ok_iff {content : Text} {r : Region} :
    find tags content = .ok r ↔ ∃ c : Cut tags, c.text = content ∧ c.region = r := by
  constructor
  · intro h
    obtain ⟨before, opening, inside, closing, after, hl, hb, ho, hi, hc⟩ :=
      eq_append_of_findOpening h
    have hn : ∀ l ∈ before ++ opening :: inside ++ closing :: after, '\n' ∉ l := by
      intro l hm
      refine Text.newline_notMem_of_mem_lines (t := content) ?_
      rw [hl]
      simpa using hm
    let c : Cut tags := ⟨before, opening, inside, closing, after, hb, ho, hi, hc, hn⟩
    have ht : c.text = content := by
      rw [← Text.unlines_lines content, hl, ← Text.unlines_lines c.text, c.lines_text]
    refine ⟨c, ht, ?_⟩
    have hf := find_text c
    rw [ht, h] at hf
    exact (Except.ok.inj hf).symm
  · rintro ⟨c, rfl, rfl⟩
    exact find_text c

/-- What the region of a cut holds. -/
@[simp] theorem extract_text (c : Cut tags) : extract tags c.text = .ok c.body := by
  rw [extract, find_text, Except.map, c.text_region]

/-- A cut with another text in its region. -/
@[simp] theorem replace_text (c : Cut tags) (new : Text) :
    replace tags new c.text = .ok (c.front ++ new ++ c.back) := by
  rw [replace, find_text, Except.map, c.patch_region]

end Region

end CommandManual
