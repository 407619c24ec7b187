import CommandManual.Proofs.Region.Cut

/-!
# Reading and writing a region

Putting a block into a region and reading the region are the two sides of a lens, but not for
every block: a line of the block that equals the end tag closes the region too early. This file
says exactly when the laws hold.

The two cases are two cuts of the patched content. If no line of the block equals the end tag,
the block is the new region (`Cut.refill`), and the lines around it are the old ones. Otherwise
the region stops at the first such line, and what is left of the block belongs to the text behind
the region from then on (`Cut.interrupt`); the next injection leaves it there.

## Main definitions

* `Region.Inert`: no line of a text equals the end tag.

## Main results

* `Region.lens_laws`: reading back what was written, writing twice and writing what is there.
-/

namespace CommandManual

namespace Region

/-- No line of a text equals the end tag. -/
def Inert (tags : Tags) (t : Text) : Prop := ∀ l ∈ Text.lines t, isTag tags.closing l = false

instance (tags : Tags) (t : Text) : Decidable (Inert tags t) :=
  inferInstanceAs (Decidable (∀ l ∈ Text.lines t, isTag tags.closing l = false))

variable {tags : Tags}

theorem isTag_closing_nil (tags : Tags) : isTag tags.closing [] = false := by
  simpa [isTag, Text.withoutReturn] using tags.closing_ne

/-- The newline at the end of a block adds an empty line, which is no tag. -/
theorem inert_append_newline {t : Text} : Inert tags (t ++ ['\n']) ↔ Inert tags t := by
  rw [Inert, Inert, Text.lines_append_newline, Text.lines_nil]
  constructor
  · exact fun h l hl => h l (List.mem_append_left _ hl)
  · intro h l hl
    rcases List.mem_append.1 hl with hl | hl
    · exact h l hl
    · rw [List.mem_singleton.1 hl]
      exact isTag_closing_nil tags

namespace Cut

/-- A cut with the lines of another text in its region. -/
def refill (c : Cut tags) (t : Text) (h : Inert tags t) : Cut tags where
  before := c.before
  opening := c.opening
  inside := Text.lines t
  closing := c.closing
  after := c.after
  before_ne := c.before_ne
  opening_eq := c.opening_eq
  inside_ne := h
  closing_eq := c.closing_eq
  newline_notMem := by
    intro l hl
    have hc := c.newline_notMem l
    simp only [List.mem_append, List.mem_cons] at hl hc
    rcases hl with (hl | hl | hl) | hl
    · exact hc (.inl (.inl hl))
    · exact hc (.inl (.inr (.inl hl)))
    · exact Text.newline_notMem_of_mem_lines hl
    · exact hc (.inr hl)

@[simp] theorem front_refill (c : Cut tags) (t : Text) (h : Inert tags t) :
    (c.refill t h).front = c.front := rfl

@[simp] theorem back_refill (c : Cut tags) (t : Text) (h : Inert tags t) :
    (c.refill t h).back = c.back := rfl

@[simp] theorem body_refill (c : Cut tags) (t : Text) (h : Inert tags t) :
    (c.refill t h).body = t ++ ['\n'] :=
  Text.terminated_lines t

/-- A cut that is closed too early, by a line of the text in its region. -/
def interrupt (c : Cut tags) {t : Text} {inside : List Text} {closing : Text} {rest : List Text}
    (ht : Text.lines t = inside ++ closing :: rest)
    (hi : ∀ l ∈ inside, isTag tags.closing l = false)
    (hc : isTag tags.closing closing = true) : Cut tags where
  before := c.before
  opening := c.opening
  inside := inside
  closing := closing
  after := rest ++ c.closing :: c.after
  before_ne := c.before_ne
  opening_eq := c.opening_eq
  inside_ne := hi
  closing_eq := hc
  newline_notMem := by
    intro l hl
    have hold := c.newline_notMem l
    have hnew : l ∈ inside ++ closing :: rest → '\n' ∉ l := fun h =>
      Text.newline_notMem_of_mem_lines (ht ▸ h)
    simp only [List.mem_append, List.mem_cons] at hl hold hnew
    rcases hl with (hl | hl | hl) | hl | hl | hl | hl
    · exact hold (.inl (.inl hl))
    · exact hold (.inl (.inr (.inl hl)))
    · exact hnew (.inl hl)
    · exact hnew (.inr (.inl hl))
    · exact hnew (.inr (.inr hl))
    · exact hold (.inr (.inl hl))
    · exact hold (.inr (.inr hl))

end Cut

/-! ### The content after an injection -/

/-- After a block without an end tag is put into a region, the block is the region. -/
theorem operations_of_inert (c : Cut tags) {t : Text} (h : Inert tags t) :
    extract tags (c.front ++ (t ++ ['\n']) ++ c.back) = .ok (t ++ ['\n']) ∧
      ∀ new, replace tags new (c.front ++ (t ++ ['\n']) ++ c.back) =
        .ok (c.front ++ new ++ c.back) := by
  have e : (c.refill t h).text = c.front ++ (t ++ ['\n']) ++ c.back := by
    rw [Cut.text, Cut.front_refill, Cut.body_refill, Cut.back_refill]
  rw [← e]
  exact ⟨by rw [extract_text, Cut.body_refill], fun new => by
    rw [replace_text, Cut.front_refill, Cut.back_refill]⟩

/-- After a block with an end tag is put into a region, the region is shorter than the block, and
the text behind the region longer than it was. -/
theorem operations_of_not_inert (c : Cut tags) {t : Text} (h : ¬ Inert tags t) :
    ∃ body back : Text, body.length < (t ++ ['\n']).length ∧ c.back.length < back.length ∧
      extract tags (c.front ++ (t ++ ['\n']) ++ c.back) = .ok body ∧
        ∀ new, replace tags new (c.front ++ (t ++ ['\n']) ++ c.back) =
          .ok (c.front ++ new ++ back) := by
  obtain ⟨inside, closing, rest, ht, hi, hc⟩ :
      ∃ inside closing rest, Text.lines t = inside ++ closing :: rest ∧
        (∀ l ∈ inside, isTag tags.closing l = false) ∧ isTag tags.closing closing = true := by
    obtain ⟨closing, hf⟩ : ∃ l, (Text.lines t).find? (isTag tags.closing) = some l := by
      rw [← Option.isSome_iff_exists, List.find?_isSome]
      simpa [Inert] using h
    obtain ⟨hc, inside, rest, ht, hi⟩ := List.find?_eq_some_iff_append.1 hf
    exact ⟨inside, closing, rest, ht, fun l hl => by simpa using hi l hl, hc⟩
  let c' := c.interrupt ht hi hc
  have hblock : t ++ ['\n'] = c'.body ++ Text.terminated (closing :: rest) := by
    rw [← Text.terminated_lines, ht, Text.terminated_append]
    rfl
  have hback : c'.back = Text.terminated (closing :: rest) ++ c.back :=
    (Text.terminated_append_unlines (closing :: rest) (List.cons_ne_nil c.closing c.after)).symm
  have htext : c'.text = c.front ++ (t ++ ['\n']) ++ c.back := by
    rw [Cut.text, hback, hblock]
    simp only [List.append_assoc]
    rfl
  have hpos : 0 < (Text.terminated (closing :: rest)).length := by
    rw [Text.terminated_cons, List.length_append, List.length_cons]
    omega
  refine ⟨c'.body, c'.back, ?_, ?_, ?_, ?_⟩
  · rw [hblock, List.length_append]
    omega
  · rw [hback, List.length_append]
    omega
  · rw [← htext, extract_text]
  · intro new
    rw [← htext, replace_text]
    rfl

/-- **The lens laws of a region.** Writing what is there changes nothing. Reading back what was
written, and writing over what was written, behave as they should if and only if no line of the
block equals the end tag; with such a line, writing the same document again makes the content
longer. -/
theorem lens_laws {content : Text} {r : Region} (found : find tags content = .ok r)
    (annotate : Bool) (document other : Text) :
    (extract tags content = .ok (generatedBlock annotate document) →
        replace tags (generatedBlock annotate document) content = .ok content) ∧
      ∃ patched, replace tags (generatedBlock annotate document) content = .ok patched ∧
        patched = content.take r.start ++ generatedBlock annotate document ++ content.drop r.stop ∧
        (extract tags patched = .ok (generatedBlock annotate document) ↔
          Inert tags (generatedBlock annotate document)) ∧
        (replace tags (generatedBlock annotate other) patched =
            replace tags (generatedBlock annotate other) content ↔
          Inert tags (generatedBlock annotate document)) ∧
        (¬ Inert tags (generatedBlock annotate document) →
          ∃ again, replace tags (generatedBlock annotate document) patched = .ok again ∧
            patched.length < again.length) := by
  obtain ⟨c, rfl, rfl⟩ := find_eq_ok_iff.1 found
  obtain ⟨t, ht⟩ : ∃ t, generatedBlock annotate document = t ++ ['\n'] := ⟨_, rfl⟩
  generalize generatedBlock annotate other = new
  rw [ht, inert_append_newline]
  refine ⟨?_, c.front ++ (t ++ ['\n']) ++ c.back, replace_text c _, by simp, ?_, ?_, ?_⟩
  · intro h
    rw [extract_text, Except.ok.injEq] at h
    rw [replace_text, ← h, Cut.text]
  · constructor
    · intro h
      refine Decidable.byContradiction fun hn => ?_
      obtain ⟨body, back, hlt, -, hext, -⟩ := operations_of_not_inert c hn
      rw [hext, Except.ok.injEq] at h
      rw [h] at hlt
      exact Nat.lt_irrefl _ hlt
    · exact fun h => (operations_of_inert c h).1
  · rw [replace_text]
    constructor
    · intro h
      refine Decidable.byContradiction fun hn => ?_
      obtain ⟨body, back, -, hlt, -, hrep⟩ := operations_of_not_inert c hn
      rw [hrep, Except.ok.injEq, List.append_cancel_left_eq] at h
      rw [h] at hlt
      exact Nat.lt_irrefl _ hlt
    · exact fun h => (operations_of_inert c h).2 new
  · intro hn
    obtain ⟨body, back, -, hlt, -, hrep⟩ := operations_of_not_inert c hn
    refine ⟨_, hrep _, ?_⟩
    simp only [List.length_append]
    omega

/-- A document that quotes the end tag, in a file with carriage returns: every further injection
makes the file longer. -/
theorem lens_laws_of_quoted_end :
    ∃ patched again, find ⟨['b'], ['e'], by decide, by decide⟩ "b\r\nx\r\ne\r\nz".toList =
        .ok ⟨3, 6⟩ ∧
      replace ⟨['b'], ['e'], by decide, by decide⟩ (generatedBlock true "1\ne\r\n2".toList)
        "b\r\nx\r\ne\r\nz".toList = .ok patched ∧
      replace ⟨['b'], ['e'], by decide, by decide⟩ (generatedBlock true "1\ne\r\n2".toList)
        patched = .ok again ∧ patched.length < again.length := by
  have found : find ⟨['b'], ['e'], by decide, by decide⟩ "b\r\nx\r\ne\r\nz".toList = .ok ⟨3, 6⟩ :=
    rfl
  obtain ⟨-, patched, hp, -, -, -, hlonger⟩ :=
    lens_laws found true "1\ne\r\n2".toList "3".toList
  obtain ⟨again, ha, hlt⟩ := hlonger (by decide)
  exact ⟨patched, again, found, hp, ha, hlt⟩

end Region

end CommandManual
