import CommandManual.Proofs.Region.Delimiters

/-!
# Regions that lie apart

A file can carry several regions, each with delimiters of its own. Writing into one of them moves
the other, and it changes the text that the other is looked for in. Still the two do not disturb
each other if the delimiter lines of one lie in front of those of the other.

The two regions are not alike. What is written into the region behind is never met by the search
for the one in front, which ends before it (`Cut.resume`). What is written into the region in front
is searched for the start tag of the one behind, and must not have it (`Cut.reopen`). The end tag of
the one behind may occur there, and so may both tags of the region itself. Nothing else is needed:
the tags of the two regions may even be the same in part.

## Main definitions

* `Region.Lacks`: no line of a text equals a tag.
* `Region.Cut.Precedes`: a cut in front of another one of the same content.

## Main results

* `Region.operations_of_precedes`: reading and writing two regions, one behind the other.
* `Region.replace_comm`: two regions that lie apart can be written in either order.
-/

namespace CommandManual

namespace Region

/-- No line of a text equals a tag. -/
def Lacks (tag t : Text) : Prop := ∀ l ∈ Text.lines t, isTag tag l = false

instance (tag t : Text) : Decidable (Lacks tag t) :=
  inferInstanceAs (Decidable (∀ l ∈ Text.lines t, isTag tag l = false))

theorem Lacks.of_append_newline {tag t : Text} (h : Lacks tag (t ++ ['\n'])) : Lacks tag t := by
  intro l hl
  refine h l ?_
  rw [Text.lines_append_newline]
  exact List.mem_append_left _ hl

namespace Cut

variable {s t : Tags}

/-- A cut with other lines in front of its start line. -/
def reopen (d : Cut t) (before : List Text) (hb : ∀ l ∈ before, isTag t.opening l = false)
    (hn : ∀ l ∈ before, '\n' ∉ l) : Cut t where
  before := before
  opening := d.opening
  inside := d.inside
  closing := d.closing
  after := d.after
  before_ne := hb
  opening_eq := d.opening_eq
  inside_ne := d.inside_ne
  closing_eq := d.closing_eq
  newline_notMem := by
    intro l hl
    rw [List.append_assoc] at hl
    rcases List.mem_append.1 hl with hl | hl
    · exact hn l hl
    · refine d.newline_notMem l ?_
      rw [List.append_assoc]
      exact List.mem_append_right _ hl

/-- A cut with other lines behind its end line. -/
def resume (c : Cut s) (after : List Text) (hn : ∀ l ∈ after, '\n' ∉ l) : Cut s where
  before := c.before
  opening := c.opening
  inside := c.inside
  closing := c.closing
  after := after
  before_ne := c.before_ne
  opening_eq := c.opening_eq
  inside_ne := c.inside_ne
  closing_eq := c.closing_eq
  newline_notMem := by
    intro l hl
    rw [List.append_cons] at hl
    rcases List.mem_append.1 hl with hl | hl
    · refine c.newline_notMem l ?_
      rw [List.append_cons]
      exact List.mem_append_left _ hl
    · exact hn l hl

/-- The delimiters of a cut lie in front of those of another one of the same content, with these
lines between them. -/
structure Precedes (c : Cut s) (d : Cut t) (mid : List Text) : Prop where
  before_eq : d.before = c.before ++ c.opening :: (c.inside ++ c.closing :: mid)
  after_eq : c.after = mid ++ d.opening :: (d.inside ++ d.closing :: d.after)

/-- Line numbers tell which cut is in front. -/
theorem exists_precedes {c : Cut s} {d : Cut t} (htext : c.text = d.text)
    (hlt : c.stopLine < d.before.length) : ∃ mid, c.Precedes d mid := by
  -- The lines up to the end line in front are lines in front of the start line behind.
  let lead := c.before ++ c.opening :: (c.inside ++ [c.closing])
  have hlead : lead ++ c.after = d.before ++ d.opening :: (d.inside ++ d.closing :: d.after) := by
    rw [← d.lines_text, ← htext, c.lines_text]
    simp [lead]
  have hlength : lead.length ≤ d.before.length := by
    simp only [lead, stopLine, List.length_append, List.length_cons, List.length_nil] at hlt ⊢
    omega
  obtain ⟨mid, hmid⟩ : lead <+: d.before :=
    List.prefix_of_prefix_length_le ⟨c.after, hlead⟩ (List.prefix_append ..) hlength
  have hrest : lead ++ c.after =
      lead ++ (mid ++ d.opening :: (d.inside ++ d.closing :: d.after)) := by
    rw [hlead, ← hmid, List.append_assoc]
  exact ⟨mid, by simp [← hmid, lead], List.append_cancel_left hrest⟩

namespace Precedes

variable {c : Cut s} {d : Cut t} {mid : List Text} (h : c.Precedes d mid)
include h

/-- The lines from the end line of one to the start line of the other have no newline. -/
theorem newline_notMem {l : Text} (hl : l ∈ c.closing :: mid ++ [d.opening]) : '\n' ∉ l := by
  refine c.newline_notMem l (List.mem_append_right _ ?_)
  rw [h.after_eq]
  grind

/-- What is in front of the region behind. -/
theorem front_eq :
    d.front = c.front ++ c.body ++ Text.terminated (c.closing :: mid ++ [d.opening]) := by
  rw [front, front, body, h.before_eq, ← Text.terminated_append, ← Text.terminated_append]
  simp

/-- What is behind the region in front. -/
theorem back_eq :
    c.back = Text.terminated (c.closing :: mid ++ [d.opening]) ++ d.body ++ d.back := by
  rw [back, back, body, h.after_eq, ← Text.terminated_append,
    Text.terminated_append_unlines _ (List.cons_ne_nil d.closing d.after)]
  simp

end Precedes

end Cut

/-! ### Two regions, one behind the other -/

variable {s t : Tags} {c : Cut s} {d : Cut t} {mid : List Text}

/-- After a text without the start tag of the region behind is put into the region in front, the
region behind is what it was. -/
theorem operations_behind (h : c.Precedes d mid) {u : Text} (hu : Lacks t.opening u) :
    extract t (c.front ++ (u ++ ['\n']) ++ c.back) = .ok d.body ∧
      ∀ new, replace t new (c.front ++ (u ++ ['\n']) ++ c.back) =
        .ok (c.front ++ (u ++ ['\n']) ++ Text.terminated (c.closing :: mid ++ [d.opening]) ++ new ++
          d.back) := by
  have hold {l : Text} (hl : l ∈ d.before) : isTag t.opening l = false ∧ '\n' ∉ l :=
    ⟨d.before_ne l hl, d.newline_notMem l (by simp [hl])⟩
  have hnew : ∀ l ∈ c.before ++ c.opening :: (Text.lines u ++ c.closing :: mid),
      isTag t.opening l = false ∧ '\n' ∉ l := by
    intro l hl
    by_cases hlu : l ∈ Text.lines u
    · exact ⟨hu l hlu, Text.newline_notMem_of_mem_lines hlu⟩
    · refine hold ?_
      rw [h.before_eq]
      grind
  let d' := d.reopen _ (fun l hl => (hnew l hl).1) (fun l hl => (hnew l hl).2)
  have hfront : d'.front =
      c.front ++ (u ++ ['\n']) ++ Text.terminated (c.closing :: mid ++ [d.opening]) := by
    rw [Cut.front, Cut.front, ← Text.terminated_lines, ← Text.terminated_append,
      ← Text.terminated_append]
    simp [d', Cut.reopen]
  have htext : d'.text = c.front ++ (u ++ ['\n']) ++ c.back := by
    rw [Cut.text, hfront, h.back_eq]
    simp only [List.append_assoc]
    rfl
  rw [← htext]
  refine ⟨extract_text d', fun new => ?_⟩
  rw [replace_text, hfront]
  rfl

/-- After any text is put into the region behind, the region in front is what it was. -/
theorem operations_in_front (h : c.Precedes d mid) (new : Text) :
    extract s (d.front ++ new ++ d.back) = .ok c.body ∧
      ∀ u, replace s u (d.front ++ new ++ d.back) =
        .ok (c.front ++ u ++ Text.terminated (c.closing :: mid ++ [d.opening]) ++ new ++
          d.back) := by
  have hlines : ∀ l ∈ mid ++ d.opening :: Text.lines (new ++ d.back), '\n' ∉ l := by
    intro l hl
    by_cases hnew : l ∈ Text.lines (new ++ d.back)
    · exact Text.newline_notMem_of_mem_lines hnew
    · exact h.newline_notMem (by grind)
  let c' := c.resume _ hlines
  have hback : c'.back =
      Text.terminated (c.closing :: mid ++ [d.opening]) ++ (new ++ d.back) := by
    rw [← Text.unlines_lines (new ++ d.back),
      Text.terminated_append_unlines _ (Text.lines_ne_nil _)]
    simp [c', Cut.resume, Cut.back]
  have htext : c'.text = d.front ++ new ++ d.back := by
    rw [Cut.text, hback, h.front_eq]
    simp only [List.append_assoc]
    rfl
  rw [← htext]
  refine ⟨extract_text c', fun u => ?_⟩
  rw [replace_text, hback]
  simp only [List.append_assoc]
  rfl

/-- **Two regions, one behind the other.** Both are written in either order with the same result,
and writing one of them does not change the other. -/
theorem operations_of_precedes (h : c.Precedes d mid) (htext : c.text = d.text) {block : Text}
    (hend : ∃ u, block = u ++ ['\n']) (hblock : Lacks t.opening block) (new : Text) :
    ∃ first second both, replace s block c.text = .ok first ∧ replace t new c.text = .ok second ∧
      replace t new first = .ok both ∧ replace s block second = .ok both ∧
      extract t first = extract t c.text ∧ extract s second = extract s c.text := by
  obtain ⟨u, rfl⟩ := hend
  obtain ⟨hextract, hreplace⟩ := operations_behind h hblock.of_append_newline
  obtain ⟨hextract', hreplace'⟩ := operations_in_front h new
  refine ⟨_, _, _, replace_text c _, htext ▸ replace_text d new, hreplace new, hreplace' _, ?_, ?_⟩
  · rw [hextract, htext, extract_text]
  · rw [hextract', extract_text]

/-- **Regions that lie apart are written in either order.** The two pairs of delimiter lines lie one
behind the other, and neither block has a line that equals the start tag of the other region. Then
both regions are found whichever is written first, the content is the same in the end, and writing
one of them does not change the other. -/
theorem replace_comm {content : Text} {i j m n : Nat}
    (first : Delimited s (Text.lines content) i j) (second : Delimited t (Text.lines content) m n)
    (apart : j < m ∨ n < i) {annotate annotate' : Bool} {document document' : Text}
    (lacks : Lacks t.opening (generatedBlock annotate document))
    (lacks' : Lacks s.opening (generatedBlock annotate' document')) :
    ∃ one other both,
      replace s (generatedBlock annotate document) content = .ok one ∧
      replace t (generatedBlock annotate' document') content = .ok other ∧
      replace t (generatedBlock annotate' document') one = .ok both ∧
      replace s (generatedBlock annotate document) other = .ok both ∧
      (∃ old, extract t content = .ok old ∧ extract t one = .ok old) ∧
      (∃ old, extract s content = .ok old ∧ extract s other = .ok old) := by
  obtain ⟨c, rfl, rfl, rfl⟩ := delimited_lines_iff.1 first
  obtain ⟨d, htext, rfl, rfl⟩ := delimited_lines_iff.1 second
  have hold : extract s c.text = .ok c.body := extract_text c
  have hold' : extract t c.text = .ok d.body := htext ▸ extract_text d
  rcases apart with hlt | hlt
  · obtain ⟨mid, h⟩ := Cut.exists_precedes htext.symm hlt
    obtain ⟨one, other, both, hone, hother, hboth, hboth', ht, hs⟩ :=
      operations_of_precedes h htext.symm ⟨_, rfl⟩ lacks (generatedBlock annotate' document')
    exact ⟨one, other, both, hone, hother, hboth, hboth', ⟨_, hold', ht.trans hold'⟩,
      ⟨_, hold, hs.trans hold⟩⟩
  · obtain ⟨mid, h⟩ := Cut.exists_precedes htext hlt
    rw [← htext] at hold hold' ⊢
    obtain ⟨other, one, both, hother, hone, hboth', hboth, hs, ht⟩ :=
      operations_of_precedes h htext ⟨_, rfl⟩ lacks' (generatedBlock annotate document)
    exact ⟨one, other, both, hone, hother, hboth, hboth', ⟨_, hold', ht.trans hold'⟩,
      ⟨_, hold, hs.trans hold⟩⟩

/-- Two regions in a file with mixed line ends. Each document quotes the end tags of both regions,
and the first one quotes its own start tag too. -/
theorem replace_comm_of_quoted_tags :
    let s : Tags := ⟨['b'], ['e'], by decide, by decide⟩
    let t : Tags := ⟨['c'], ['f'], by decide, by decide⟩
    let content := "x\nb\r\nold\ne\r\ny\r\nc\nf".toList
    let block := generatedBlock true "b\ne\nf".toList
    let block' := generatedBlock false "f\r\ne".toList
    Delimited s (Text.lines content) 1 3 ∧ Delimited t (Text.lines content) 5 6 ∧ 3 < 5 ∧
      Lacks t.opening block ∧ Lacks s.opening block' ∧
      ∃ one other both, replace s block content = .ok one ∧ replace t block' content = .ok other ∧
        replace t block' one = .ok both ∧ replace s block other = .ok both ∧
        (∃ old, extract t content = .ok old ∧ extract t one = .ok old) ∧
        (∃ old, extract s content = .ok old ∧ extract s other = .ok old) := by
  intro s t content block block'
  have first : Delimited s (Text.lines content) 1 3 := ⟨rfl, rfl⟩
  have second : Delimited t (Text.lines content) 5 6 := ⟨rfl, rfl⟩
  have lacks : Lacks t.opening block := by decide +kernel
  have lacks' : Lacks s.opening block' := by decide +kernel
  exact ⟨first, second, by decide, lacks, lacks',
    replace_comm first second (.inl (by decide)) lacks lacks'⟩

end Region

end CommandManual
