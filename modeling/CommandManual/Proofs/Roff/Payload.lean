import CommandManual.Proofs.Roff.Decode
import CommandManual.Proofs.Roff.Grammar

/-!
# What a page says

The payload of a page is what is set: its lines of text, and the texts of its headings. Requests
only say how. No document may lose text on its way into the page, repeat it or have it in another
order, which is to say that the payload, read back, has the wording of the document.

## Main definitions

* `Roff.payload?`, `Roff.payload`: what is set of a line, and of the lines of a page.

## Main results

* `Roff.wording_payload_blockLines`: the payload of a block has the wording of its texts.
* `Roff.wording_payload`: the payload of a page has the wording of its document.
-/

namespace CommandManual

namespace Roff

open Markdown (bare wording wording_append wording_map textLines)

/-- What is set of a line of a page: the text of a heading, nothing of other requests, and a line of
text as it is. -/
def payload? (l : Text) : Option Text :=
  if l.startsWith ".SH ".toList || l.startsWith ".SS ".toList then some (l.drop 4)
  else if l.startsWith ['.'] then none
  else some l

/-- What is set of the lines of a page. -/
def payload (ls : List Text) : List Text := ls.filterMap payload?

/-! ### Lines -/

theorem payload_append (ls ks : List Text) : payload (ls ++ ks) = payload ls ++ payload ks :=
  List.filterMap_append ..

theorem payload?_of_isTextLine {l : Text} (h : IsTextLine l) : payload? l = some l := by
  cases l with
  | nil => rfl
  | cons c l =>
    have hc : ('.' == c) = false := by
      rw [beq_eq_false_iff_ne]
      rintro rfl
      cases h
    simp [payload?, Text.startsWith, List.isPrefixOf, hc]

theorem payload_of_isTextLine {ls : List Text} (h : ∀ l ∈ ls, IsTextLine l) : payload ls = ls := by
  induction ls with
  | nil => rfl
  | cons l ls ih =>
    rw [payload, List.filterMap_cons_some (payload?_of_isTextLine (h l (List.mem_cons_self ..))),
      ← payload, ih fun k hk => h k (List.mem_cons_of_mem l hk)]

theorem payload?_heading {head : Text} (h : head = ".SH ".toList ∨ head = ".SS ".toList)
    (t : Text) : payload? (head ++ t) = some t := by
  rcases h with rfl | rfl <;> rfl

/-! ### Blocks -/

theorem wording_decode_escape (ts : List Text) :
    wording ((ts.map escape).map decode) = wording ts := by
  rw [List.map_map]
  exact wording_map fun t _ => by rw [Function.comp_apply, decode_escape]

theorem wording_decode_inline (ts : List Text) :
    wording ((ts.map inline).map decode) = wording ts := by
  rw [List.map_map]
  exact wording_map fun t _ => bare_decode_inline t

theorem payload_map_escape (ts : List Text) : payload (ts.map escape) = ts.map escape := by
  refine payload_of_isTextLine fun l hl => ?_
  obtain ⟨t, -, rfl⟩ := List.mem_map.1 hl
  exact isTextLine_escape t

theorem payload_map_inline (ts : List Text) : payload (ts.map inline) = ts.map inline := by
  refine payload_of_isTextLine fun l hl => ?_
  obtain ⟨t, -, rfl⟩ := List.mem_map.1 hl
  exact isTextLine_inline t

/-- **The payload of a block**, read back, has the wording of its texts. -/
theorem wording_payload_blockLines (b : Markdown.Block) :
    wording ((payload (blockLines b)).map decode) = wording b.texts := by
  cases b with
  | heading level title =>
    have hpayload : payload (blockLines (.heading level title)) = [title].map inline := by
      rw [blockLines, payload, List.filterMap_cons, payload?_heading (by split <;> simp)]
      rfl
    rw [hpayload]
    exact wording_decode_inline [title]
  | code ls =>
    have hpayload : payload (blockLines (.code ls)) = ls.map escape := by
      rw [blockLines, List.cons_append, payload, List.filterMap_cons_none rfl,
        ← payload, payload_append, payload_map_escape]
      exact List.append_nil _
    rw [hpayload]
    exact wording_decode_escape ls
  | quote ls =>
    have hpayload : payload (blockLines (.quote ls)) = ls.map inline := by
      rw [blockLines, List.cons_append, List.cons_append, payload, List.filterMap_cons_none rfl,
        List.filterMap_cons_none rfl, ← payload, payload_append, payload_map_inline]
      exact List.append_nil _
    rw [hpayload]
    exact wording_decode_inline ls
  | bullet text =>
    have hpayload : payload (blockLines (.bullet text)) = [text].map inline :=
      payload_map_inline [text]
    rw [hpayload]
    exact wording_decode_inline [text]
  | paragraph ls =>
    have hpayload : payload (blockLines (.paragraph ls)) = ls.map inline :=
      payload_map_inline ls
    rw [hpayload]
    exact wording_decode_inline ls

theorem wording_payload_flatMap_blockLines (bs : List Markdown.Block) :
    wording ((payload (bs.flatMap blockLines)).map decode) =
      wording (bs.flatMap Markdown.Block.texts) := by
  induction bs with
  | nil => rfl
  | cons b bs ih =>
    rw [List.flatMap_cons, payload_append, List.map_append, wording_append,
      wording_payload_blockLines, ih, List.flatMap_cons, wording_append]

/-! ### Pages -/

/-- **A page says what its document says**: line by line, in the same order, once each. What is set
of the page, read back, and the lines behind the title line that are no fences have the same
wording. -/
theorem wording_payload {t : Text} {p : Page} (h : convert t = .ok p) :
    wording ((payload (Text.lines p.text)).map decode) = wording (textLines t) := by
  have hlines := lines_text_of_convert h
  obtain ⟨d, hd, rfl⟩ := Except.map_eq_ok_iff.1 h
  have htitle : payload (titleLines d.title) = [] := rfl
  rw [hlines, Page.ofDocument, payload_append, payload_append, htitle, List.nil_append,
    List.map_append, wording_append, wording_payload_flatMap_blockLines,
    Markdown.Document.wording_of_ofText hd]
  exact List.append_nil _

/-- A page whose document has spans, a request and a change of font in literal text, and fences. -/
theorem wording_payload_of_fences :
    let t :=
      "% t 1\r\n## *A*-b\n    .so \\fBx\n\n> \x60q\x60\n\x60\x60\x60sh\n- c\n\x60\x60\x60".toList
    ∃ p, convert t = .ok p ∧ wording ((payload (Text.lines p.text)).map decode) =
      ["Ab".toList, ".so\\fBx".toList, ['q'], ['c']] := by
  intro t
  have hok : (convert t).isOk = true := by decide +kernel +zetaReduce
  cases h : convert t with
  | error f =>
    rw [h] at hok
    cases hok
  | ok p =>
    refine ⟨p, rfl, ?_⟩
    rw [wording_payload h]
    decide +kernel +zetaReduce

end Roff

end CommandManual
