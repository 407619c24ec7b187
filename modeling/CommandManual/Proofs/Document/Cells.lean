import CommandManual.Document.Tabular
import CommandManual.Proofs.View.Listing

/-!
# The cells of a row

A reader of a table cuts a row at its bars. A backslash takes the character behind it along, so that
a bar behind one does not cut. The texts of a flag are written into its row as they are: the row has
its four cells if and only if none of them has a bar that cuts.

## Main definitions

* `Tabular.columns`: a line, cut at its bars.
* `Tabular.hasBar`: has a text a bar that cuts?
* `Tabular.cells`: what is written into the row of a flag.

## Main results

* `Tabular.columns_append_bar`: a bar behind a space cuts.
* `Tabular.hasBar_append_cons`: bars of a text that is put together.
* `Tabular.columns_row_iff`: when the row of a flag has its four cells.
-/

namespace CommandManual

namespace Tabular

/-! ### Bars that cut -/

/-- A line, cut at the bars that no backslash stands in front of. -/
def columns : Text → List Text
  | [] => [[]]
  | '\\' :: c :: t => (columns t).modifyHead ('\\' :: c :: ·)
  | c :: t => if c = '|' then [] :: columns t else (columns t).modifyHead (c :: ·)

/-- Is there a bar that no backslash stands in front of? -/
def hasBar : Text → Bool
  | [] => false
  | '\\' :: _ :: t => hasBar t
  | c :: t => c = '|' || hasBar t

example : columns "a\\|b| c".toList = ["a\\|b".toList, " c".toList] := by decide

/-- The character neither cuts nor keeps another one from cutting. -/
def IsInert (c : Char) : Prop := c ≠ '|' ∧ c ≠ '\\'

instance (c : Char) : Decidable (IsInert c) := inferInstanceAs (Decidable (_ ∧ _))

section Bars

variable {c : Char} {s t : Text}

/-- A text is read from its front: a backslash with what it takes along, a bar, or a character that
is neither. -/
@[elab_as_elim]
theorem bar_induction {motive : Text → Prop} (t : Text) (nil : motive [])
    (stroke : motive ['\\']) (escaped : ∀ c t, motive t → motive ('\\' :: c :: t))
    (bar : ∀ t, motive t → motive ('|' :: t))
    (inert : ∀ c t, IsInert c → motive t → motive (c :: t)) : motive t := by
  induction t using columns.induct with
  | case1 => exact nil
  | case2 c t ih => exact escaped c t ih
  | case3 t _ ih => exact bar t ih
  | case4 c t hpair hc ih =>
    by_cases hstroke : c = '\\'
    · cases t with
      | nil => exact hstroke ▸ stroke
      | cons d t => exact (hpair d t hstroke rfl).elim
    · exact inert c t ⟨hc, hstroke⟩ ih

theorem columns_bar (t : Text) : columns ('|' :: t) = [] :: columns t := rfl

theorem columns_cons_of_isInert (h : IsInert c) (t : Text) :
    columns (c :: t) = (columns t).modifyHead (c :: ·) := by
  rw [columns, if_neg h.1]
  exact fun _ _ hc => absurd hc h.2

theorem hasBar_cons_of_isInert (h : IsInert c) (t : Text) : hasBar (c :: t) = hasBar t := by
  rw [hasBar]
  · simp [h.1]
  · exact fun _ _ hc => absurd hc h.2

@[simp] theorem columns_ne_nil (t : Text) : columns t ≠ [] := by
  induction t using bar_induction with
  | nil => simp [columns]
  | stroke => decide
  | escaped c t ih => simpa [columns] using ih
  | bar t _ => simp [columns]
  | inert c t hc ih => simpa [columns_cons_of_isInert hc] using ih

/-- The first column is the whole line only if there is no bar that cuts. -/
theorem columns_eq_self_cons_iff {ls : List Text} :
    columns t = t :: ls ↔ ls = [] ∧ hasBar t = false := by
  have hhead {s t : Text} : (columns t).modifyHead (s ++ ·) = (s ++ t) :: ls ↔
      columns t = t :: ls := by
    cases columns t with
    | nil => simp
    | cons l ms => simp
  induction t using bar_induction with
  | nil => simp [columns, hasBar, eq_comm]
  | stroke => simp [columns, hasBar, eq_comm]
  | escaped c t ih => exact (hhead (s := ['\\', c])).trans ih
  | bar t _ => simp [columns, hasBar]
  | inert c t hc ih =>
    rw [columns_cons_of_isInert hc, hasBar_cons_of_isInert hc]
    exact (hhead (s := [c])).trans ih

/-- **A bar behind a space cuts**, whatever stands in front of the space. -/
theorem columns_append_bar (s t : Text) :
    columns (s ++ ' ' :: '|' :: t) = columns (s ++ [' ']) ++ columns t := by
  have hhead (f : Text → Text) (s t : Text) :
      (columns s ++ columns t).modifyHead f = (columns s).modifyHead f ++ columns t := by
    cases h : columns s with
    | nil => exact absurd h (columns_ne_nil s)
    | cons l ls => rfl
  induction s using bar_induction with
  | nil => rfl
  | stroke => rfl
  | escaped c s ih =>
    simp only [List.cons_append, columns]
    rw [ih, hhead]
  | bar s ih => simp only [List.cons_append, columns_bar, ih]
  | inert c s hc ih =>
    rw [List.cons_append, List.cons_append, columns_cons_of_isInert hc, columns_cons_of_isInert hc,
      ih, hhead]

/-- **The bars of a text that is put together**, with a character between its parts that a backslash
may take along. -/
theorem hasBar_append_cons (hc : IsInert c) (s t : Text) :
    hasBar (s ++ c :: t) = (hasBar s || hasBar t) := by
  induction s using bar_induction with
  | nil => rw [List.nil_append, hasBar_cons_of_isInert hc, hasBar, Bool.false_or]
  | stroke => rfl
  | escaped d s ih => exact ih
  | bar s ih => simp [hasBar, ih]
  | inert d s hd ih =>
    rw [List.cons_append, hasBar_cons_of_isInert hd, hasBar_cons_of_isInert hd, ih]

theorem hasBar_of_notMem (h : '|' ∉ t) : hasBar t = false := by
  induction t using bar_induction with
  | nil => rfl
  | stroke => rfl
  | escaped c t ih => exact ih fun ht => h (by simp [ht])
  | bar t _ => exact absurd List.mem_cons_self h
  | inert c t hc ih =>
    rw [hasBar_cons_of_isInert hc]
    exact ih (List.not_mem_of_not_mem_cons h)

theorem hasBar_append_of_isInert_left (h : ∀ c ∈ s, IsInert c) (t : Text) :
    hasBar (s ++ t) = hasBar t := by
  induction s with
  | nil => rfl
  | cons c s ih =>
    obtain ⟨hc, hs⟩ := List.forall_mem_cons.1 h
    rw [List.cons_append, hasBar_cons_of_isInert hc, ih hs]

theorem hasBar_append_of_isInert_right (t : Text) (h : ∀ c ∈ s, IsInert c) :
    hasBar (t ++ s) = hasBar t := by
  cases s with
  | nil => rw [List.append_nil]
  | cons c s =>
    obtain ⟨hc, hs⟩ := List.forall_mem_cons.1 h
    rw [hasBar_append_cons hc, hasBar_of_notMem fun hmem => (hs _ hmem).1 rfl, Bool.or_false]

end Bars

/-! ### The texts of a flag -/

section Texts

variable {t : Text}

/-- Line ends are no bars, and a backslash takes a space along as well as a line end. -/
theorem hasBar_substitute_newline (t : Text) :
    hasBar (Text.substitute '\n' [' '] t) = hasBar t := by
  have hcons (c : Char) (t : Text) : ∃ d, Text.substitute '\n' [' '] (c :: t) =
      d :: Text.substitute '\n' [' '] t ∧ (c ≠ '\n' → d = c) ∧ (IsInert c → IsInert d) := by
    by_cases hc : c = '\n'
    · exact ⟨' ', by simp [Text.substitute, hc], fun h => absurd hc h, fun _ => by decide⟩
    · exact ⟨c, by simp [Text.substitute, hc], fun _ => rfl, id⟩
  induction t using bar_induction with
  | nil => rfl
  | stroke => decide
  | escaped c t ih =>
    obtain ⟨d, hd, -⟩ := hcons c t
    have hstroke : Text.substitute '\n' [' '] ('\\' :: c :: t) =
        '\\' :: d :: Text.substitute '\n' [' '] t := hd ▸ rfl
    rw [hstroke]
    exact ih
  | bar t _ => rfl
  | inert c t hc ih =>
    obtain ⟨d, hd, -, hinert⟩ := hcons c t
    rw [hd, hasBar_cons_of_isInert (hinert hc), hasBar_cons_of_isInert hc, ih]

/-- What is taken off the ends of a text is no bar. -/
theorem hasBar_trimEnd {p : Char → Bool} (hp : ∀ c, p c = true → IsInert c) (t : Text) :
    hasBar (Text.trimEnd p t) = hasBar t := by
  obtain ⟨tail, htail, hend⟩ := Text.exists_append_trimEnd p t
  have h := hasBar_append_of_isInert_right (Text.trimEnd p t) fun c hc => hp c (hend c hc)
  rwa [htail, eq_comm] at h

theorem hasBar_trimStart {p : Char → Bool} (hp : ∀ c, p c = true → IsInert c) (t : Text) :
    hasBar (Text.trimStart p t) = hasBar t := by
  have h := hasBar_append_of_isInert_left (s := t.takeWhile p)
    (fun c hc => hp c (List.mem_takeWhile_imp hc)) (t.dropWhile p)
  rwa [List.takeWhile_append_dropWhile, eq_comm] at h

theorem isInert_of_isBlank {c : Char} (h : isBlank c = true) : IsInert c := by
  constructor <;> rintro rfl <;> revert h <;> decide

/-- A text on one line has the bars that it had. -/
theorem hasBar_cell (t : Text) : hasBar (Prose.cell t) = hasBar t := by
  have htail (c : Char) (h : Prose.isCellTail c = true) : IsInert c := by
    constructor <;> rintro rfl <;> revert h <;> decide
  rw [Prose.cell, hasBar_trimEnd htail, Prose.oneLine, Text.strip, Text.trim,
    hasBar_trimEnd fun c => isInert_of_isBlank, hasBar_trimStart fun c => isInert_of_isBlank,
    hasBar_substitute_newline]

theorem hasBar_code (t : Text) : hasBar (code t) = hasBar t := by
  have htick : IsInert Text.backtick := by decide
  rw [code, List.cons_append, hasBar_cons_of_isInert htick,
    hasBar_append_of_isInert_right t (List.forall_mem_singleton.2 htick)]

theorem hasBar_commaList (ts : List Text) : hasBar (Text.commaList ts) = ts.any hasBar := by
  induction ts with
  | nil => rfl
  | cons t ts ih =>
    cases ts with
    | nil => simp [Text.commaList]
    | cons u us =>
      have hcomma : Text.commaList (t :: u :: us) = t ++ ',' :: ' ' :: Text.commaList (u :: us) := by
        simp [Text.commaList, List.intercalate_cons_cons]
      rw [hcomma, hasBar_append_cons (by decide), hasBar_cons_of_isInert (by decide), ih]
      rfl

end Texts

/-! ### The cells of a flag -/

/-- What is written into the row of a flag. -/
def cells (v : FlagView) : List Text :=
  [Text.commaList (v.names.map (nameSpan v)), v.usage, defaultCell v, envCell v]

/-- A cell with the spaces around it. -/
def padded (cell : Text) : Text := ' ' :: cell ++ [' ']

/-- The columns of a table: what stands between the bars of a row, and nothing outside of them. -/
def fourColumns (v : FlagView) : List Text := [] :: (cells v).map padded ++ [[]]

section Cells

variable {v : FlagView}

theorem row_eq (v : FlagView) :
    row v = '|' :: (cells v).flatMap fun c => ' ' :: c ++ [' ', '|'] := by
  have hfirst : "| ".toList = ['|', ' '] := rfl
  have hbetween : " | ".toList = [' ', '|', ' '] := rfl
  have hlast : " |".toList = [' ', '|'] := rfl
  unfold row
  simp only [cells, hfirst, hbetween, hlast, List.flatMap_cons, List.flatMap_nil,
    List.append_assoc, List.cons_append, List.nil_append, List.append_nil]

theorem hasBar_padded (t : Text) : hasBar (padded t) = hasBar t := by
  have hspace : IsInert ' ' := by decide
  rw [padded, List.cons_append, hasBar_cons_of_isInert hspace,
    hasBar_append_of_isInert_right t (List.forall_mem_singleton.2 hspace)]

/-- Cells in a row are the columns of the row if and only if none of them has a bar that cuts. -/
theorem columns_flatMap_iff (cs : List Text) :
    columns (cs.flatMap fun c => ' ' :: c ++ [' ', '|']) = cs.map padded ++ [[]] ↔
      ∀ c ∈ cs, hasBar c = false := by
  induction cs with
  | nil => simp [columns]
  | cons c cs ih =>
    have hcut : columns ((c :: cs).flatMap fun c => ' ' :: c ++ [' ', '|']) =
        columns (padded c) ++ columns (cs.flatMap fun c => ' ' :: c ++ [' ', '|']) := by
      rw [padded, ← columns_append_bar]
      simp
    rw [hcut, List.map_cons, List.forall_mem_cons, ← ih, ← hasBar_padded c]
    constructor
    · intro h
      obtain ⟨l, ls, hl⟩ := List.exists_cons_of_ne_nil (columns_ne_nil (padded c))
      rw [hl, List.cons_append, List.cons_append] at h
      obtain ⟨rfl, hrest⟩ := List.cons.inj h
      obtain ⟨rfl, hbar⟩ := columns_eq_self_cons_iff.1 hl
      exact ⟨hbar, hrest⟩
    · rintro ⟨hbar, hrest⟩
      rw [columns_eq_self_cons_iff.2 ⟨rfl, hbar⟩, hrest]
      rfl

theorem hasBar_defaultCell (v : FlagView) : hasBar (defaultCell v) = hasBar v.default := by
  rw [defaultCell]
  split
  · next h => rw [List.isEmpty_iff.1 h]
  · exact hasBar_code _

theorem hasBar_envCell (v : FlagView) : hasBar (envCell v) = v.envVars.any hasBar := by
  rw [envCell]
  split
  · next h => rw [List.isEmpty_iff.1 h]; decide
  · rw [hasBar_commaList, List.any_map]
    exact congrArg (List.any v.envVars) (funext hasBar_code)

/-- Names without bars make a cell without bars. -/
theorem hasBar_names (h : ∀ n ∈ v.names, '|' ∉ n) :
    hasBar (Text.commaList (v.names.map (nameSpan v))) = false := by
  rw [hasBar_commaList, List.any_map, List.any_eq_false]
  intro n hn
  have hspan : '|' ∉ n ++ if v.takesValue then "=\"…\"".toList else [] := by
    split <;> simp [h n hn]
  rw [Function.comp_apply, nameSpan, hasBar_code, hasBar_of_notMem hspan]
  exact Bool.false_ne_true

end Cells

/-- **The row of a flag has its four cells** if and only if no bar cuts its usage, its default or an
environment variable. -/
theorem columns_row_iff {f : Flag} (h : ∀ n ∈ f.names.toList, '|' ∉ n) :
    columns (row (FlagView.ofFlag f)) = fourColumns (FlagView.ofFlag f) ↔
      hasBar f.usage = false ∧ hasBar f.defaultDisplay = false ∧
        ∀ e ∈ f.envVars, hasBar e = false := by
  have hnames := hasBar_names (v := FlagView.ofFlag f)
    (FlagNames.notMem_spelled (by decide) h)
  have hrow : columns (row (FlagView.ofFlag f)) =
      [] :: columns ((cells (FlagView.ofFlag f)).flatMap fun c => ' ' :: c ++ [' ', '|']) := by
    rw [row_eq, columns_bar]
  rw [hrow, fourColumns, List.cons_append, List.cons_inj_right, columns_flatMap_iff]
  have husage : hasBar (FlagView.ofFlag f).usage = hasBar f.usage := hasBar_cell f.usage
  simp only [cells, List.forall_mem_cons, hnames, husage, hasBar_defaultCell, hasBar_envCell,
    List.any_eq_false, Bool.not_eq_true, true_and, List.not_mem_nil, false_imp_iff, implies_true,
    and_true]
  exact Iff.rfl

end Tabular

end CommandManual
