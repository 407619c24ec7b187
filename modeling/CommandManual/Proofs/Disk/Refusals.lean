import CommandManual.Proofs.Disk.Changes
import CommandManual.Proofs.Disk.Way
import CommandManual.Proofs.Text.Parts

/-!
# What a refusal is about

An operation that is refused names the path that it was given, whatever stands in the way. So the
path of a fault tells on which file the operation was that failed. Where nothing is found, nothing
is there; and a place that was found is found again by the path of its names, unless that path is
too long.

## Main definitions

* `Disk.NullFree`: no null character is in the way of a path.
* `Disk.IsMissing`: nothing is behind a path.

## Main results

* `Disk.failsOnly_locate` and the lemmas behind it: the path of a refusal, for each operation.
* `Disk.NullFree.locate`: a place that is found has no null character in its path.
* `Disk.Reached.isMissing`: why a place that was found may not be found by the path of its names.
* `Disk.exists_link_of_touch`: a file that is not found although it was to be made is a link.
-/

namespace CommandManual

open Except (FailsOnly)
open Workspace (pathOf)

namespace Disk

variable {d : Disk} {here l : Location} {p : Path}

/-! ### The path of a refusal -/

section Refusals

variable (d : Disk) (here : Location) (p : Path)

theorem failsOnly_locate (throughLast : Bool) :
    FailsOnly (·.path = p.text) (d.locate here p throughLast) := by
  unfold locate
  cases unusable? p.text with
  | none => exact Except.failsOnly_mapError_iff.2 fun _ _ => rfl
  | some r => exact Except.failsOnly_error_iff.2 rfl

theorem failsOnly_stat : FailsOnly (·.path = p.text) (d.stat here p) := by
  refine (d.failsOnly_locate here p true).bind fun l _ => ?_
  cases d.node? l with
  | none => exact Except.failsOnly_error_iff.2 rfl
  | some n => exact Except.failsOnly_ok _

/-- Looking for something behind a path never ends with the fault that nothing was found. -/
theorem failsOnly_holds (property : Node → Bool) :
    FailsOnly (fun f => f.path = p.text ∧ f.refusal ≠ .notFound) (d.holds here property p) := by
  intro f hf
  unfold holds at hf
  cases hstat : d.stat here p with
  | ok found => rw [hstat] at hf; cases hf
  | error g =>
    rw [hstat] at hf
    have hpath := d.failsOnly_stat here p g hstat
    cases hrefusal : g.refusal with
    | notFound | notDirectory | loop | nullCharacter => simp only [hrefusal] at hf; cases hf
    | «exists» | isDirectory | nameTooLong | unencodable | trouble | unwritten =>
      simp only [hrefusal] at hf
      obtain rfl := Except.error.inj hf
      exact ⟨hpath, by rw [hrefusal]; exact Refusal.noConfusion⟩

theorem failsOnly_read : FailsOnly (·.path = p.text) (d.read here p) := by
  refine (d.failsOnly_stat here p).bind fun found _ => ?_
  obtain ⟨l, n⟩ := found
  cases n with
  | file bs m => exact Except.failsOnly_ok _
  | directory m => exact Except.failsOnly_error_iff.2 rfl
  | link t => exact Except.failsOnly_error_iff.2 rfl

theorem failsOnly_write (bytes : List UInt8) :
    FailsOnly (·.path = p.text) (d.write here p bytes) := by
  refine (d.failsOnly_locate here p true).bind fun l _ => ?_
  cases d.node? l with
  | none => exact Except.failsOnly_ok _
  | some n =>
    cases n with
    | file bs m => exact Except.failsOnly_ok _
    | directory m => exact Except.failsOnly_error_iff.2 rfl
    | link t => exact Except.failsOnly_error_iff.2 rfl

theorem failsOnly_touch : FailsOnly (·.path = p.text) (d.touch here p) := by
  refine (d.failsOnly_locate here p true).bind fun l _ => ?_
  cases d.node? l with
  | none => exact Except.failsOnly_ok _
  | some n =>
    cases n with
    | file bs m => exact Except.failsOnly_ok _
    | directory m => exact Except.failsOnly_error_iff.2 rfl
    | link t => exact Except.failsOnly_error_iff.2 rfl

theorem failsOnly_create (n : Node) : FailsOnly (·.path = p.text) (d.create here p n) := by
  refine (d.failsOnly_locate here p false).bind fun l _ => ?_
  cases d.node? l with
  | none => exact Except.failsOnly_ok _
  | some _ => exact Except.failsOnly_error_iff.2 rfl

theorem failsOnly_setMode (mode : Nat) : FailsOnly (·.path = p.text) (d.setMode here p mode) :=
  (d.failsOnly_stat here p).bind fun _ _ => Except.failsOnly_ok _

/-- A move that is refused names one of its two paths. -/
theorem failsOnly_rename (q : Path) :
    FailsOnly (fun f => f.path = p.text ∨ f.path = q.text) (d.rename here p q) := by
  refine ((d.failsOnly_locate here p false).mono fun _ => .inl).bind fun k _ => ?_
  refine ((d.failsOnly_locate here q false).mono fun _ => .inr).bind fun l _ => ?_
  cases d.slot? k with
  | none => exact Except.failsOnly_error_iff.2 (.inl rfl)
  | some s =>
    cases d.node? l with
    | none => exact Except.failsOnly_ok _
    | some n =>
      cases n with
      | file bs m => exact Except.failsOnly_ok _
      | directory m => exact Except.failsOnly_error_iff.2 (.inl rfl)
      | link t => exact Except.failsOnly_ok _

/-- What one of several changes is refused for. -/
theorem failsOnly_attempt {P : AccessFault → Prop}
    {changes : List (Disk → Except AccessFault Disk)}
    (h : ∀ change ∈ changes, ∀ d, FailsOnly P (change d)) : ∀ f ∈ (d.attempt changes).1, P f := by
  induction changes generalizing d with
  | nil => intro f hf; cases hf
  | cons change changes ih =>
    rw [List.forall_mem_cons] at h
    cases hd : change d with
    | ok e =>
      rw [attempt_cons hd]
      exact ih e h.2
    | error g =>
      rw [attempt_cons_of_error hd]
      intro f hf
      obtain rfl := Option.some.inj hf
      exact h.1 d _ hd

end Refusals

/-! ### Nothing is there -/

/-- Nothing is behind a path. -/
def IsMissing (d : Disk) (here : Location) (p : Path) : Prop := ∀ found, d.stat here p ≠ .ok found

theorem isMissing_of_exists? (h : d.exists? here p = .ok false) : d.IsMissing here p := by
  rintro ⟨l, n⟩ hstat
  rw [exists?, holds, hstat] at h
  cases h

theorem isMissing_of_read {f : AccessFault} (h : d.read here p = .error f)
    (hf : f.refusal = .notFound) : d.IsMissing here p := by
  rintro ⟨l, n⟩ hstat
  rw [read, hstat] at h
  cases n with
  | file bs m => cases h
  | directory m => cases h; cases hf
  | link t => cases h; cases hf

/-! ### Null characters -/

theorem subset_text_of_mem_names {n : Text} (hn : n ∈ p.names) : n ⊆ p.text := by
  rw [Path.text, if_neg (by simp [List.ne_nil_of_mem hn])]
  exact List.Subset.trans (Text.subset_intercalate ['/'] hn) (List.subset_append_right ..)

theorem subset_of_mem_names_ofText {t n : Text} (hn : n ∈ (Path.ofText t).names) : n ⊆ t :=
  Text.subset_of_mem_splitOn (List.mem_of_mem_filter hn)

/-- Neither the names of a directory nor the target of a link has a null character. No system has
others. -/
structure NullFree (d : Disk) (here : Location) : Prop where
  here : ∀ n ∈ here, '\x00' ∉ n
  link : ∀ l t, d.node? l = some (.link t) → '\x00' ∉ t

theorem NullFree.follow {throughLast : Bool} {links : Nat} {names : List Text}
    (h : NullFree d here) (hnames : ∀ n ∈ names, '\x00' ∉ n)
    (hf : d.follow throughLast links here names = .ok l) : ∀ n ∈ l, '\x00' ∉ n := by
  fun_induction Disk.follow d throughLast links here names with
  | case1 links here =>
    obtain rfl := Except.ok.inj hf
    exact h.here
  | case2 links here ns ih =>
    rw [List.forall_mem_cons] at hnames
    exact ih ⟨fun n hn => h.here n (List.dropLast_subset _ hn), h.link⟩ hnames.2 hf
  | case3 | case5 | case7 | case10 => cases hf
  | case4 links here n ns | case6 links here n ns | case9 links here n ns =>
    obtain rfl := Except.ok.inj hf
    rw [List.forall_mem_append, List.forall_mem_singleton]
    exact ⟨h.here, hnames n List.mem_cons_self⟩
  | case8 links here n ns hdots hlong mode hdir ih =>
    rw [List.forall_mem_cons] at hnames
    refine ih ⟨?_, h.link⟩ hnames.2 hf
    rw [List.forall_mem_append, List.forall_mem_singleton]
    exact ⟨h.here, hnames.1⟩
  | case11 here n ns hdots hlong target hlink hlast links p ih =>
    rw [List.forall_mem_cons] at hnames
    refine ih ⟨?_, h.link⟩ ?_ hf
    · split
      · simp
      · exact h.here
    · rw [List.forall_mem_append]
      exact ⟨fun n hn hc => h.link _ _ hlink (subset_of_mem_names_ofText hn hc), hnames.2⟩

theorem nullFree_of_unusable? {t : Text} (h : unusable? t = none) : '\x00' ∉ t := by
  intro hnull
  rw [unusable?, if_pos (by simpa using hnull)] at h
  cases h

/-- **A place that is found** has no null character in its path. -/
theorem NullFree.locate (h : NullFree d here) {throughLast : Bool}
    (hl : d.locate here p throughLast = .ok l) : '\x00' ∉ (pathOf l).text := by
  obtain ⟨usable, hf⟩ := locate_eq_ok_iff.1 hl
  have hnames : ∀ n ∈ p.names, '\x00' ∉ n := fun n hn hc =>
    nullFree_of_unusable? usable (subset_text_of_mem_names hn hc)
  have hplace : ∀ n ∈ l, '\x00' ∉ n := by
    split at hf
    · exact NullFree.follow ⟨by simp, h.link⟩ hnames hf
    · exact h.follow hnames hf
  by_cases hl : l = []
  · subst hl
    decide
  · rw [text_pathOf hl, List.mem_flatMap]
    rintro ⟨n, hn, hc⟩
    exact hplace n hn (by simpa using hc)

/-! ### Places that were found -/

/-- A place that was found, and where something is, is found again by the path of its names, unless
that cannot be told. -/
theorem Reached.exists?_ne (found : Reached d true l) {n : Node} (hn : d.node? l = some n)
    (hnull : '\x00' ∉ (pathOf l).text) (here : Location) :
    d.exists? here (pathOf l) ≠ .ok false := by
  intro hexists
  have hmissing := isMissing_of_exists? hexists
  cases husable : unusable? (pathOf l).text with
  | none =>
    have hsettled : Settled d l := ⟨found.above, found.proper, husable⟩
    exact hmissing (l, n) (hsettled.stat hn fun t ht => found.not_link rfl t (ht ▸ hn))
  | some r =>
    have hstat : d.stat here (pathOf l) = .error ⟨r, (pathOf l).text, none⟩ := by
      rw [stat, locate, husable]
      rfl
    have hlong : r = .nameTooLong := by
      rw [unusable?, if_neg (by simpa using hnull)] at husable
      split at husable
      · exact (Option.some.inj husable).symm
      · cases husable
    rw [exists?, holds, hstat, hlong] at hexists
    cases hexists

/-- The names of a place lead there unless the last one is too long. -/
theorem IsOpen.follow_cases (above : IsOpen d l.dropLast) (hdots : ∀ n ∈ l.getLast?, n ≠ ['.', '.'])
    (hlink : ∀ t, d.node? l ≠ some (.link t)) (links : Nat) :
    d.follow true links [] l = .ok l ∨ d.follow true links [] l = .error .nameTooLong := by
  by_cases hshort : ∀ n ∈ l.getLast?, (Utf8.encode n).length ≤ maxNameBytes
  · exact .inl (above.follow_names (fun n hn => ⟨hdots n hn, hshort n hn⟩) links fun _ => hlink)
  · simp only [not_forall, Nat.not_le] at hshort
    obtain ⟨n, hn, hlong⟩ := hshort
    obtain ⟨k, rfl⟩ := List.getLast?_eq_some_iff.1 hn
    rw [List.dropLast_concat] at above
    rw [above.follow_append, Disk.follow, if_neg (hdots n hn), if_pos hlong]
    exact .inr rfl

/-- A file that is to be made is not found only if a link is in its place. -/
theorem exists_link_of_touch (above : IsOpen d l.dropLast) (hdots : ∀ n ∈ l.getLast?, n ≠ ['.', '.'])
    {f : AccessFault} (h : d.touch here (pathOf l) = .error f) (hf : f.refusal = .notFound) :
    ∃ t, d.node? l = some (.link t) := by
  by_contra hlink
  rw [not_exists] at hlink
  rw [touch, locate] at h
  cases husable : unusable? (pathOf l).text with
  | some r =>
    rw [husable] at h
    obtain rfl := Except.error.inj h
    obtain rfl : r = .notFound := hf
    unfold unusable? at husable
    split at husable
    · cases husable
    · split at husable <;> cases husable
  | none =>
    rw [husable] at h
    have hroot : (pathOf l).isAbsolute = true := rfl
    have hnames : (pathOf l).names = l := rfl
    simp only [hroot, if_true, hnames] at h
    rcases above.follow_cases hdots hlink maxLinks with hl | hl
    · rw [hl, Except.mapError_ok, Except.ok_bind] at h
      cases hn : d.node? l with
      | none => rw [hn] at h; cases h
      | some n =>
        rw [hn] at h
        cases n with
        | file bs m => cases h
        | directory m => cases h; cases hf
        | link t => exact hlink t hn
    · rw [hl] at h
      cases h
      cases hf

end Disk

end CommandManual
