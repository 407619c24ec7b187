import CommandManual.Proofs.Disk.Changes

/-!
# What no change of a disk takes away

Nothing that is done to a disk removes a directory, and no serial number is given to two files. So a
path that leads through directories only leads to the same place ever after, and a file that is made
is told from all files before it.

The one operation that might remove a directory is renaming. What is renamed is a draft, which is a
file: its path still leads to the place where it was made, because writing a file and setting
permission bits leave every way on the disk as it was.

## Main definitions

* `Disk.Grows`: directories stay, and serial numbers are not given twice.
* `Disk.Written`: what is in the places of a disk is the same, but for new files and what is in
  files.

## Main results

* `Disk.grows_write`, `Disk.grows_makeDirectories` and the like: the changes of a disk.
* `Disk.Written.follow`: writing files leaves the way to a place alone.
* `Disk.grows_attempt_draft`: a draft that is filled and moved.
-/

namespace CommandManual

namespace Disk

variable {d e : Disk} {l here : Location} {p q : Path}

/-- Directories stay, and serial numbers are not given twice. -/
structure Grows (d e : Disk) : Prop where
  directories : KeepsDirectories d e
  nextSerial : d.nextSerial ≤ e.nextSerial

theorem Grows.refl (d : Disk) : Grows d d := ⟨fun _ m hm => ⟨m, hm⟩, Nat.le_refl _⟩

theorem Grows.trans {f : Disk} (h : Grows d e) (h' : Grows e f) : Grows d f where
  directories := by
    intro l m hm
    obtain ⟨m', hm'⟩ := h.directories l m hm
    exact h'.directories l m' hm'
  nextSerial := Nat.le_trans h.nextSerial h'.nextSerial

/-! ### Changes of one place -/

theorem nextSerial_le_put (d : Disk) (l : Location) (n : Node) :
    d.nextSerial ≤ (d.put l n).nextSerial := by
  rw [put]
  split
  · exact Nat.le_refl _
  · exact Nat.le_succ _

theorem grows_put {n : Node} (h : ∀ m, d.node? l = some (.directory m) → n.isDirectory = true) :
    Grows d (d.put l n) := by
  refine ⟨fun k m hm => ?_, nextSerial_le_put d l n⟩
  by_cases hroot : k = []
  · exact ⟨_, hroot ▸ node?_root _⟩
  by_cases hk : k = l
  · subst hk
    have hn := h m hm
    rw [node?_put_self n hroot]
    cases n with
    | directory m' => exact ⟨m', rfl⟩
    | file bs m' => cases hn
    | link t => cases hn
  · exact ⟨m, (node?_congr (slot?_put_of_ne n hk)).trans hm⟩

/-- What is put into a place without a directory takes none away. -/
theorem grows_put_of_ne (n : Node) (h : ∀ m, d.node? l ≠ some (.directory m)) :
    Grows d (d.put l n) := grows_put fun m hm => absurd hm (h m)

theorem grows_erase (h : ∀ m, d.node? l ≠ some (.directory m)) : Grows d (d.erase l) where
  directories := keepsDirectories_of_ne h fun k hk => by rw [slot?_erase, if_neg hk]
  nextSerial := Nat.le_refl _

theorem grows_relocate {k : Location} {s : Slot} (hs : d.slot? k = some s)
    (hk : ∀ m, d.node? k ≠ some (.directory m)) (hl : ∀ m, d.node? l ≠ some (.directory m)) :
    Grows d (d.relocate s l) := by
  have hplace : s.place = k := by simpa using List.find?_some hs
  refine ⟨fun j m hm => ⟨m, ?_⟩, Nat.le_refl _⟩
  have hjl : j ≠ l := by
    rintro rfl
    exact hl m hm
  have hjk : j ≠ s.place := by
    rw [hplace]
    rintro rfl
    exact hk m hm
  refine (node?_congr ?_).trans hm
  rw [slot?_relocate, if_neg hjl, if_neg hjk]

/-! ### The operations -/

theorem grows_create {n : Node} (h : d.create here p n = .ok e) : Grows d e := by
  obtain ⟨l, -, hnone, rfl⟩ := create_spec h
  exact grows_put_of_ne n (by simp [hnone])

theorem grows_touch (h : d.touch here p = .ok (e, l)) : Grows d e := by
  obtain ⟨-, ⟨hnone, rfl⟩ | ⟨-, rfl⟩⟩ := touch_spec h
  · exact grows_put_of_ne _ (by simp [hnone])
  · exact .refl _

/-- What is written is a file, in the place of a file or in an empty one. -/
theorem write_spec {bytes : List UInt8} (h : d.write here p bytes = .ok e) :
    ∃ l m, (d.node? l = none ∨ ∃ bs, d.node? l = some (.file bs m)) ∧
      e = d.put l (.file bytes m) := by
  obtain ⟨l, -, h⟩ := Except.bind_eq_ok_iff.1 h
  cases hn : d.node? l with
  | none =>
    rw [hn] at h
    exact ⟨l, Node.fileMode, .inl hn, (Except.ok.inj h).symm⟩
  | some n =>
    rw [hn] at h
    cases n with
    | file bs m => exact ⟨l, m, .inr ⟨bs, hn⟩, (Except.ok.inj h).symm⟩
    | directory m => cases h
    | link t => cases h

theorem grows_write {bytes : List UInt8} (h : d.write here p bytes = .ok e) : Grows d e := by
  obtain ⟨l, m, hn, rfl⟩ := write_spec h
  refine grows_put_of_ne _ fun m' hm' => ?_
  rcases hn with hn | ⟨bs, hn⟩ <;> rw [hn] at hm' <;> cases hm'

theorem setMode_spec {mode : Nat} (h : d.setMode here p mode = .ok e) :
    ∃ l n, d.node? l = some n ∧ e = d.put l (n.withMode mode) := by
  obtain ⟨⟨l, n⟩, hstat, h⟩ := Except.bind_eq_ok_iff.1 h
  exact ⟨l, n, (stat_eq_ok_iff.1 hstat).2, (Except.ok.inj h).symm⟩

theorem grows_setMode {mode : Nat} (h : d.setMode here p mode = .ok e) : Grows d e := by
  obtain ⟨l, n, hn, rfl⟩ := setMode_spec h
  refine grows_put fun m hm => ?_
  rw [hn] at hm
  obtain rfl := Option.some.inj hm
  rfl

/-- What is removed is a file or a link. -/
theorem delete_spec (h : d.delete here p = .ok e) : ∃ l, d.locate here p false = .ok l ∧
    (∀ m, d.node? l ≠ some (.directory m)) ∧ e = d.erase l := by
  obtain ⟨l, hl, h⟩ := Except.bind_eq_ok_iff.1 h
  refine ⟨l, hl, ?_⟩
  cases hn : d.node? l with
  | none => rw [hn] at h; cases h
  | some n =>
    rw [hn] at h
    cases n with
    | file bs m => exact ⟨by simp, (Except.ok.inj h).symm⟩
    | directory m => cases h
    | link t => exact ⟨by simp, (Except.ok.inj h).symm⟩

theorem grows_delete (h : d.delete here p = .ok e) : Grows d e := by
  obtain ⟨l, -, hd, rfl⟩ := delete_spec h
  exact grows_erase hd

theorem grows_link {target : Text} (h : d.link here p target = .ok e) : Grows d e := by
  rw [link] at h
  split at h
  · cases h
  · split at h
    · cases h
    · split at h
      · cases h
      · cases hc : d.create here p (.link target) with
        | error f => rw [hc] at h; cases h
        | ok e' =>
          rw [hc] at h
          exact Except.ok.inj h ▸ grows_create hc

theorem grows_ensureDirectory (h : d.ensureDirectory here p = .ok e) : Grows d e := by
  rw [ensureDirectory] at h
  split at h
  · next e' he =>
    obtain rfl := Except.ok.inj h
    exact grows_create he
  · split at h
    · exact Except.ok.inj h ▸ .refl d
    · cases h

/-- Directories are made from the outside, by recursion on the path. -/
theorem grows_makeDirectories (d : Disk) (here : Location) (p : Path) :
    Grows d (d.makeDirectories here p).2 := by
  fun_induction makeDirectories d here p with
  | case1 p e he => exact grows_ensureDirectory he
  | case2 p f hf hmissing g e hout ih =>
    rw [hout] at ih
    exact ih
  | case3 p f hf hmissing e hout e' he' ih =>
    rw [hout] at ih
    exact ih.trans (grows_ensureDirectory he')
  | case4 p f hf hmissing e hout g hg ih =>
    rw [hout] at ih
    exact ih
  | case5 p f hf hmissing => exact .refl d

theorem grows_makeDirectoryBelow (d : Disk) (here : Location) (p : Path) :
    Grows d (d.makeDirectoryBelow here p).2 := by
  rw [makeDirectoryBelow]
  have hbelow := grows_makeDirectories d here p.parent
  split
  · next e he => exact grows_create he
  · split
    · split
      · next g e he => rw [he] at hbelow; exact hbelow
      · next e he =>
        rw [he] at hbelow
        split
        · next e' he' => exact hbelow.trans (grows_create he')
        · exact hbelow
    · exact .refl d

/-! ### Writing files -/

/-- What is in a place, before and after files are written: the same kind of thing, but that an
empty place may have a file. -/
def WrittenNode : Option Node → Option Node → Prop
  | none, none | none, some (.file ..) | some (.file ..), some (.file ..) => True
  | some (.directory _), some (.directory _) => True
  | some (.link t), some (.link t') => t = t'
  | _, _ => False

/-- The places of a disk have the same kinds of things, but that empty ones may have files. -/
def Written (d e : Disk) : Prop := ∀ l, WrittenNode (d.node? l) (e.node? l)

namespace WrittenNode

variable {n n' : Option Node} (h : WrittenNode n n')

include h

theorem file {bs : List UInt8} {m : Nat} (hn : n = some (.file bs m)) :
    ∃ bs' m', n' = some (.file bs' m') := by
  subst hn
  rcases n' with _ | (_ | _ | _)
  · exact h.elim
  · exact ⟨_, _, rfl⟩
  · exact h.elim
  · exact h.elim

theorem directory {m : Nat} (hn : n = some (.directory m)) : ∃ m', n' = some (.directory m') := by
  subst hn
  rcases n' with _ | (_ | _ | _)
  · exact h.elim
  · exact h.elim
  · exact ⟨_, rfl⟩
  · exact h.elim

theorem link {t : Text} (hn : n = some (.link t)) : n' = some (.link t) := by
  subst hn
  rcases n' with _ | (_ | _ | _)
  · exact h.elim
  · exact h.elim
  · exact h.elim
  · exact congrArg (some ∘ Node.link) (Eq.symm h)

end WrittenNode

theorem writtenNode_refl (n : Option Node) : WrittenNode n n := by
  cases n with
  | none => trivial
  | some n => cases n <;> simp [WrittenNode]

theorem writtenNode_trans {n n' n'' : Option Node} (h : WrittenNode n n')
    (h' : WrittenNode n' n'') : WrittenNode n n'' := by
  rcases n with _ | (_ | _ | _) <;> rcases n' with _ | (_ | _ | _) <;>
    rcases n'' with _ | (_ | _ | _) <;> simp_all [WrittenNode]

theorem Written.trans {f : Disk} (h : Written d e) (h' : Written e f) : Written d f := fun l =>
  writtenNode_trans (h l) (h' l)

theorem written_put {n : Node} (h : WrittenNode (d.node? l) (some n)) : Written d (d.put l n) := by
  intro k
  by_cases hk : k = l
  · subst hk
    by_cases hroot : k = []
    · rw [hroot]
      exact writtenNode_refl _
    · rw [node?_put_self n hroot]
      exact h
  · rw [node?_congr (slot?_put_of_ne n hk)]
    exact writtenNode_refl _

theorem written_write {bytes : List UInt8} (h : d.write here p bytes = .ok e) : Written d e := by
  obtain ⟨l, m, hn, rfl⟩ := write_spec h
  refine written_put ?_
  rcases hn with hn | ⟨bs, hn⟩ <;> rw [hn] <;> trivial

theorem written_setMode {mode : Nat} (h : d.setMode here p mode = .ok e) : Written d e := by
  obtain ⟨l, n, hn, rfl⟩ := setMode_spec h
  refine written_put ?_
  rw [hn]
  cases n <;> simp [Node.withMode, WrittenNode]

/-- **Writing files leaves the way to a place alone.** A place that is reached was not passed
through before it was reached, so that a file in it is in nobody's way. -/
theorem Written.follow (h : Written d e) {throughLast : Bool} {links : Nat} {names : List Text}
    (hf : d.follow throughLast links here names = .ok l) :
    e.follow throughLast links here names = .ok l := by
  fun_induction Disk.follow d throughLast links here names with
  | case1 links here => exact (follow_nil throughLast links).trans hf
  | case2 links here ns ih => rw [Disk.follow, if_pos rfl, ih hf]
  | case3 => cases hf
  | case4 links here n ns hdots hlong hnone hlast =>
    have hn : WrittenNode none (e.node? (here ++ [n])) := hnone ▸ h _
    rw [follow_cons throughLast links ⟨hdots, Nat.le_of_not_lt hlong⟩]
    cases he : e.node? (here ++ [n]) with
    | none => exact (if_pos hlast).trans hf
    | some node =>
      rw [he] at hn
      cases node with
      | file bs m => exact (if_pos hlast).trans hf
      | directory m => exact hn.elim
      | link t => exact hn.elim
  | case5 => cases hf
  | case6 links here n ns hdots hlong bytes mode hfile hlast =>
    obtain ⟨bs, m, he⟩ := (h _).file hfile
    rw [follow_cons throughLast links ⟨hdots, Nat.le_of_not_lt hlong⟩, he]
    exact (if_pos hlast).trans hf
  | case7 => cases hf
  | case8 links here n ns hdots hlong mode hdir ih =>
    obtain ⟨m, he⟩ := (h _).directory hdir
    rw [follow_cons throughLast links ⟨hdots, Nat.le_of_not_lt hlong⟩, he]
    exact ih hf
  | case9 links here n ns hdots hlong target hlink hlast =>
    rw [follow_cons throughLast links ⟨hdots, Nat.le_of_not_lt hlong⟩, (h _).link hlink]
    exact (if_pos hlast).trans hf
  | case10 => cases hf
  | case11 here n ns hdots hlong target hlink hlast links p ih =>
    rw [follow_cons throughLast (links + 1) ⟨hdots, Nat.le_of_not_lt hlong⟩, (h _).link hlink]
    exact (if_neg hlast).trans (ih hf)

theorem Written.locate (h : Written d e) {throughLast : Bool}
    (hl : d.locate here p throughLast = .ok l) : e.locate here p throughLast = .ok l := by
  obtain ⟨husable, hf⟩ := locate_eq_ok_iff.1 hl
  exact locate_eq_ok_iff.2 ⟨husable, h.follow hf⟩

/-! ### Drafts -/

/-- What is moved is in the place that its path leads to, and it takes no directory's place. -/
theorem rename_spec (h : d.rename here p q = .ok e) : ∃ k l s, d.locate here p false = .ok k ∧
    d.slot? k = some s ∧ (∀ m, d.node? l ≠ some (.directory m)) ∧ e = d.relocate s l := by
  obtain ⟨k, hk, h⟩ := Except.bind_eq_ok_iff.1 h
  obtain ⟨l, -, h⟩ := Except.bind_eq_ok_iff.1 h
  refine ⟨k, l, ?_⟩
  cases hs : d.slot? k with
  | none => rw [hs] at h; cases h
  | some s =>
    rw [hs] at h
    refine ⟨s, hk, rfl, ?_⟩
    cases hn : d.node? l with
    | none => rw [hn] at h; exact ⟨by simp, (Except.ok.inj h).symm⟩
    | some n =>
      rw [hn] at h
      cases n with
      | file bs m => exact ⟨by simp, (Except.ok.inj h).symm⟩
      | directory m => cases h
      | link t => exact ⟨by simp, (Except.ok.inj h).symm⟩

/-- Changes grow a disk if the first one does and all that follows it does. -/
theorem grows_attempt_cons {change : Disk → Except AccessFault Disk}
    {changes : List (Disk → Except AccessFault Disk)}
    (h : ∀ e, change d = .ok e → Grows d (e.attempt changes).2) :
    Grows d (d.attempt (change :: changes)).2 := by
  cases hchange : change d with
  | error f =>
    rw [attempt_cons_of_error hchange]
    exact .refl d
  | ok e =>
    rw [attempt_cons hchange]
    exact h e hchange

/-- Changes grow a disk if each of them grows every disk. -/
theorem grows_attempt {changes : List (Disk → Except AccessFault Disk)} (d : Disk)
    (h : ∀ change ∈ changes, ∀ d e, change d = .ok e → Grows d e) :
    Grows d (d.attempt changes).2 := by
  induction changes generalizing d with
  | nil => exact .refl d
  | cons change changes ih =>
    rw [List.forall_mem_cons] at h
    exact grows_attempt_cons fun e he => (h.1 d e he).trans (ih e h.2)

/-- **A draft is filled and moved**, or that is given up on the way. -/
theorem grows_attempt_draft {bs : List UInt8} {m : Nat}
    (h : d.create here q (.file bs m) = .ok e) (p : Path) (bytes : List UInt8) (mode : Nat) :
    Grows e (e.attempt [(·.write here q bytes), (·.setMode here q mode),
      (·.rename here q p)]).2 := by
  obtain ⟨j, hj, hnone, rfl⟩ := create_spec h
  have hmade : Written d (d.put j (.file bs m)) := written_put (by rw [hnone]; trivial)
  have hne : j ≠ [] := ne_nil_of_node? (d := d) fun m => by simp [hnone]
  refine grows_attempt_cons fun d₁ hwrite => (grows_write hwrite).trans ?_
  refine grows_attempt_cons fun d₂ hmode => (grows_setMode hmode).trans ?_
  refine grows_attempt_cons fun d₃ hrename => ?_
  -- The draft is still the file that was made, so that no directory is moved.
  have hwritten := (written_write hwrite).trans (written_setMode hmode)
  obtain ⟨k, l, s, hk, hs, hl, rfl⟩ := rename_spec hrename
  obtain rfl : j = k := Except.ok.inj (((hmade.trans hwritten).locate hj).symm.trans hk)
  obtain ⟨bs', m', hfile⟩ := (hwritten j).file (node?_put_self _ hne)
  exact grows_relocate hs (by simp [hfile]) hl

end Disk

end CommandManual
