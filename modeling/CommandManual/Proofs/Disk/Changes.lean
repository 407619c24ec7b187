import CommandManual.Proofs.Disk.Follow

/-!
# Changes of one place

Each operation that changes a disk follows a path to a place and changes what is there. The lemmas
here name that place and the change. Where the place is settled the operation succeeds, and every
other place keeps its slot: the node with its serial number.

## Main results

* `Disk.create_spec`, `Disk.touch_spec`, `Disk.stat_eq_ok_iff`: what an operation that succeeded
  has found.
* `Disk.Settled.stat`, `Disk.Settled.write`, `Disk.Settled.setMode`, `Disk.Settled.rename`,
  `Disk.Settled.delete`: the operations at a settled place.
-/

namespace CommandManual

namespace Disk

open Workspace (pathOf)

variable {d e : Disk} {l k here : Location}

/-! ### Slots and nodes -/

theorem node?_root (d : Disk) : d.node? [] = some (.directory Node.directoryMode) := rfl

theorem ne_nil_of_node? (h : ∀ m, d.node? l ≠ some (.directory m)) : l ≠ [] := by
  rintro rfl
  exact h _ d.node?_root

theorem node?_congr (h : e.slot? l = d.slot? l) : e.node? l = d.node? l := by
  rw [node?, node?, h]

theorem slot?_eq_none_of_node? (h : d.node? l = none) : d.slot? l = none := by
  have hl : l ≠ [] := ne_nil_of_node? (d := d) fun m => by simp [h]
  rw [node?, if_neg hl] at h
  exact Option.map_eq_none_iff.1 h

theorem slot?_of_node? {n : Node} (hl : l ≠ []) (h : d.node? l = some n) :
    ∃ s, d.slot? l = some s ∧ s.node = n ∧ s.place = l := by
  rw [node?, if_neg hl] at h
  obtain ⟨s, hs, hn⟩ := Option.map_eq_some_iff.1 h
  refine ⟨s, hs, hn, ?_⟩
  simpa using List.find?_some hs

theorem slot?_put_of_ne (n : Node) (h : k ≠ l) : (d.put l n).slot? k = d.slot? k := by
  unfold put
  split
  · have h' : ¬ l = k := fun e => h e.symm
    have hf := d.slot?_erase l k
    rw [if_neg h] at hf
    simpa [slot?, erase, h'] using hf
  · rw [slot?_renew, if_neg h]

theorem node?_put_self (n : Node) (hl : l ≠ []) : (d.put l n).node? l = some n := by
  rw [d.node?_put n hl, if_pos rfl]

/-- What is put into an empty place is new. -/
theorem put_eq_renew (n : Node) (h : d.node? l = none) : d.put l n = d.renew l n := by
  rw [put, serial?, slot?_eq_none_of_node? h]
  rfl

/-- A change of a place that is no directory leaves the directories alone. -/
theorem keepsDirectories_of_ne (hd : ∀ m, d.node? l ≠ some (.directory m))
    (h : ∀ k, k ≠ l → e.slot? k = d.slot? k) : KeepsDirectories d e := by
  refine keepsDirectories_of_forall fun k hk => ?_
  by_cases he : k = l
  · exact he ▸ hd
  · exact absurd (node?_congr (h k he)) hk

/-! ### What an operation has found -/

theorem stat_eq_ok_iff {p : Path} {n : Node} :
    d.stat here p = .ok (l, n) ↔ d.locate here p = .ok l ∧ d.node? l = some n := by
  rw [stat, Except.bind_eq_ok_iff]
  constructor
  · rintro ⟨k, hk, h⟩
    cases hn : d.node? k with
    | none =>
      rw [hn] at h
      cases h
    | some n' =>
      rw [hn] at h
      cases h
      exact ⟨hk, hn⟩
  · rintro ⟨hl, hn⟩
    refine ⟨l, hl, ?_⟩
    rw [hn]
    rfl

/-- What is made is made in an empty place. -/
theorem create_spec {p : Path} {n : Node} (h : d.create here p n = .ok e) :
    ∃ l, d.locate here p false = .ok l ∧ d.node? l = none ∧ e = d.put l n := by
  obtain ⟨l, hl, h⟩ := Except.bind_eq_ok_iff.1 h
  refine ⟨l, hl, ?_⟩
  cases hn : d.node? l with
  | none =>
    rw [hn] at h
    exact ⟨rfl, (Except.ok.inj h).symm⟩
  | some n' =>
    rw [hn] at h
    cases h

/-- A file that is opened is there, or it is made in an empty place. -/
theorem touch_spec {p : Path} (h : d.touch here p = .ok (e, l)) :
    d.locate here p = .ok l ∧
      (d.node? l = none ∧ e = d.put l (.file [] Node.fileMode) ∨
        (∃ bs m, d.node? l = some (.file bs m)) ∧ e = d) := by
  obtain ⟨k, hk, h⟩ := Except.bind_eq_ok_iff.1 h
  cases hn : d.node? k with
  | none =>
    rw [hn] at h
    cases h
    exact ⟨hk, .inl ⟨hn, rfl⟩⟩
  | some n =>
    rw [hn] at h
    cases n with
    | file bs m =>
      cases h
      exact ⟨hk, .inr ⟨⟨bs, m, hn⟩, rfl⟩⟩
    | directory m => cases h
    | link t => cases h

theorem attempt_cons {change : Disk → Except AccessFault Disk} (h : change d = .ok e)
    (changes : List (Disk → Except AccessFault Disk)) :
    d.attempt (change :: changes) = e.attempt changes := by
  rw [attempt, h]

theorem attempt_cons_of_error {change : Disk → Except AccessFault Disk} {f : AccessFault}
    (h : change d = .error f) (changes : List (Disk → Except AccessFault Disk)) :
    d.attempt (change :: changes) = (some f, d) := by
  rw [attempt, h]

/-! ### Operations at a settled place -/

namespace Settled

theorem stat (h : Settled d l) {n : Node} (hn : d.node? l = some n)
    (hlink : ∀ t, n ≠ .link t) : d.stat here (pathOf l) = .ok (l, n) := by
  refine stat_eq_ok_iff.2 ⟨h.locate here fun _ t ht => ?_, hn⟩
  rw [hn, Option.some.injEq] at ht
  exact hlink t ht

theorem write (h : Settled d l) {bs : List UInt8} {m : Nat} (hn : d.node? l = some (.file bs m))
    (bytes : List UInt8) :
    d.write here (pathOf l) bytes = .ok (d.put l (.file bytes m)) := by
  refine Except.bind_eq_ok_iff.2 ⟨l, h.locate here fun _ t => by simp [hn], ?_⟩
  rw [hn]
  rfl

theorem setMode (h : Settled d l) {bs : List UInt8} {m : Nat}
    (hn : d.node? l = some (.file bs m)) (mode : Nat) :
    d.setMode here (pathOf l) mode = .ok (d.put l (.file bs mode)) :=
  Except.bind_eq_ok_iff.2 ⟨(l, .file bs m), h.stat hn fun _ => Node.noConfusion, rfl⟩

theorem rename {j : Location} (hj : Settled d j) (hl : Settled d l) {s : Slot}
    (hs : d.slot? j = some s) (hd : ∀ m, d.node? l ≠ some (.directory m)) :
    d.rename here (pathOf j) (pathOf l) = .ok (d.relocate s l) := by
  refine Except.bind_eq_ok_iff.2 ⟨j, hj.locate here Bool.noConfusion, ?_⟩
  refine Except.bind_eq_ok_iff.2 ⟨l, hl.locate here Bool.noConfusion, ?_⟩
  rw [hs]
  cases hn : d.node? l with
  | none => rfl
  | some n =>
    cases n with
    | file bs m => rfl
    | directory m => exact absurd hn (hd m)
    | link t => rfl

theorem delete (h : Settled d l) {bs : List UInt8} {m : Nat}
    (hn : d.node? l = some (.file bs m)) :
    d.delete here (pathOf l) = .ok (d.erase l) := by
  refine Except.bind_eq_ok_iff.2 ⟨l, h.locate here Bool.noConfusion, ?_⟩
  rw [hn]
  rfl

end Settled

end Disk

end CommandManual
