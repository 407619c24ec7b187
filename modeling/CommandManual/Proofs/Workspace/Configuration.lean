import CommandManual.CommandLine.Ending
import CommandManual.Proofs.Outcome
import CommandManual.Proofs.Toml.Kinds

/-!
# Which configurations are reported

What is loaded is valid, and most of what can be wrong is reported as a fault of the configuration.
The rest is odd: bytes that are no text, numbers that are too long, values that stand too deep in
each other, and values where a table should be that do not even have keys. This is said of a value,
then of the bytes of a file, then of a directory, each time as the exact condition for a fault that
is not reported.

## Main definitions

* `ConfigFault.IsReported`: the faults that are reported.
* `Config.IsOdd`, `Config.IsOddFile`, `Workspace.HasOddConfig`: what is neither loaded nor reported.

## Main results

* `Config.valid_of_ofValue`: what is read is valid.
* `Config.isOdd_iff`: the odd values.
* `Workspace.isOddFile_iff`: the odd files.
* `Workspace.loadConfig_valid_or_reported_iff`: a directory that is not odd gives a valid
  configuration or a fault that is reported, and no other does.
-/

namespace CommandManual

/-- The command line reports the fault in its own words. -/
def ConfigFault.IsReported (f : ConfigFault) : Prop :=
  CommandLine.configComplaint f = .plain f.message

namespace Config

open Except (FailsWith failsWith_bind_iff failsWith_mapError_iff)

variable {es : List (Value × Value)} {v : Value}

/-! ### What is read is valid -/

theorem one_le_of_readSection {n : Int} (h : readSection es = .ok n) : 1 ≤ n := by
  rw [readSection] at h
  split at h
  · cases h
    decide
  · split at h
    · next hn => exact Except.ok.inj h ▸ hn
    · cases h
  · cases h

theorem hasInk_of_readTag {key : String} {usual t : Text} (husual : usual.hasInk = true)
    (h : readTag key usual es = .ok t) : t.hasInk = true := by
  rw [readTag] at h
  split at h
  · exact Except.ok.inj h ▸ husual
  · split at h
    · next hink => exact Except.ok.inj h ▸ hink
    · cases h
  · cases h

theorem valid_of_ofEntries {c : Config} (h : ofEntries es = .ok c) : c.Valid := by
  obtain ⟨calledAs, -, h⟩ := Except.bind_eq_ok_iff.1 h
  obtain ⟨n, hn, h⟩ := Except.bind_eq_ok_iff.1 h
  obtain ⟨opening, hopening, h⟩ := Except.bind_eq_ok_iff.1 h
  obtain ⟨closing, hclosing, h⟩ := Except.bind_eq_ok_iff.1 h
  split at h
  · cases h
  · next hne =>
    obtain ⟨annotate, -, h⟩ := Except.bind_eq_ok_iff.1 h
    cases h
    exact ⟨one_le_of_readSection hn, hasInk_of_readTag (by decide) hopening,
      hasInk_of_readTag (by decide) hclosing, hne⟩

/-- What is read is valid. -/
theorem valid_of_ofValue {c : Config} (h : ofValue v = .ok c) : c.Valid := by
  unfold ofValue at h
  simp only [Except.bind_eq_ok_iff] at h
  obtain ⟨_, -, _, -, h⟩ := h
  split at h
  · exact valid_of_ofEntries h
  · cases h

/-! ### Faults that are not reported -/

/-- The fault of a value that the command line does not report in its own words. -/
def Fault.IsUnreported (f : Fault) : Prop := ¬ (ConfigFault.content f).IsReported

theorem Fault.isUnreported_iff (f : Fault) :
    f.IsUnreported ↔ f = .noKeys ∨ f = .notMapping ∨ f = .digits := by
  cases f with
  | noKeys | notMapping | digits => exact iff_of_true (fun h => by cases h) (by simp)
  | _ => exact iff_of_false (fun h => h rfl) (by simp)

/-! ### Keys -/

theorem isKnown_eq_false_of_text? {k : Value} (h : k.text? = none) : isKnown k = false := by
  rw [isKnown, h]
  rfl

/-- A key that is no text is not known, and unknown keys that are not texts cannot be listed. -/
theorem checkKeys_of_text?_eq_none {ks : List Value} (h : ∃ k ∈ ks, k.text? = none) :
    checkKeys ks = .error .noKeys := by
  obtain ⟨k, hk, hnone⟩ := h
  have hunknown : k ∈ ks.filter (!isKnown ·) :=
    List.mem_filter.2 ⟨hk, by rw [isKnown_eq_false_of_text? hnone]; rfl⟩
  have hlist : (ks.filter (!isKnown ·)).mapM Value.text? = none := by
    refine Option.not_isSome_iff_eq_none.1 fun hsome => ?_
    have hk := Option.isSome_mapM_iff.1 hsome k hunknown
    rw [hnone] at hk
    cases hk
  rw [checkKeys, hlist]

theorem checkKeys_of_known {ks : List Value} (h : ∀ k ∈ ks, isKnown k) :
    checkKeys ks = .ok () := by
  have hnil : ks.filter (!isKnown ·) = [] :=
    List.filter_eq_nil_iff.2 fun k hk => by simp [h k hk]
  rw [checkKeys, hnil]
  rfl

/-- Texts as keys are reported if one of them is unknown. -/
theorem exists_checkKeys_eq_unknownKeys {ks : List Value} (htexts : ∀ k ∈ ks, k.text?.isSome)
    (h : ¬ ∀ k ∈ ks, isKnown k) : ∃ unknown, checkKeys ks = .error (.unknownKeys unknown) := by
  cases hunknown : ks.filter (!isKnown ·) with
  | nil =>
    refine absurd (fun k hk => ?_) h
    simpa using List.filter_eq_nil_iff.1 hunknown k hk
  | cons k ks' =>
    have hsub : ∀ k' ∈ k :: ks', k'.text?.isSome := fun k' hk' =>
      htexts k' (List.mem_of_mem_filter (hunknown ▸ hk'))
    obtain ⟨t, ht⟩ := Option.isSome_iff_exists.1 (hsub k List.mem_cons_self)
    obtain ⟨ts, hts⟩ := Option.isSome_iff_exists.1 (Option.isSome_mapM_iff.2 fun k' hk' =>
      hsub k' (List.mem_cons_of_mem k hk'))
    rw [checkKeys, hunknown, List.mapM_cons, ht, hts]
    exact ⟨_, rfl⟩

/-- What cannot be a key is no text. -/
theorem areKeys_of_texts {vs : List Value} (h : ∀ v ∈ vs, v.text?.isSome) :
    Value.areKeys vs = true := by
  induction vs with
  | nil => rfl
  | cons v vs ih =>
    obtain ⟨hv, hvs⟩ := List.forall_mem_cons.1 h
    cases v with
    | text t => simp [Value.areKeys, Value.isKey, ih hvs]
    | _ => cases hv

/-- Behind the check of the keys: some cannot be listed, or all are known and the next step counts.
-/
theorem failsWith_checkKeys_bind_iff {α : Type} {ks : List Value} {next : Unit → Except Fault α} :
    FailsWith Fault.IsUnreported (checkKeys ks >>= next) ↔
      (∃ k ∈ ks, k.text? = none) ∨
        (∀ k ∈ ks, isKnown k) ∧ FailsWith Fault.IsUnreported (next ()) := by
  by_cases hstray : ∃ k ∈ ks, k.text? = none
  · rw [checkKeys_of_text?_eq_none hstray, Except.error_bind, Except.failsWith_error_iff,
      Fault.isUnreported_iff]
    exact iff_of_true (.inl rfl) (.inl hstray)
  · have htexts : ∀ k ∈ ks, k.text?.isSome := fun k hk =>
      Option.isSome_iff_ne_none.2 fun hnone => hstray ⟨k, hk, hnone⟩
    by_cases hknown : ∀ k ∈ ks, isKnown k
    · rw [checkKeys_of_known hknown, Except.ok_bind]
      exact ⟨fun h => .inr ⟨hknown, h⟩, fun h => (h.resolve_left hstray).2⟩
    · obtain ⟨unknown, hunknown⟩ := exists_checkKeys_eq_unknownKeys htexts hknown
      rw [hunknown, Except.error_bind, Except.failsWith_error_iff]
      exact iff_of_false (fun h => h rfl) fun h => hknown (h.resolve_left hstray).1

/-! ### Settings -/

section Settings

theorem exists_readCalledAs_eq_ok_iff : (∃ t, readCalledAs es = .ok t) ↔
    ∀ v, Value.lookup (.text "app_path".toList) es = some v → v.text?.isSome := by
  rw [readCalledAs]
  cases Value.lookup (.text "app_path".toList) es with
  | none => exact iff_of_true ⟨_, rfl⟩ fun v hv => by cases hv
  | some v =>
    cases v with
    | text t => exact iff_of_true ⟨t, rfl⟩ fun v hv => Option.some.inj hv ▸ rfl
    | _ => exact iff_of_false (fun ⟨_, h⟩ => by cases h) fun h => by cases h _ rfl

theorem not_failsWith_readCalledAs : ¬ FailsWith Fault.IsUnreported (readCalledAs es) := by
  rintro ⟨f, hf, hunreported⟩
  rw [readCalledAs] at hf
  split at hf
  · cases hf
  · cases hf
  · cases hf
    exact hunreported rfl

theorem not_failsWith_readTag {key : String} {usual : Text} :
    ¬ FailsWith Fault.IsUnreported (readTag key usual es) := by
  rintro ⟨f, hf, hunreported⟩
  rw [readTag] at hf
  split at hf
  · cases hf
  · split at hf
    · cases hf
    · cases hf
      exact hunreported rfl
  · cases hf
    exact hunreported rfl

theorem not_failsWith_readAnnotate : ¬ FailsWith Fault.IsUnreported (readAnnotate es) := by
  rintro ⟨f, hf, hunreported⟩
  rw [readAnnotate] at hf
  split at hf
  · cases hf
  · cases hf
  · cases hf
    exact hunreported rfl

theorem failsWith_refuseSection_iff {got : Value} :
    FailsWith Fault.IsUnreported (refuseSection got) ↔ got.isWritable = false := by
  rw [refuseSection, Except.failsWith_error_iff, Fault.isUnreported_iff]
  cases got.isWritable with
  | true => simp
  | false => simp

theorem failsWith_readSection_iff : FailsWith Fault.IsUnreported (readSection es) ↔
    ∃ got, Value.lookup (.text "section".toList) es = some got ∧
      (∀ n, got = .int n → n < 1) ∧ got.isWritable = false := by
  rw [readSection]
  cases Value.lookup (.text "section".toList) es with
  | none => exact iff_of_false (Except.not_failsWith_ok _) fun ⟨_, h, _⟩ => by cases h
  | some got =>
    have hgot : (∃ v, some got = some v ∧ (∀ n, v = .int n → n < 1) ∧ v.isWritable = false) ↔
        (∀ n, got = .int n → n < 1) ∧ got.isWritable = false := by simp
    rw [hgot]
    cases got with
    | int n =>
      by_cases hn : 1 ≤ n
      · simp only [if_pos hn]
        refine iff_of_false (Except.not_failsWith_ok _) fun ⟨h, _⟩ => ?_
        exact absurd (h n rfl) (Int.not_lt.2 hn)
      · simp only [if_neg hn, failsWith_refuseSection_iff]
        refine iff_and_self.2 fun _ m hm => ?_
        cases hm
        exact Int.not_le.1 hn
    | _ => simp [failsWith_refuseSection_iff]

/-- Only the section of manual pages can be refused without a report. -/
theorem failsWith_ofEntries_iff : FailsWith Fault.IsUnreported (ofEntries es) ↔
    (∃ t, readCalledAs es = .ok t) ∧ FailsWith Fault.IsUnreported (readSection es) := by
  constructor
  · intro h
    obtain ⟨calledAs, hcalledAs, h⟩ := (failsWith_bind_iff.1 h).resolve_left
      not_failsWith_readCalledAs
    refine ⟨⟨calledAs, hcalledAs⟩, ?_⟩
    refine (failsWith_bind_iff.1 h).resolve_right ?_
    rintro ⟨n, -, h⟩
    obtain ⟨opening, -, h⟩ := (failsWith_bind_iff.1 h).resolve_left not_failsWith_readTag
    obtain ⟨closing, -, h⟩ := (failsWith_bind_iff.1 h).resolve_left not_failsWith_readTag
    split at h
    · obtain ⟨f, hf, hunreported⟩ := h
      cases hf
      exact hunreported rfl
    · obtain ⟨annotate, -, h⟩ := (failsWith_bind_iff.1 h).resolve_left not_failsWith_readAnnotate
      exact Except.not_failsWith_ok _ h
  · rintro ⟨⟨calledAs, hcalledAs⟩, h⟩
    exact failsWith_bind_iff.2 (.inr ⟨calledAs, hcalledAs, failsWith_bind_iff.2 (.inl h)⟩)

end Settings

/-! ### Odd values -/

/-- A value of which no configuration is read and which is not reported either: it has no keys, or
keys that cannot be listed, or known keys without values; or it is a table whose section of manual
pages cannot be quoted. -/
inductive IsOdd : Value → Prop
  | bool (b : Bool) : IsOdd (.bool b)
  | int (n : Int) : IsOdd (.int n)
  | float (x : Binary64) : IsOdd (.float x)
  | moment (m : Moment) : IsOdd (.moment m)
  | noText : IsOdd (.text [])
  | list {vs : List Value} (h : (∃ v ∈ vs, v.text? = none) ∨ ∀ v ∈ vs, isKnown v) :
      IsOdd (.list vs)
  | manualSection {es : List (Value × Value)} {got : Value} (known : ∀ e ∈ es, isKnown e.1)
      (calledAs : ∀ v, Value.lookup (.text "app_path".toList) es = some v → v.text?.isSome)
      (lookup : Value.lookup (.text "section".toList) es = some got)
      (refused : ∀ n, got = .int n → n < 1) (long : got.isWritable = false) : IsOdd (.map es)

theorem Fault.isUnreported_noKeys : Fault.IsUnreported .noKeys :=
  (Fault.isUnreported_iff _).2 (.inl rfl)

theorem Fault.isUnreported_notMapping : Fault.IsUnreported .notMapping :=
  (Fault.isUnreported_iff _).2 (.inr (.inl rfl))

/-- No key is a single character, so that only the empty text has no unknown key. -/
theorem isOdd_text_iff {t : Text} :
    IsOdd (.text t) ↔ FailsWith Fault.IsUnreported (ofValue (.text t)) := by
  have hvalue : ofValue (.text t) =
      checkKeys (t.map fun c => .text [c]) >>= fun _ => .error .notMapping := rfl
  have hstray : ¬ ∃ k ∈ t.map (fun c => Value.text [c]), k.text? = none := by simp [Value.text?]
  rw [hvalue, failsWith_checkKeys_bind_iff, or_iff_right hstray, List.forall_mem_map]
  constructor
  · rintro ⟨⟩
    exact ⟨List.forall_mem_nil _, .notMapping, rfl, Fault.isUnreported_notMapping⟩
  · rintro ⟨hknown, -⟩
    obtain rfl : t = [] := List.eq_nil_iff_forall_not_mem.2 fun c hc =>
      absurd (hknown c hc) (by simp [isKnown, Value.text?, knownKeys])
    exact .noText

theorem isOdd_list_iff {vs : List Value} :
    IsOdd (.list vs) ↔ FailsWith Fault.IsUnreported (ofValue (.list vs)) := by
  have hodd : IsOdd (.list vs) ↔ (∃ v ∈ vs, v.text? = none) ∨ ∀ v ∈ vs, isKnown v :=
    ⟨fun | .list h => h, .list⟩
  rw [hodd]
  cases hareKeys : Value.areKeys vs with
  | false =>
    have hvalue : ofValue (.list vs) = .error .noKeys := by
      unfold ofValue
      simp [keys, hareKeys]
    refine iff_of_true (.inl ?_) ⟨.noKeys, hvalue, Fault.isUnreported_noKeys⟩
    by_contra! hne
    have htexts := areKeys_of_texts fun v hv => Option.isSome_iff_ne_none.2 (hne v hv)
    rw [hareKeys] at htexts
    cases htexts
  | true =>
    have hvalue : ofValue (.list vs) = checkKeys vs >>= fun _ => .error .notMapping := by
      unfold ofValue
      simp only [keys, if_pos hareKeys]
      rfl
    rw [hvalue, failsWith_checkKeys_bind_iff, Except.failsWith_error_iff,
      and_iff_left Fault.isUnreported_notMapping]

theorem isOdd_map_iff (htexts : ∀ e ∈ es, e.1.text?.isSome) :
    IsOdd (.map es) ↔ FailsWith Fault.IsUnreported (ofValue (.map es)) := by
  have hvalue : ofValue (.map es) = checkKeys (es.map (·.1)) >>= fun _ => ofEntries es := rfl
  have hstray : ¬ ∃ k ∈ es.map (·.1), k.text? = none := by
    rintro ⟨k, hk, hnone⟩
    obtain ⟨e, he, rfl⟩ := List.mem_map.1 hk
    have hsome := htexts e he
    rw [hnone] at hsome
    cases hsome
  rw [hvalue, failsWith_checkKeys_bind_iff, or_iff_right hstray, List.forall_mem_map,
    failsWith_ofEntries_iff, exists_readCalledAs_eq_ok_iff, failsWith_readSection_iff]
  constructor
  · intro h
    cases h with
    | manualSection known calledAs lookup refused long =>
      exact ⟨known, calledAs, _, lookup, refused, long⟩
  · rintro ⟨known, calledAs, got, lookup, refused, long⟩
    exact .manualSection known calledAs lookup refused long

/-- **The odd values** among those of a TOML text are the ones that are neither read nor reported.
-/
theorem isOdd_iff (h : Toml.IsPlain v) : IsOdd v ↔ FailsWith Fault.IsUnreported (ofValue v) := by
  cases h with
  | bool b => exact iff_of_true (.bool b) ⟨.noKeys, rfl, Fault.isUnreported_noKeys⟩
  | int n => exact iff_of_true (.int n) ⟨.noKeys, rfl, Fault.isUnreported_noKeys⟩
  | float x => exact iff_of_true (.float x) ⟨.noKeys, rfl, Fault.isUnreported_noKeys⟩
  | moment m => exact iff_of_true (.moment m) ⟨.noKeys, rfl, Fault.isUnreported_noKeys⟩
  | text t => exact isOdd_text_iff
  | list items => exact isOdd_list_iff
  | map htexts values => exact isOdd_map_iff htexts

/-! ### Odd files -/

/-- The value for the configuration in the table of a file of some name. -/
def settings? (name : Text) (table : Toml.Table) : Option Value :=
  if name = projectFileName then under projectKeys (.map table) else some (.map table)

/-- The bytes of a file of which no configuration is read and which is not reported either. -/
inductive IsOddFile (name : Text) (bytes : List UInt8) : Prop
  | encoding {f : Utf8.Fault} (decode : Utf8.decode bytes = .error f)
  | limit {t : Text} {f : Toml.Fault} (decode : Utf8.decode bytes = .ok t)
      (read : Toml.read t = .error f) (limit : f ≠ .malformed)
  /-- In a project's file there is something else where the tables of its tools should be. -/
  | tools {t : Text} {table : Toml.Table} {v : Value} (decode : Utf8.decode bytes = .ok t)
      (read : Toml.read t = .ok table) (project : name = projectFileName)
      (lookup : Value.lookup (.text "tool".toList) table = some v) (notMap : ∀ es, v ≠ .map es)
  | settings {t : Text} {table : Toml.Table} {v : Value} (decode : Utf8.decode bytes = .ok t)
      (read : Toml.read t = .ok table) (settings : settings? name table = some v) (odd : IsOdd v)

theorem isPlain_under {keys : List Text} {u : Value} (h : Toml.IsPlain v)
    (hu : under keys v = some u) : Toml.IsPlain u := by
  induction keys generalizing v with
  | nil => exact Option.some.inj hu ▸ h
  | cons k ks ih =>
    unfold under at hu
    split at hu
    · next heq => cases heq
    · next es heq =>
      cases heq
      refine ih ?_ hu
      cases hlookup : Value.lookup (.text k) es with
      | none => exact .empty
      | some inner => exact h.lookup hlookup
    · cases hu

theorem isPlain_settings {name : Text} {table : Toml.Table} (h : Toml.IsPlain (.map table))
    (hv : settings? name table = some v) : Toml.IsPlain v := by
  rw [settings?] at hv
  split at hv
  · exact isPlain_under h hv
  · exact Option.some.inj hv ▸ h

theorem settings?_eq_none_iff {name : Text} {table : Toml.Table} : settings? name table = none ↔
    name = projectFileName ∧
      ∃ v, Value.lookup (.text "tool".toList) table = some v ∧ ∀ es, v ≠ .map es := by
  have hunder : under projectKeys (.map table) = under ["clidoc".toList]
      ((Value.lookup (.text "tool".toList) table).getD (.map [])) := rfl
  rw [settings?]
  split
  · next hname =>
    rw [hunder, and_iff_right hname]
    cases Value.lookup (.text "tool".toList) table with
    | none => exact iff_of_false (fun h => by cases h) fun ⟨_, h, _⟩ => by cases h
    | some v =>
      cases v with
      | map es =>
        refine iff_of_false (fun h => by cases h) fun ⟨v, hv, hne⟩ => ?_
        exact hne es (Option.some.inj hv).symm
      | _ => exact iff_of_true rfl ⟨_, rfl, fun _ h => by cases h⟩
  · next hname => exact iff_of_false (fun h => by cases h) fun h => hname h.1

section IsOddFile

variable {name : Text} {bytes : List UInt8} {t : Text}

theorem isOddFile_iff_of_read_eq_error {f : Toml.Fault} (hdecode : Utf8.decode bytes = .ok t)
    (hread : Toml.read t = .error f) : IsOddFile name bytes ↔ f ≠ .malformed := by
  constructor
  · rintro (decode | ⟨decode, read, limit⟩ | ⟨decode, read, -, -, -⟩ | ⟨decode, read, -, -⟩)
    · cases hdecode.symm.trans decode
    all_goals obtain rfl := Except.ok.inj (hdecode.symm.trans decode)
    · exact Except.error.inj (hread.symm.trans read) ▸ limit
    · cases hread.symm.trans read
    · cases hread.symm.trans read
  · exact .limit hdecode hread

theorem isOddFile_iff_of_read_eq_ok {table : Toml.Table} (hdecode : Utf8.decode bytes = .ok t)
    (hread : Toml.read t = .ok table) : IsOddFile name bytes ↔
      settings? name table = none ∨ ∃ v, settings? name table = some v ∧ IsOdd v := by
  rw [settings?_eq_none_iff]
  constructor
  · rintro (decode | ⟨decode, read, -⟩ | ⟨decode, read, project, lookup, notMap⟩ |
      ⟨decode, read, settings, odd⟩)
    · cases hdecode.symm.trans decode
    all_goals obtain rfl := Except.ok.inj (hdecode.symm.trans decode)
    · cases hread.symm.trans read
    all_goals obtain rfl := Except.ok.inj (hread.symm.trans read)
    · exact .inl ⟨project, _, lookup, notMap⟩
    · exact .inr ⟨_, settings, odd⟩
  · rintro (⟨project, v, lookup, notMap⟩ | ⟨v, settings, odd⟩)
    · exact .tools hdecode hread project lookup notMap
    · exact .settings hdecode hread settings odd

end IsOddFile

end Config

namespace Workspace

open Config (IsOddFile settings? projectFileName)
open Except (FailsWith failsWith_bind_iff failsWith_mapError_iff)

variable {w : Workspace} {p : Path} {bytes : List UInt8}

theorem readConfig_of_decode_eq_error {f : Utf8.Fault} (h : w.disk.read w.here p = .ok bytes)
    (hdecode : Utf8.decode bytes = .error f) : w.readConfig p = .error (.encoding f) := by
  rw [readConfig, h, Except.mapError_ok, Except.ok_bind, hdecode]
  rfl

theorem readConfig_of_read_eq_error {t : Text} {f : Toml.Fault}
    (h : w.disk.read w.here p = .ok bytes) (hdecode : Utf8.decode bytes = .ok t)
    (hread : Toml.read t = .error f) :
    w.readConfig p = .error (if f = .malformed then .unreadable p.text else .limit f) := by
  rw [readConfig, h, Except.mapError_ok, Except.ok_bind, hdecode, Except.mapError_ok,
    Except.ok_bind, hread]
  cases f <;> rfl

theorem readConfig_of_read_eq_ok {t : Text} {table : Toml.Table}
    (h : w.disk.read w.here p = .ok bytes) (hdecode : Utf8.decode bytes = .ok t)
    (hread : Toml.read t = .ok table) :
    w.readConfig p = (settings? p.name table).elim (.error .noTable) .ok := by
  rw [readConfig, h, Except.mapError_ok, Except.ok_bind, hdecode, Except.mapError_ok,
    Except.ok_bind, hread, Except.mapError_ok, Except.ok_bind, settings?]
  split
  · cases Config.under Config.projectKeys (.map table) <;> rfl
  · rfl

/-- **The odd files** are those that are neither read nor reported. -/
theorem isOddFile_iff (h : w.disk.read w.here p = .ok bytes) : IsOddFile p.name bytes ↔
    FailsWith (¬ ·.IsReported)
      (w.readConfig p >>= fun v => (Config.ofValue v).mapError .content) := by
  cases hdecode : Utf8.decode bytes with
  | error f =>
    rw [readConfig_of_decode_eq_error h hdecode]
    exact iff_of_true (.encoding hdecode) ⟨.encoding f, rfl, fun h => by cases h⟩
  | ok t =>
    cases hread : Toml.read t with
    | error f =>
      rw [Config.isOddFile_iff_of_read_eq_error hdecode hread,
        readConfig_of_read_eq_error h hdecode hread, Except.error_bind,
        Except.failsWith_error_iff]
      cases f with
      | malformed => exact iff_of_false (fun h => h rfl) fun h => h rfl
      | digits | tooDeep => exact iff_of_true (fun h => by cases h) fun h => by cases h
    | ok table =>
      rw [Config.isOddFile_iff_of_read_eq_ok hdecode hread, readConfig_of_read_eq_ok h hdecode hread]
      cases hsettings : settings? p.name table with
      | none => exact iff_of_true (.inl rfl) ⟨.noTable, rfl, fun h => by cases h⟩
      | some v =>
        have hplain := Config.isPlain_settings (Toml.isPlain_read hread) hsettings
        rw [Option.elim_some, Except.ok_bind, failsWith_mapError_iff]
        refine Iff.trans ?_ (Config.isOdd_iff hplain)
        simp

/-! ### Odd directories -/

/-- A directory, and perhaps a path, for which no configuration is loaded and no fault of one is
reported: the search for the file is refused, or the file is odd. -/
inductive HasOddConfig (w : Workspace) (asked : Option Path) (directory : Path) : Prop
  | home {p : Path} (asked : asked = some p) (home : w.fromHome? p = none)
  | search {f : AccessFault} (search : w.askedConfig asked directory = .error (.access f))
  | file {p : Path} {bytes : List UInt8} (found : w.askedConfig asked directory = .ok (some p))
      (read : w.disk.read w.here p = .ok bytes) (odd : IsOddFile p.name bytes)

variable {asked : Option Path} {directory : Path}

theorem failsWith_askedConfig_iff :
    FailsWith (¬ ·.IsReported) (w.askedConfig asked directory) ↔
      (∃ p, asked = some p ∧ w.fromHome? p = none) ∨
        ∃ f, w.askedConfig asked directory = .error (.access f) := by
  cases asked with
  | none =>
    have hasked : w.askedConfig none directory = (w.findConfig directory).mapError .access := rfl
    rw [hasked, or_iff_right (fun ⟨p, hp, _⟩ => by cases hp)]
    cases w.findConfig directory with
    | ok found => exact iff_of_false (Except.not_failsWith_ok _) fun ⟨f, hf⟩ => by cases hf
    | error f => exact iff_of_true ⟨_, rfl, fun h => by cases h⟩ ⟨f, rfl⟩
  | some a =>
    rw [askedConfig]
    cases hhome : w.fromHome? a with
    | none => exact iff_of_true ⟨_, rfl, fun h => by cases h⟩ (.inl ⟨a, rfl, hhome⟩)
    | some p =>
      have hknown : ¬ ∃ p, some a = some p ∧ w.fromHome? p = none := by simp [hhome]
      rw [or_iff_right hknown, Option.elim_some, Except.ok_bind]
      cases w.disk.isFile w.here p with
      | error f => exact iff_of_true ⟨_, rfl, fun h => by cases h⟩ ⟨f, rfl⟩
      | ok present =>
        cases present with
        | true => exact iff_of_false (Except.not_failsWith_ok _) fun ⟨f, hf⟩ => by cases hf
        | false =>
          refine iff_of_false (fun ⟨f, hf, h⟩ => ?_) fun ⟨f, hf⟩ => by cases hf
          cases hf
          exact h rfl

/-- The steps of loading, one after the other. -/
theorem loadConfig_eq : w.loadConfig asked directory = w.askedConfig asked directory >>= fun
    | none => .ok {}
    | some p => w.readConfig p >>= fun v => (Config.ofValue v).mapError .content := by
  rw [loadConfig]
  exact bind_congr fun found => by cases found <;> rfl

theorem valid_of_loadConfig {c : Config} (h : w.loadConfig asked directory = .ok c) : c.Valid := by
  rw [loadConfig_eq] at h
  obtain ⟨found, -, h⟩ := Except.bind_eq_ok_iff.1 h
  cases found with
  | none =>
    cases h
    exact Config.valid_default
  | some p =>
    obtain ⟨v, -, h⟩ := Except.bind_eq_ok_iff.1 h
    exact Config.valid_of_ofValue (Except.mapError_eq_ok_iff.1 h)

/-- **The odd directories** are those where the fault is not reported. -/
theorem hasOddConfig_iff : w.HasOddConfig asked directory ↔
    FailsWith (¬ ·.IsReported) (w.loadConfig asked directory) := by
  rw [loadConfig_eq, failsWith_bind_iff, failsWith_askedConfig_iff]
  constructor
  · rintro (⟨hasked, hhome⟩ | ⟨hsearch⟩ | ⟨hfound, hread, hodd⟩)
    · exact .inl (.inl ⟨_, hasked, hhome⟩)
    · exact .inl (.inr ⟨_, hsearch⟩)
    · exact .inr ⟨_, hfound, (isOddFile_iff hread).1 hodd⟩
  · rintro ((⟨p, hasked, hhome⟩ | ⟨f, hsearch⟩) | ⟨found, hfound, hfails⟩)
    · exact .home hasked hhome
    · exact .search hsearch
    · cases found with
      | none => exact absurd hfails (Except.not_failsWith_ok _)
      | some p =>
        cases hread : w.disk.read w.here p with
        | ok bytes => exact .file hfound hread ((isOddFile_iff hread).2 hfails)
        | error f =>
          -- a file that cannot be opened is reported
          have hunreadable : w.readConfig p = .error (.unreadable p.text) := by
            rw [readConfig, hread]
            rfl
          simp only [hunreadable, Except.error_bind, Except.failsWith_error_iff] at hfails
          exact absurd rfl hfails

/-- **A configuration is loaded valid, or its fault is reported, unless the directory is odd.** -/
theorem loadConfig_valid_or_reported_iff (w : Workspace) (asked : Option Path) (directory : Path) :
    (∃ c, w.loadConfig asked directory = .ok c ∧ c.Valid) ∨
        (∃ f, w.loadConfig asked directory = .error f ∧ f.IsReported) ↔
      ¬ w.HasOddConfig asked directory := by
  rw [hasOddConfig_iff]
  cases hload : w.loadConfig asked directory with
  | ok c => exact iff_of_true (.inl ⟨c, rfl, valid_of_loadConfig hload⟩) (Except.not_failsWith_ok c)
  | error f =>
    rw [Except.failsWith_error_iff, not_not]
    constructor
    · rintro (⟨c, hc, -⟩ | ⟨g, hg, h⟩)
      · cases hc
      · exact Except.error.inj hg ▸ h
    · exact fun h => .inr ⟨f, rfl, h⟩

/-- A file for configurations that holds a single byte, which is no text. -/
def strayByte : Workspace where
  disk := { slots := [⟨[Config.fileName], .file [0xff] 0o644, 0⟩], nextSerial := 1 }
  here := []

/-- The byte is neither read nor reported. -/
theorem loadConfig_strayByte :
    ¬ ((∃ c, strayByte.loadConfig none (Path.ofText []) = .ok c ∧ c.Valid) ∨
      ∃ f, strayByte.loadConfig none (Path.ofText []) = .error f ∧ f.IsReported) := by
  have hload : strayByte.loadConfig none (Path.ofText []) =
      .error (.encoding ⟨0, [0xff], .startByte⟩) := by cbv
  rw [hload]
  rintro (⟨c, h, -⟩ | ⟨f, h, hreported⟩)
  · cases h
  · cases h
    cases hreported

end Workspace

end CommandManual
