import CommandManual.Proofs.Definition.Faults

/-!
# Which faults of a definition are reported

A fault of a definition that is found in one of its entries is reported with the place of the
entry. There are three faults that are not: a key that is no text, of which no list of unknown keys
can be made; the type of a flag with a number in it that is too long to be quoted; and too many
levels of commands. Whatever else a definition holds, at any depth, it is read or its fault is
reported.

Everything that is read of an entry is a chain of steps, and a chain of steps that report their
faults reports its own. So it is enough to know what each step can fail with.

## Main definitions

* `Definition.Reports`: a step that reports its faults.
* `Definition.commandAt?`: the entry of a command at a place in a definition.
* `Definition.IsOrderly`: an entry of a command in which nothing goes unreported.

## Main results

* `Definition.reports_definedWithin`: a definition of orderly entries is read or reported.
* `Command.ofDefinition_of_orderly`: the same without the steps, and what becomes of a key that is
  no text.
-/

namespace CommandManual

namespace Definition

/-! ### Steps that report their faults -/

/-- If the step fails, an entry is to blame and its place is given. -/
def Reports {α : Type} (x : Except Fault α) : Prop := ∀ f, x = .error f → ∃ p r, f = .entry p r

namespace Reports

variable {α β : Type} {x : Except Fault α}

theorem ok (a : α) : Reports (.ok a : Except Fault α) := Except.failsOnly_ok a

theorem refuse (r : Reason) : Reports (refuse r : Except Fault α) := failsOnly_refuse ⟨[], r, rfl⟩

/-- A chain of steps that report their faults. -/
theorem bind {g : α → Except Fault β} (hx : Reports x) (hg : ∀ a, x = .ok a → Reports (g a)) :
    Reports (x >>= g) := Except.FailsOnly.bind hx hg

/-- The place of an entry is known from outside as well. -/
theorem under (s : Step) (hx : Reports x) :
    Except.FailsOnly (fun f => ∃ p r, f.under s = .entry p r) x := by
  intro f hf
  obtain ⟨p, r, rfl⟩ := hx f hf
  exact ⟨s :: p, r, rfl⟩

end Reports

/-! ### Entries -/

/-- The entries of the flags in the entry of a command. -/
def flagsIn (v : Value) : List Value :=
  (entries v >>= fun es => list es "flags").toOption.getD []

/-- The entries of the commands in the entry of a command. -/
def commandsIn (v : Value) : List Value :=
  (entries v >>= fun es => list es "commands").toOption.getD []

/-- The entries of the authors in the entry of a command. -/
def authorsIn (v : Value) : List Value := (entries v >>= authorList).toOption.getD []

/-- The entry of the command at a place in a definition. -/
def commandAt? (v : Value) : List Nat → Option Value
  | [] => some v
  | i :: p => (commandsIn v)[i]?.bind (commandAt? · p)

/-- Every key of the entry is a text. -/
def HasTextKeys (v : Value) : Prop := ∀ es, entries v = .ok es → ∀ e ∈ es, e.1.text?.isSome

/-- What the entry of a flag has for its type can be quoted in a message. -/
def HasQuotableKind (v : Value) : Prop :=
  ∀ es k, entries v = .ok es → get? es "type" = some k → k.isWritable

/-- The entry of a command, those of its flags and those of its authors can be reported. -/
structure IsOrderly (v : Value) : Prop where
  keys : HasTextKeys v
  flagKeys : ∀ f ∈ flagsIn v, HasTextKeys f
  flagKinds : ∀ f ∈ flagsIn v, HasQuotableKind f
  authorKeys : ∀ a ∈ authorsIn v, HasTextKeys a

section Steps

variable {es : Entries} {v : Value}

/-! ### Fields -/

theorem reports_entries (v : Value) : Reports (entries v) := failsOnly_entries fun _ => ⟨[], _, rfl⟩

theorem reports_text (es : Entries) (key : String) : Reports (text es key) :=
  failsOnly_text (List.mem_singleton_self key) fun r _ => ⟨[], r, rfl⟩

theorem reports_texts (es : Entries) (key : String) : Reports (texts es key) :=
  failsOnly_texts (List.mem_singleton_self key) fun r _ => ⟨[], r, rfl⟩

theorem reports_truth (es : Entries) (key : String) : Reports (truth es key) :=
  failsOnly_truth (List.mem_singleton_self key) fun r _ => ⟨[], r, rfl⟩

theorem reports_list (es : Entries) (key : String) : Reports (list es key) :=
  failsOnly_list (List.mem_singleton_self key) fun r _ => ⟨[], r, rfl⟩

/-- What is no text names the same entry as no text. -/
theorem sameKey_text_of_text? {k : Value} (h : k.text? = none) (t : Text) :
    Value.sameKey k (.text t) = false := by
  cases k with
  | text _ => cases h
  | _ => simp [Value.sameKey, Value.asInt?]

/-- Unknown keys can be listed if they are texts. -/
theorem reports_onlyKeys (known : List String) (h : ∀ e ∈ es, e.1.text?.isSome) :
    Reports (onlyKeys known es) :=
  failsOnly_onlyKeys (fun _ => ⟨[], _, rfl⟩) fun ⟨e, he, hstray⟩ => by
    have hsome := h e he
    rw [hstray] at hsome
    cases hsome

/-- A key that is no text is not one of those that are read, and it cannot be listed. -/
theorem onlyKeys_eq_keyKind (known : List String) (h : ∃ e ∈ es, e.1.text? = none) :
    onlyKeys known es = .error .keyKind := by
  obtain ⟨e, he, hnone⟩ := h
  have hunknown : e ∈ es.filter fun e => !known.any fun k => Value.sameKey e.1 (.text k.toList) := by
    refine List.mem_filter.2 ⟨he, ?_⟩
    have hdiffers (t : Text) : Value.sameKey e.1 (.text t) = false := sameKey_text_of_text? hnone t
    simp [hdiffers]
  rw [onlyKeys]
  split
  · next hnil => exact absurd (hnil ▸ hunknown) List.not_mem_nil
  · split
    · next hks =>
      have hsome := Option.isSome_mapM_iff.1 (Option.isSome_of_mem hks) e hunknown
      rw [hnone] at hsome
      cases hsome
    · rfl

/-- A list of entries reports its faults if each of them does. -/
theorem reports_readAll {α : Type} {step : Nat → Step} {read : Value → Except Fault α} (i : Nat)
    {vs : List Value} (h : ∀ v ∈ vs, Reports (read v)) : Reports (readAll step read i vs) :=
  failsOnly_readAll i fun v hv j => (h v hv).under (step j)

/-! ### Authors and flags -/

theorem reports_author (h : HasTextKeys v) : Reports (Author.ofDefinition v) := by
  unfold Author.ofDefinition
  split
  · exact .ok _
  · exact .bind (reports_entries _) fun es hes => .bind (reports_onlyKeys _ (h es hes)) fun _ _ =>
      .bind (reports_text es "name") fun _ _ => .bind (reports_text es "email") fun _ _ => .ok _

theorem reports_definedNames (es : Entries) : Reports (Flag.definedNames es) := by
  rw [Flag.definedNames]
  split
  · exact reports_texts es "names"
  · exact .bind (reports_text es "name") fun _ _ => .bind (reports_texts es "aliases") fun _ _ =>
      .ok _

/-- The type of a flag can be quoted, if it stands there at all. -/
theorem reports_kind (h : ∀ k, get? es "type" = some k → k.isWritable) :
    Reports (FlagKind.ofEntries es) := by
  have hwritable : ((get? es "type").getD (.text FlagKind.string.label)).isWritable = true := by
    cases hkind : get? es "type" with
    | none => rfl
    | some k => exact h k hkind
  simp only [FlagKind.ofEntries]
  split
  · exact .ok _
  · rw [if_pos hwritable]
    exact .refuse _

theorem reports_flag (hkeys : HasTextKeys v) (hkind : HasQuotableKind v) :
    Reports (Flag.ofDefinition v) := by
  refine .bind (reports_entries v) fun es hes => .bind (reports_onlyKeys _ (hkeys es hes)) fun _ _ =>
    .bind (reports_definedNames es) fun names _ => .bind (reports_kind (hkind es · hes)) fun _ _ =>
    .bind (reports_text es _) fun _ _ => .bind (reports_text es _) fun _ _ =>
    .bind (reports_texts es _) fun _ _ => .bind (reports_text es _) fun _ _ =>
    .bind (reports_truth es _) fun _ _ => .bind (reports_truth es _) fun _ _ =>
    .bind (reports_truth es _) fun _ _ => ?_
  split
  · exact .refuse _
  · exact .ok _

/-! ### Commands -/

theorem flagsIn_eq {flags : List Value} (hes : entries v = .ok es)
    (hflags : list es "flags" = .ok flags) : flagsIn v = flags := by
  rw [flagsIn, hes, Except.ok_bind, hflags]
  rfl

theorem commandsIn_eq {commands : List Value} (hes : entries v = .ok es)
    (hcommands : list es "commands" = .ok commands) : commandsIn v = commands := by
  rw [commandsIn, hes, Except.ok_bind, hcommands]
  rfl

theorem authorsIn_eq {authors : List Value} (hes : entries v = .ok es)
    (hauthors : authorList es = .ok authors) : authorsIn v = authors := by
  rw [authorsIn, hes, Except.ok_bind, hauthors]
  rfl

theorem reports_definedHead (h : IsOrderly v) (hes : entries v = .ok es) :
    Reports (CommandDetails.definedHead es) := by
  refine failsOnly_definedHead (reports_onlyKeys _ (h.keys es hes)) ⟨[], _, rfl⟩
    (fun r _ => ⟨[], r, rfl⟩) fun flags hflags => reports_readAll 0 fun f hf => ?_
  have hf' : f ∈ flagsIn v := by rwa [flagsIn_eq hes hflags]
  exact reports_flag (h.flagKeys f hf') (h.flagKinds f hf')

/-- The authors that are read after the commands below are those of the entry. -/
theorem authorList_of_definedHead {head : CommandDetails} {authors : List Value}
    (h : CommandDetails.definedHead es = .ok (head, authors)) : authorList es = .ok authors := by
  simp only [CommandDetails.definedHead, Except.bind_eq_ok_iff] at h
  obtain ⟨-, -, name, -, h⟩ := h
  split at h
  · cases h
  · simp only [Except.bind_eq_ok_iff] at h
    obtain ⟨_, -, _, -, listed, hlisted, _, -, _, -, _, -, _, -, _, -, _, -, h⟩ := h
    cases h
    exact hlisted

theorem reports_definedTail {head : CommandDetails} {authors : List Value} (h : IsOrderly v)
    (hes : entries v = .ok es) (hhead : CommandDetails.definedHead es = .ok (head, authors)) :
    Reports (head.definedTail es authors) := by
  have hauthors := authorsIn_eq hes (authorList_of_definedHead hhead)
  exact failsOnly_definedTail (fun r _ => ⟨[], r, rfl⟩)
    (reports_readAll 0 fun a ha => reports_author (h.authorKeys a (hauthors ▸ ha)))

/-- **A definition of orderly entries is read, or its fault is reported**, if it has not too many
levels. -/
theorem reports_definedWithin {levels : Nat}
    (h : ∀ p e, commandAt? v p = some e → p.length < levels ∧ IsOrderly e) :
    Reports (Command.definedWithin levels v) := by
  induction levels generalizing v with
  | zero => exact absurd (h [] v rfl).1 (Nat.not_lt_zero _)
  | succ levels ih =>
    have hv := (h [] v rfl).2
    refine .bind (reports_entries v) fun es hes => .bind (reports_definedHead hv hes)
      fun ⟨head, authors⟩ hhead => .bind (reports_list es _) fun vs hvs =>
      .bind (reports_readAll 0 fun u hu => ih fun p e he => ?_) fun below _ =>
      .bind (reports_definedTail hv hes hhead) fun _ _ => .ok _
    obtain ⟨i, hi⟩ := List.mem_iff_getElem?.1 hu
    have hplace : commandAt? v (i :: p) = some e := by
      rw [commandAt?, commandsIn_eq hes hvs, hi]
      exact he
    obtain ⟨hlength, horderly⟩ := h (i :: p) e hplace
    exact ⟨Nat.lt_of_succ_lt_succ hlength, horderly⟩

end Steps

end Definition

open Definition

namespace Command

/-- **A definition of orderly entries is read, or its fault is reported** with the place of an
entry. A definition with a key that is no text is neither read nor reported. -/
theorem ofDefinition_of_orderly (v : Value) :
    ((∀ p e, commandAt? v p = some e → p.length < maxLevels ∧ IsOrderly e) →
      (∃ t, ofDefinition v = .ok t) ∨ ∃ p r, ofDefinition v = .error (.entry p r)) ∧
    ((∃ es, entries v = .ok es ∧ ∃ e ∈ es, e.1.text? = none) →
      ofDefinition v = .error .keyKind) := by
  constructor
  · intro h
    cases hv : ofDefinition v with
    | ok t => exact .inl ⟨t, rfl⟩
    | error f =>
      obtain ⟨p, r, rfl⟩ := reports_definedWithin h f hv
      exact .inr ⟨p, r, rfl⟩
  · rintro ⟨es, hes, hkey⟩
    have hkeys := onlyKeys_eq_keyKind definitionKeys hkey
    have hlevels : maxLevels = 489 + 1 := rfl
    rw [ofDefinition, hlevels, definedWithin, hes, Except.ok_bind, CommandDetails.definedHead, hkeys,
      Except.error_bind, Except.error_bind]

/-- The type of a flag is reported; there is a command below, and it is orderly too. -/
theorem ofDefinition_of_orderly_of_kind :
    let below : Value := .map [(.text "name".toList, .text "run".toList)]
    let flag : Value := .map [(.text "name".toList, .text "level".toList),
      (.text "type".toList, .text "complex".toList)]
    let v : Value := .map [(.text "name".toList, .text "app".toList),
      (.text "flags".toList, .list [flag]), (.text "commands".toList, .list [below])]
    (∀ p e, commandAt? v p = some e → p.length < maxLevels ∧ IsOrderly e) ∧
      ((∃ t, ofDefinition v = .ok t) ∨ ∃ p r, ofDefinition v = .error (.entry p r)) := by
  intro below flag v
  have htextKeys (es : Entries) (h : ∀ e ∈ es, e.1.text?.isSome) : HasTextKeys (.map es) := by
    intro es' hes'
    cases hes'
    exact h
  have hflag : HasTextKeys flag := htextKeys _ (by simp [Value.text?])
  have hkind : HasQuotableKind flag := by
    intro es k hes hk
    cases hes
    cases hk
    rfl
  have hbelow : IsOrderly below :=
    ⟨htextKeys _ (by simp [Value.text?]), List.forall_mem_nil _, List.forall_mem_nil _,
      List.forall_mem_nil _⟩
  have hv : IsOrderly v :=
    ⟨htextKeys _ (by simp [Value.text?]), List.forall_mem_singleton.2 hflag,
      List.forall_mem_singleton.2 hkind, List.forall_mem_nil _⟩
  have horderly (p : List Nat) (e : Value) (h : commandAt? v p = some e) :
      p.length < maxLevels ∧ IsOrderly e := by
    match p with
    | [] => cases h; exact ⟨by decide, hv⟩
    | [0] => cases h; exact ⟨by decide, hbelow⟩
    | 0 :: i :: p => cases h
    | (i + 1) :: p => cases h
  exact ⟨horderly, (ofDefinition_of_orderly v).1 horderly⟩

/-- A number as a key is neither read nor reported. -/
theorem ofDefinition_of_number_key :
    let v : Value := .map [(.text "name".toList, .text "app".toList),
      (.int 1, .text "one".toList)]
    ¬ ((∃ t, ofDefinition v = .ok t) ∨ ∃ p r, ofDefinition v = .error (.entry p r)) := by
  intro v
  have hv : ofDefinition v = .error .keyKind := by rfl
  rw [hv]
  rintro (⟨t, h⟩ | ⟨p, r, h⟩) <;> cases h

end Command

end CommandManual
