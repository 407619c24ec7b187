import CommandManual.CommandLine.Request
import CommandManual.Proofs.Outcome
import Mathlib.Data.List.TakeDrop

/-!
# Reading the lines of two commands

An injection and a check are asked for by the same line but for the name of the command. The texts
in front of the name are read without regard to it, and the texts behind it by options that are the
same up to one switch, which only a check has. So both lines are refused alike, or both are read and
ask for the same.

## Main definitions

* `Arguments.AddsSwitch`: two lists of options that are the same up to a switch.
* `CommandLine.Ending.IsRefusal`: how a run ends at a text that is refused.
* `CommandLine.Request.IsGiven`: what a command is asked to do by its arguments.
* `CommandLine.Leads`: texts that stand in front of a command.
* `CommandLine.Shared`: texts behind a command that a check and an injection have in common.

## Main results

* `Arguments.readFrom_some_cons`, `Arguments.readFrom_none_option_cons`, and others: what one
  argument adds.
* `Arguments.readFrom_append`: the texts in front of a command are read without regard to it.
* `Arguments.AddsSwitch.readFrom`: a switch that is not given does not matter.
* `CommandLine.exists_of_read`: what is asked for is given by arguments that were checked.
* `CommandLine.Leads.read`, `CommandLine.Shared.read`: both lines are refused alike or ask for the
  same.
-/

namespace CommandManual

namespace Text

theorem fst_cutAt (c : Char) (t : Text) : (cutAt c t).1 = t.takeWhile (· ≠ c) := by
  rw [cutAt, List.span_eq_takeWhile_dropWhile]
  split
  · next h => exact (congrArg Prod.fst h).symm
  · next h => exact (congrArg Prod.fst h).symm

/-- A text begins like the part of it in front of a character. -/
theorem startsWith_of_fst_cutAt {c : Char} {t p : Text} (h : p <+: (cutAt c t).1) :
    t.startsWith p = true := by
  rw [fst_cutAt] at h
  exact List.isPrefixOf_iff_prefix.2 (h.trans (List.takeWhile_prefix _))

end Text

namespace Arguments

variable {os os' : List DeclaredOption} {key : Text}

/-! ### One argument more -/

section Cons

variable (os : List DeclaredOption) (anywhere : Bool) (as : List Text)

/-- An option that waits takes the next argument. -/
theorem readFrom_some_cons (o a : Text) : readFrom os anywhere (some o) (a :: as) =
    (readFrom os anywhere none as).map fun r =>
      { r with settings := .value o a :: r.settings } := by
  rw [readFrom]

/-- Two dashes alone end the options. -/
theorem readFrom_none_dashes_cons :
    readFrom os anywhere none (['-', '-'] :: as) = some { rest := as } := by
  rw [readFrom, if_pos rfl]

/-- What begins with a dash is read as an option. -/
theorem readFrom_none_option_cons {a : Text} (hend : a ≠ ['-', '-'])
    (hoption : (a.head? = some '-' && 1 < a.length) = true) :
    readFrom os anywhere none (a :: as) = (readOption os a).bind fun given =>
      (readFrom os anywhere given.2 as).map fun r =>
        { r with settings := given.1 ++ r.settings } := by
  rw [readFrom, if_neg hend, if_pos hoption]
  cases readOption os a with
  | none => rfl
  | some given => rfl

/-- Everything else is no option's. -/
theorem readFrom_none_cons {a : Text} (hend : a ≠ ['-', '-'])
    (hoption : ¬ (a.head? = some '-' && 1 < a.length) = true) :
    readFrom os anywhere none (a :: as) =
      if anywhere then (readFrom os anywhere none as).map fun r => { r with rest := a :: r.rest }
      else some { rest := a :: as } := by
  rw [readFrom, if_neg hend, if_neg hoption]

end Cons

/-! ### In front of a command -/

/-- **The texts in front of a command** are read without regard to it and to what stands behind it.
The induction is on them; a text that ends the options early, or a missing value, would leave
something else than the command. -/
theorem readFrom_append {n m : Text} (hn : n.head? ≠ some '-') (hm : m.head? ≠ some '-')
    (back : List Text) {front : List Text} {waiting : Option Text}
    (h : ∀ a, readFrom os false waiting (front ++ [n]) = some a → a.rest = [n]) :
    readFrom os false waiting (front ++ m :: back) =
      (readFrom os false waiting (front ++ [n])).map fun a => { a with rest := m :: back } := by
  have hdashes (t : Text) (ht : t.head? ≠ some '-') : t ≠ ['-', '-'] := by
    rintro rfl
    exact ht rfl
  induction front generalizing waiting with
  | nil =>
    cases waiting with
    | none => simp [readFrom, hn, hm, hdashes n hn, hdashes m hm]
    | some o => simp [readFrom] at h
  | cons t ts ih =>
    rw [List.cons_append] at h ⊢
    rw [List.cons_append]
    cases waiting with
    | some o =>
      rw [readFrom_some_cons] at h ⊢
      rw [readFrom_some_cons, ih (Option.forall_map_eq_some.1 h), Option.map_map, Option.map_map]
      rfl
    | none =>
      by_cases hend : t = ['-', '-']
      · subst hend
        rw [readFrom_none_dashes_cons] at h ⊢
        obtain rfl : ts = [] := by simpa using h _ rfl
        rw [readFrom_none_dashes_cons]
        rfl
      by_cases hoption : (t.head? = some '-' && 1 < t.length) = true
      · rw [readFrom_none_option_cons _ _ _ hend hoption] at h ⊢
        rw [readFrom_none_option_cons _ _ _ hend hoption]
        cases hread : readOption os t with
        | none => rfl
        | some given =>
          rw [hread, Option.bind_some] at h
          rw [Option.bind_some, Option.bind_some, ih (Option.forall_map_eq_some.1 h),
            Option.map_map, Option.map_map]
          rfl
      · rw [readFrom_none_cons _ _ _ hend hoption, if_neg Bool.false_ne_true] at h
        simpa using h _ rfl

/-! ### One switch more -/

theorem effect?_append (os os' : List DeclaredOption) (s : Text) :
    effect? (os ++ os') s = (effect? os s).or (effect? os' s) :=
  List.findSome?_append

/-- Some options, and a switch that is not among them added to them. -/
structure AddsSwitch (key : Text) (os os' : List DeclaredOption) : Prop where
  long : 2 < key.length
  dashes : ['-', '-'] <+: key
  effect_key : effect? os key = none
  effect_key' : effect? os' key = some (.sets (.switch key true))
  effect_of_ne : ∀ s, s ≠ key → effect? os' s = effect? os s

namespace AddsSwitch

variable (h : AddsSwitch key os os')

include h

/-- The letters behind one dash are not the switch. -/
theorem readLetters (cs : Text) : readLetters os' cs = readLetters os cs := by
  induction cs with
  | nil => rfl
  | cons c cs ih =>
    have hne : ['-', c] ≠ key := by
      rintro rfl
      exact absurd h.long (by simp)
    rw [Arguments.readLetters, Arguments.readLetters, h.effect_of_ne _ hne, ih]

/-- An argument gives the same, or it gives the switch and is refused without it. -/
theorem readOption (arg : Text) : readOption os' arg = readOption os arg ∨
    readOption os' arg = some ([.switch key true], none) ∧ readOption os arg = none := by
  unfold Arguments.readOption
  by_cases hkey : (Text.cutAt '=' arg).1 = key
  · have hstart : arg.startsWith ['-', '-'] = true :=
      Text.startsWith_of_fst_cutAt (hkey ▸ h.dashes)
    simp only [hkey, h.long, if_true, h.effect_key, h.effect_key', hstart]
    cases (Text.cutAt '=' arg).2 with
    | none => exact .inr ⟨rfl, trivial⟩
    | some t => exact .inl rfl
  · simp only [h.effect_of_ne _ hkey, h.readLetters, true_or]

/-- **A switch that is not given does not matter.** The induction is on the arguments; an argument
that gives the switch is in the way only if the others cannot be read either. -/
theorem readFrom {anywhere : Bool} {waiting : Option Text} {args : List Text}
    (hoff : ∀ a, readFrom os' anywhere waiting args = some a → .switch key true ∉ a.settings) :
    readFrom os anywhere waiting args = readFrom os' anywhere waiting args := by
  induction args generalizing waiting with
  | nil => rfl
  | cons t ts ih =>
    cases waiting with
    | some o =>
      rw [readFrom_some_cons] at hoff ⊢
      have hrest := Option.forall_map_eq_some.1 hoff
      rw [readFrom_some_cons, ih fun a ha hmem => hrest a ha (List.mem_cons_of_mem _ hmem)]
    | none =>
      by_cases hend : t = ['-', '-']
      · rw [hend, readFrom_none_dashes_cons, readFrom_none_dashes_cons]
      by_cases hoption : (t.head? = some '-' && 1 < t.length) = true
      · rw [readFrom_none_option_cons _ _ _ hend hoption] at hoff ⊢
        rw [readFrom_none_option_cons _ _ _ hend hoption]
        rcases h.readOption t with hread | ⟨hread, hnone⟩
        · rw [hread] at hoff ⊢
          cases hr : Arguments.readOption os t with
          | none => rfl
          | some given =>
            rw [hr, Option.bind_some] at hoff
            have hrest := Option.forall_map_eq_some.1 hoff
            rw [Option.bind_some, Option.bind_some,
              ih fun a ha hmem => hrest a ha (List.mem_append_right _ hmem)]
        · rw [hread, Option.bind_some] at hoff
          rw [hread, hnone, Option.bind_some]
          cases hothers : Arguments.readFrom os' anywhere none ts with
          | none => rfl
          | some a =>
            have hrest := Option.forall_map_eq_some.1 hoff a hothers
            exact absurd (List.mem_append_left _ (List.mem_singleton_self _)) hrest
      · rw [readFrom_none_cons _ _ _ hend hoption] at hoff ⊢
        rw [readFrom_none_cons _ _ _ hend hoption]
        cases anywhere with
        | false => rfl
        | true =>
          have hrest := Option.forall_map_eq_some.1 hoff
          rw [if_pos rfl, if_pos rfl, ih hrest]

end AddsSwitch

/-- The switch is not given, said by what is read off. -/
theorem notMem_settings_of_switch? {a : Arguments} (h : a.switch? key = none) (on : Bool) :
    .switch key on ∉ a.settings := by
  intro hmem
  rw [switch?, List.findSome?_eq_none_iff] at h
  simpa using h _ (List.mem_reverse.2 hmem)

end Arguments

namespace CommandLine

open Except (FailsOnly)
open Interface (outputKey calledAsKey sectionKey diffKey)

variable {w : Workspace} {e : Ending}

/-! ### Refusals -/

/-- Did the run fail? A check that finds another text than it should did not. -/
def Ending.IsFailure : Ending → Prop
  | .misused _ | .failed _ | .broken _ => True
  | _ => False

theorem Ending.IsFailure.exitCode_ne_zero (h : e.IsFailure) : e.exitCode ≠ 0 := by
  cases e <;> first | exact h.elim | simp [exitCode]

/-- How a run ends at a text that is refused: it is misused, or the text is a path with a null
character in it. -/
inductive Ending.IsRefusal : Ending → Prop
  | misused : IsRefusal (.misused none)
  | nullCharacter (given : Text) : IsRefusal (.broken (.file (.access (.nullCharacter given))))

theorem Ending.IsRefusal.isFailure (h : e.IsRefusal) : e.IsFailure := by
  cases h <;> trivial

theorem failsOnly_checkFile (w : Workspace) (t : Text) :
    FailsOnly Ending.IsRefusal (checkFile w t) := by
  unfold checkFile
  split
  · exact Except.failsOnly_error_iff.2 (.nullCharacter t)
  · split
    · exact Except.failsOnly_error_iff.2 .misused
    · exact Except.failsOnly_ok ()

theorem failsOnly_checkSection (t : Text) : FailsOnly Ending.IsRefusal (checkSection t) := by
  unfold checkSection
  split
  · split
    · exact Except.failsOnly_ok ()
    · exact Except.failsOnly_error_iff.2 .misused
  · exact Except.failsOnly_error_iff.2 .misused

theorem failsOnly_checkOption (w : Workspace) (o t : Text) :
    FailsOnly Ending.IsRefusal (checkOption w o t) := by
  unfold checkOption
  split
  · exact failsOnly_checkFile w t
  · split
    · exact failsOnly_checkSection t
    · exact Except.failsOnly_ok ()

theorem failsOnly_checkOptions (w : Workspace) (a : Arguments) :
    FailsOnly Ending.IsRefusal (checkOptions w a) := by
  refine Except.failsOnly_forM fun o _ => ?_
  cases a.value? o with
  | none => exact Except.failsOnly_ok ()
  | some t => exact failsOnly_checkOption w o t

theorem failsOnly_readRegion (w : Workspace) (a : Arguments) :
    FailsOnly Ending.IsRefusal (readRegion w a) := by
  unfold readRegion
  split
  · exact Except.failsOnly_error_iff.2 .misused
  · next file more _ =>
    refine (failsOnly_checkFile w file).bind fun _ _ => ?_
    split
    · exact Except.failsOnly_error_iff.2 .misused
    · exact Except.failsOnly_ok _

/-! ### What is read -/

/-- What a command is asked to do by its arguments. -/
inductive Request.IsGiven (w : Workspace) (a : Arguments) : Interface.Command → Request → Prop
  | markdown : IsGiven w a .markdown (.markdown (a.value? outputKey))
  | tabular :
    IsGiven w a .tabular (.tabular ((a.value? calledAsKey).getD []) (a.value? outputKey))
  | man :
    IsGiven w a .man (.man ((a.value? sectionKey).bind Text.wholeNumber?) (a.value? outputKey))
  | inject {r : RegionRequest} (h : readRegion w a = .ok r) : IsGiven w a .inject (.inject r)
  | check {r : RegionRequest} (h : readRegion w a = .ok r) :
    IsGiven w a .check (.check r ((a.switch? diffKey).getD false))

/-- What is asked for is given by arguments that were read and checked. -/
theorem exists_of_read {c : Interface.Command} {args : List Text} {q : Request}
    (h : Request.read w c args = .ok q) :
    ∃ a, Arguments.read c.options true args = some a ∧ checkOptions w a = .ok () ∧
      Request.IsGiven w a c q := by
  unfold Request.read at h
  split at h
  · cases h
  · next a hargs =>
    refine ⟨a, hargs, ?_⟩
    cases hshort : shortcut? a with
    | some e =>
      rw [hshort] at h
      cases h
    | none =>
      rw [hshort] at h
      obtain ⟨u, hchecked, h⟩ := Except.bind_eq_ok_iff.1 h
      refine ⟨hchecked, ?_⟩
      cases c with
      | markdown | tabular | man =>
        obtain ⟨-, -, h⟩ := Except.bind_eq_ok_iff.1 h
        obtain rfl := Except.ok.inj h
        constructor
      | inject | check =>
        obtain ⟨r, hr, h⟩ := Except.bind_eq_ok_iff.1 h
        obtain rfl := Except.ok.inj h
        constructor
        exact hr

/-! ### In front of the command -/

/-- The texts stand in front of a command: as far as they can be read, the command is what is left,
and they ask neither for help nor for the version. -/
def Leads (front : List Text) : Prop :=
  ∀ a, Arguments.read (Interface.globalOptions ++ [Interface.help]) false
      (front ++ [Interface.Command.check.name]) = some a →
    a.rest = [Interface.Command.check.name] ∧ shortcut? a = none

theorem head?_name (c : Interface.Command) : c.name.head? ≠ some '-' := by
  cases c <;> decide

/-- **In front of the command** all lines are refused alike, or they are read alike. -/
theorem Leads.read {front : List Text} (h : Leads front) (w : Workspace) :
    (∃ e : Ending, e.IsFailure ∧ ∀ c back,
      Opening.read w (front ++ Interface.Command.name c :: back) = .error e) ∨
    ∃ o : Opening, ∀ c back, Opening.read w (front ++ Interface.Command.name c :: back) =
      .ok { o with command := c, arguments := back } := by
  have hread (c : Interface.Command) (back : List Text) := Arguments.readFrom_append
    (head?_name .check) (head?_name c) back fun a ha => (h a ha).1
  unfold Opening.read readGlobal Arguments.read
  cases hbase : Arguments.readFrom (Interface.globalOptions ++ [Interface.help]) false none
    (front ++ [Interface.Command.check.name]) with
  | none =>
    simp only [hbase, Option.map_none] at hread
    exact .inl ⟨.misused none, trivial, fun c back => by rw [hread c back]; rfl⟩
  | some a =>
    have hshort (rest : List Text) : shortcut? { a with rest } = none := (h a hbase).2
    simp only [hbase, Option.map_some] at hread
    simp only [hread, hshort, Except.ok_bind]
    cases hcheck : checkOptions w a with
    | error e =>
      refine .inl ⟨e, (failsOnly_checkOptions w a e hcheck).isFailure, fun c back => ?_⟩
      have hcheck' (rest : List Text) : checkOptions w { a with rest } = .error e := hcheck
      rw [hcheck', Except.error_bind]
    | ok u =>
      refine .inr ⟨⟨(a.value? Interface.appKey).getD [], (a.value? Interface.definitionKey).getD [],
        (a.value? Interface.configKey).getD [], (a.switch? Interface.verboseKey).getD false, .check,
        []⟩, fun c back => ?_⟩
      have hcheck' (rest : List Text) : checkOptions w { a with rest } = .ok u := hcheck
      rw [hcheck', Except.ok_bind, Interface.Command.ofName?_name]
      rfl

/-! ### Behind it -/

/-- What an option does is not changed by its help. -/
theorem effect?_region (help help' : String) (s : Text) :
    Arguments.effect? ((Interface.region help).filterMap DeclaredParameter.option?) s =
      Arguments.effect? ((Interface.region help').filterMap DeclaredParameter.option?) s := rfl

/-- The options of a check are those of an injection, and one for the difference. -/
theorem addsSwitch_diff : Arguments.AddsSwitch diffKey Interface.Command.inject.options
    Interface.Command.check.options where
  long := by decide
  dashes := by decide
  effect_key := rfl
  effect_key' := rfl
  effect_of_ne := by
    intro s hs
    rw [Interface.Command.options, Interface.Command.options, Interface.Command.parameters,
      Interface.Command.parameters, List.filterMap_append, List.append_assoc,
      Arguments.effect?_append, Arguments.effect?_append, Arguments.effect?_append,
      effect?_region]
    congr 1
    simp [Arguments.effect?, DeclaredParameter.option?, hs]

/-- The texts behind a check are such as an injection has too: as far as they can be read, they ask
neither for help nor for the difference. -/
def Shared (back : List Text) : Prop :=
  ∀ a, Arguments.read Interface.Command.check.options true back = some a →
    shortcut? a = none ∧ a.switch? diffKey = none

theorem shared_of_read {back : List Text} {a : Arguments}
    (h : Arguments.read Interface.Command.check.options true back = some a)
    (hshort : shortcut? a = none) (hdiff : a.switch? diffKey = none) : Shared back := by
  intro a' ha'
  obtain rfl := Option.some.inj (h.symm.trans ha')
  exact ⟨hshort, hdiff⟩

/-- **Behind the command** both lines are refused alike, or they ask for the same. -/
theorem Shared.read {back : List Text} (h : Shared back) (w : Workspace) :
    (∃ e : Ending, e.IsFailure ∧ Request.read w .check back = .error e ∧
      Request.read w .inject back = .error e) ∨
    ∃ r, Request.read w .check back = .ok (.check r false) ∧
      Request.read w .inject back = .ok (.inject r) := by
  have hread : Arguments.read Interface.Command.inject.options true back =
      Arguments.read Interface.Command.check.options true back :=
    addsSwitch_diff.readFrom fun a ha => Arguments.notMem_settings_of_switch? (h a ha).2 true
  unfold Request.read
  rw [hread]
  cases hargs : Arguments.read Interface.Command.check.options true back with
  | none => exact .inl ⟨.misused none, trivial, rfl, rfl⟩
  | some a =>
    obtain ⟨hshort, hdiff⟩ := h a hargs
    simp only [hshort]
    cases hcheck : checkOptions w a with
    | error e => exact .inl ⟨e, (failsOnly_checkOptions w a e hcheck).isFailure, rfl, rfl⟩
    | ok u =>
      cases hregion : readRegion w a with
      | error e => exact .inl ⟨e, (failsOnly_readRegion w a e hregion).isFailure, rfl, rfl⟩
      | ok r =>
        refine .inr ⟨r, ?_, rfl⟩
        simp only [hdiff]
        rfl

end CommandLine

end CommandManual
