import CommandManual.Proofs.Definition.Reported
import CommandManual.Proofs.Text.Numerals

/-!
# Where the fault of a definition is

The message of a refused definition begins with a place: the way down to a command, as far as the
message names one. The entry of that command read by itself is refused with the same words, now with
the root in place of the way; and on the way every command in front of the one that is entered can
be read. So the message points at the first entry that is wrong, and the rest of the message is
about that entry alone.

A message is only a text. That the place can be read off it is a fact about the wording: no reason
begins like a step to a command, and neither does a step to a flag or to an author.

An entry is read with fewer levels left than a definition of its own. This makes no difference,
since the number of levels only ever decides whether an entry is too deep.

## Main definitions

* `Definition.Refuses`: a definition is refused with a message.
* `Definition.PointsTo`: the command that a message names, and the rest of the message.
* `Definition.Fault.IsOwn`: faults that are worded without a step to a command.
* `Definition.openCommand`: reading a command as far as the commands below it.
* `Definition.ReadBefore`: what is in front of the way to a command can be read.

## Main results

* `Definition.pointsTo_text_append`, `Definition.pointsTo_unique`: a message names one command.
* `Definition.definedWithin_of_le`: more levels change nothing.
* `Definition.exists_of_definedWithin_eq_error`: a fault is found in the first command that has one.
* `Definition.refuses_commandAt`: what a message points to.
-/

namespace CommandManual

namespace Definition

open Except

/-! ### Messages and places -/

/-- The definition is refused with a message. -/
def Refuses (v : Value) (message : Text) : Prop :=
  ∃ p r, Command.ofDefinition v = .error (.entry p r) ∧ message = (Fault.entry p r).message

/-- The way to a command. -/
def commandPlace (is : List Nat) : Place := is.map .command

/-- A message begins with the place of a command, and with that of no command further down. -/
structure PointsTo (message : Text) (is : List Nat) (rest : Text) : Prop where
  eq : message = (commandPlace is).text ++ rest
  longest : ∀ js more, message = (commandPlace js).text ++ more →
    (commandPlace js).text.length ≤ (commandPlace is).text.length

/-- The beginning of a step to a command. -/
def commandMark : Text := ".commands[".toList

/-- A fault is worded without a step to a command at its beginning. -/
def Fault.IsOwn : Fault → Prop
  | .entry p r => ¬ commandMark <+: p.flatMap Step.text ++ r.message
  | _ => True

section Places

variable {is js ks : List Nat} {message rest more : Text}

theorem text_command (i : Nat) :
    (Step.command i).text = commandMark ++ Text.ofNat i ++ [']'] := rfl

theorem text_commandPlace_cons (i : Nat) (is : List Nat) :
    (commandPlace (i :: is)).flatMap Step.text =
      commandMark ++ (Text.ofNat i ++ ']' :: (commandPlace is).flatMap Step.text) := by
  simp only [commandPlace, List.map_cons, List.flatMap_cons, text_command, List.append_assoc,
    List.singleton_append]

theorem text_commandPlace_append (is js : List Nat) :
    (commandPlace (is ++ js)).text =
      (commandPlace is).text ++ (commandPlace js).flatMap Step.text := by
  simp only [commandPlace, Place.text, List.map_append, List.flatMap_append, List.append_assoc]

/-- In front of what does not begin like a step to a command stands the longest place. -/
theorem exists_append_of_steps_eq (hrest : ¬ commandMark <+: rest)
    (h : (commandPlace js).flatMap Step.text ++ more =
      (commandPlace is).flatMap Step.text ++ rest) :
    ∃ ks, is = js ++ ks := by
  induction js generalizing is with
  | nil => exact ⟨is, rfl⟩
  | cons j js ih =>
    rw [text_commandPlace_cons] at h
    cases is with
    | nil =>
      have hmark : rest = commandMark ++ (Text.ofNat j ++ ']' ::
          (commandPlace js).flatMap Step.text ++ more) := by
        rw [← List.append_assoc, h]
        rfl
      exact absurd ⟨_, hmark.symm⟩ hrest
    | cons i is =>
      simp only [text_commandPlace_cons, List.append_assoc, List.cons_append,
        List.append_cancel_left_eq] at h
      obtain ⟨rfl, hsteps⟩ := Text.ofNat_append_cons_inj rfl h
      obtain ⟨ks, rfl⟩ := ih hsteps
      exact ⟨ks, List.cons_append.symm⟩

/-- The same with the root in front. -/
theorem exists_append_of_text_eq (hrest : ¬ commandMark <+: rest)
    (h : (commandPlace is).text ++ rest = (commandPlace js).text ++ more) : ∃ ks, is = js ++ ks := by
  rw [Place.text, Place.text, List.append_assoc, List.append_assoc, List.append_cancel_left_eq] at h
  exact exists_append_of_steps_eq hrest h.symm

/-- A message points at a command if the rest of it does not begin like a step to another. -/
theorem pointsTo_text_append (hrest : ¬ commandMark <+: rest) :
    PointsTo ((commandPlace is).text ++ rest) is rest where
  eq := rfl
  longest js more h := by
    obtain ⟨ks, rfl⟩ := exists_append_of_text_eq hrest h
    rw [text_commandPlace_append, List.length_append]
    exact Nat.le_add_right ..

/-- **A message names one command**, and the rest of it is then fixed. -/
theorem pointsTo_unique (hrest : ¬ commandMark <+: rest)
    (h : PointsTo ((commandPlace is).text ++ rest) js more) : js = is ∧ more = rest := by
  have heq := h.eq
  obtain ⟨ks, rfl⟩ := exists_append_of_text_eq hrest heq
  have hlongest := h.longest _ rest rfl
  rw [text_commandPlace_append, List.length_append] at hlongest
  cases ks with
  | nil =>
    rw [List.append_nil] at heq ⊢
    exact ⟨rfl, (List.append_cancel_left heq).symm⟩
  | cons k ks =>
    have hmark : 0 < ((commandPlace (k :: ks)).flatMap Step.text).length := by
      rw [text_commandPlace_cons]
      exact Nat.succ_pos _
    omega

/-- Up to the first colon there is no step to a command. -/
theorem not_mark_isPrefix_of_colon {s : Text} (hs : '[' ∉ s) (t : Text) :
    ¬ commandMark <+: s ++ ':' :: t := by
  intro h
  have hcolon : s ++ [':'] <+: s ++ ':' :: t := ⟨t, by rw [List.append_assoc, List.singleton_append]⟩
  rcases List.prefix_or_prefix_of_prefix h hcolon with hmark | hmark
  · have hbracket : '[' ∈ s ++ [':'] := hmark.subset (by decide)
    simp [hs] at hbracket
  · have hmem : ':' ∈ commandMark := hmark.subset (by simp)
    exact absurd hmem (by decide)

end Places

/-! ### Faults that are worded without a step to a command -/

theorem isOwn_notMapping (kind : Text) : (Fault.entry [] (.notMapping kind)).IsOwn :=
  not_mark_isPrefix_of_colon List.not_mem_nil _

theorem isOwn_unknownKeys (ks : List Text) : (Fault.entry [] (.unknownKeys ks)).IsOwn :=
  not_mark_isPrefix_of_colon List.not_mem_nil _

/-- What is said about a field begins with its key. -/
theorem not_mark_isPrefix_of_key {key : String} (h : '[' ∉ key.toList) (t : Text) :
    ¬ commandMark <+: '.' :: key.toList ++ ':' :: t :=
  not_mark_isPrefix_of_colon (List.not_mem_cons_of_ne_of_not_mem (by decide) h) t

theorem isOwn_namelessCommand : (Fault.entry [] .namelessCommand).IsOwn := by
  have hname : '[' ∉ "name".toList := by decide
  exact not_mark_isPrefix_of_key hname _

theorem isOwn_of_isAbout {r : Reason} (h : r.IsAbout Command.definitionKeys) :
    (Fault.entry [] r).IsOwn := by
  have hkeys : ∀ key ∈ Command.definitionKeys, '[' ∉ key.toList := by decide
  cases h with
  | text hkey | texts hkey | truth hkey | list hkey =>
    exact not_mark_isPrefix_of_key (hkeys _ hkey) _

/-- The step to a flag or to an author does not begin like one to a command. -/
theorem not_mark_isPrefix_of_step {s : Step} (h : ∀ i, s ≠ .command i) (t : Text) :
    ¬ commandMark <+: s.text ++ t := by
  rintro ⟨u, hu⟩
  cases s with
  | flag i =>
    have hsecond : some 'c' = some 'f' := congrArg (·[1]?) hu
    cases hsecond
  | command i => exact h i rfl
  | author i =>
    have hsecond : some 'c' = some 'a' := congrArg (·[1]?) hu
    cases hsecond

theorem isOwn_under {s : Step} (h : ∀ i, s ≠ .command i) (f : Fault) : (f.under s).IsOwn := by
  cases f with
  | entry p r =>
    rw [Fault.under, Fault.IsOwn, List.flatMap_cons, List.append_assoc]
    exact not_mark_isPrefix_of_step h _
  | keyKind | digits | tooDeep => trivial

/-! ### The first fault -/

section First

variable {α : Type} {v : Value}

/-- The fault of a list is that of the first item that has one. -/
theorem exists_of_readAll_eq_error {step : Nat → Step} {read : Value → Except Fault α} {i : Nat}
    {vs : List Value} {f : Fault} (h : readAll step read i vs = .error f) :
    ∃ k u g, vs[k]? = some u ∧ read u = .error g ∧ f = g.under (step (i + k)) ∧
      ∀ j < k, ∃ b a, vs[j]? = some b ∧ read b = .ok a := by
  induction vs generalizing i with
  | nil => cases h
  | cons v vs ih =>
    rw [readAll] at h
    cases hv : read v with
    | error g =>
      rw [hv] at h
      cases h
      exact ⟨0, v, g, rfl, hv, rfl, fun j hj => absurd hj (Nat.not_lt_zero j)⟩
    | ok a =>
      rw [hv, mapError_ok, ok_bind] at h
      rcases bind_eq_error_iff.1 h with h | ⟨as, -, h⟩
      · obtain ⟨k, u, g, hu, hg, hf, hread⟩ := ih h
        refine ⟨k + 1, u, g, hu, hg, by rw [hf, Nat.add_assoc, Nat.add_comm 1], fun j hj => ?_⟩
        cases j with
        | zero => exact ⟨v, a, rfl, hv⟩
        | succ j => exact hread j (Nat.lt_of_succ_lt_succ hj)
      · cases h

/-- A reader that agrees with another on whatever is not too deep agrees with it on lists. -/
theorem readAll_congr {step : Nat → Step} {read read' : Value → Except Fault α} {i : Nat}
    {vs : List Value} (h : ∀ v ∈ vs, read v ≠ .error .tooDeep → read' v = read v)
    (hdeep : readAll step read i vs ≠ .error .tooDeep) :
    readAll step read' i vs = readAll step read i vs := by
  induction vs generalizing i with
  | nil => rfl
  | cons v vs ih =>
    rw [List.forall_mem_cons] at h
    have hv : read v ≠ .error .tooDeep := fun hv => hdeep (by rw [readAll, hv]; rfl)
    rw [readAll, readAll, h.1 hv]
    cases hread : read v with
    | error f => rfl
    | ok a =>
      have hvs : readAll step read (i + 1) vs ≠ .error .tooDeep := fun hvs =>
        hdeep (by rw [readAll, hread, hvs]; rfl)
      rw [ih h.2 hvs]

/-- What is read of a command in front of the commands below it, and their entries. -/
structure Opened where
  fields : Entries
  head : CommandDetails
  authors : List Value
  commands : List Value

/-- Read a command as far as the commands below it. -/
def openCommand (v : Value) : Except Fault Opened := do
  let fields ← entries v
  let (head, authors) ← CommandDetails.definedHead fields
  return { fields, head, authors, commands := ← list fields "commands" }

/-- A command is read in three parts. -/
theorem definedWithin_succ (levels : Nat) (v : Value) :
    Command.definedWithin (levels + 1) v = openCommand v >>= fun o =>
      readAll .command (Command.definedWithin levels) 0 o.commands >>= fun below =>
      o.head.definedTail o.fields o.authors >>= fun d => .ok (.mk d below) := by
  rw [Command.definedWithin, openCommand]
  cases entries v with
  | error f => rfl
  | ok es =>
    rw [ok_bind, ok_bind]
    cases CommandDetails.definedHead es with
    | error f => rfl
    | ok h =>
      rw [ok_bind, ok_bind]
      cases list es "commands" with
      | error f => rfl
      | ok vs => rfl

theorem commandsIn_of_openCommand {o : Opened} (h : openCommand v = .ok o) :
    commandsIn v = o.commands := by
  rw [openCommand, bind_eq_ok_iff] at h
  obtain ⟨es, hes, h⟩ := h
  obtain ⟨_, -, h⟩ := bind_eq_ok_iff.1 h
  obtain ⟨vs, hvs, h⟩ := bind_eq_ok_iff.1 h
  cases h
  exact commandsIn_eq hes hvs

/-- What is found in front of the commands below is worded without a step to a command. -/
theorem isOwn_openCommand (v : Value) : FailsOnly Fault.IsOwn (openCommand v) := by
  refine .bind (failsOnly_entries isOwn_notMapping) fun es _ => .bind ?_ fun _ _ =>
    .bind (failsOnly_list (by decide) fun _ => isOwn_of_isAbout) fun _ _ => failsOnly_ok _
  have hkeys : FailsOnly Fault.IsOwn (onlyKeys Command.definitionKeys es) :=
    failsOnly_onlyKeys isOwn_unknownKeys fun _ => trivial
  exact failsOnly_definedHead hkeys isOwn_namelessCommand (fun _ => isOwn_of_isAbout) fun _ _ =>
    failsOnly_readAll 0 fun _ _ _ f _ => isOwn_under (by simp) f

/-- What is found behind them is so too. -/
theorem isOwn_definedTail (head : CommandDetails) (es : Entries) (authors : List Value) :
    FailsOnly Fault.IsOwn (head.definedTail es authors) :=
  failsOnly_definedTail (fun _ => isOwn_of_isAbout)
    (failsOnly_readAll 0 fun _ _ _ f _ => isOwn_under (by simp) f)

/-- **More levels change nothing** but that an entry is no longer too deep. -/
theorem definedWithin_of_le {m n : Nat} (hmn : m ≤ n)
    (hdeep : Command.definedWithin m v ≠ .error .tooDeep) :
    Command.definedWithin n v = Command.definedWithin m v := by
  induction m generalizing n v with
  | zero => exact absurd rfl hdeep
  | succ m ih =>
    obtain ⟨n, rfl⟩ : ∃ k, n = k + 1 := ⟨n - 1, by omega⟩
    rw [definedWithin_succ] at hdeep
    rw [definedWithin_succ, definedWithin_succ]
    cases hv : openCommand v with
    | error f => rfl
    | ok o =>
      rw [hv, ok_bind] at hdeep
      have hbelow : readAll .command (Command.definedWithin m) 0 o.commands ≠ .error .tooDeep :=
        fun hbelow => hdeep (by rw [hbelow, error_bind])
      rw [ok_bind, ok_bind, readAll_congr (fun u _ hu => ih (Nat.le_of_succ_le_succ hmn) hu) hbelow]

/-- At every depth on the way to a command those in front of the one that is entered can be read. -/
def ReadBefore (v : Value) (is : List Nat) : Prop :=
  ∀ n i, is[n]? = some i → ∀ k < i,
    ∃ b t, commandAt? v (is.take n ++ [k]) = some b ∧ Command.ofDefinition b = .ok t

theorem readBefore_nil (v : Value) : ReadBefore v [] := by
  intro n i hi
  cases hi

theorem readBefore_cons {i : Nat} {is : List Nat} {u : Value} (hu : (commandsIn v)[i]? = some u)
    (hfirst : ∀ k < i, ∃ b t, (commandsIn v)[k]? = some b ∧ Command.ofDefinition b = .ok t)
    (h : ReadBefore u is) : ReadBefore v (i :: is) := by
  intro n j hj k hk
  cases n with
  | zero =>
    obtain rfl : i = j := Option.some.inj hj
    obtain ⟨b, t, hb, ht⟩ := hfirst k hk
    exact ⟨b, t, by rw [List.take_zero, List.nil_append, commandAt?, hb]; rfl, ht⟩
  | succ n =>
    obtain ⟨b, t, hb, ht⟩ := h n j hj k hk
    exact ⟨b, t, by rw [List.take_succ_cons, List.cons_append, commandAt?, hu]; exact hb, ht⟩

/-- **A fault is found in the first command that has one of its own.** -/
theorem exists_of_definedWithin_eq_error {levels : Nat} {p : Place} {r : Reason}
    (hlevels : levels ≤ maxLevels) (h : Command.definedWithin levels v = .error (.entry p r)) :
    ∃ is q e, p = commandPlace is ++ q ∧ (Fault.entry q r).IsOwn ∧ commandAt? v is = some e ∧
      Command.ofDefinition e = .error (.entry q r) ∧ ReadBefore v is := by
  induction levels generalizing v p with
  | zero => cases h
  | succ levels ih =>
    have hdefined : Command.ofDefinition v = .error (.entry p r) := by
      rw [← h]
      exact definedWithin_of_le hlevels (by rw [h]; simp)
    have hlevels' : levels ≤ maxLevels := Nat.le_of_succ_le hlevels
    rw [definedWithin_succ] at h
    -- The command itself is to blame, in front of the commands below it or behind them, or else the
    -- first of these that cannot be read.
    rcases bind_eq_error_iff.1 h with hopen | ⟨o, hopen, h⟩
    · exact ⟨[], p, v, rfl, isOwn_openCommand v _ hopen, rfl, hdefined, readBefore_nil v⟩
    rcases bind_eq_error_iff.1 h with hbelow | ⟨below, -, h⟩
    · obtain ⟨i, u, g, hu, hg, hf, hread⟩ := exists_of_readAll_eq_error hbelow
      rw [← commandsIn_of_openCommand hopen] at hu hread
      cases g with
      | entry p' r' =>
        cases hf
        obtain ⟨is, q, e, rfl, hown, he, hrefused, hbefore⟩ := ih hlevels' hg
        refine ⟨i :: is, q, e, by rw [Nat.zero_add]; rfl, hown, ?_, hrefused,
          readBefore_cons hu (fun k hk => ?_) hbefore⟩
        · rw [commandAt?, hu]
          exact he
        · obtain ⟨b, t, hb, ht⟩ := hread k hk
          exact ⟨b, t, hb, ht ▸ definedWithin_of_le hlevels' (by rw [ht]; simp)⟩
      | keyKind | digits | tooDeep => cases hf
    · rcases bind_eq_error_iff.1 h with htail | ⟨d, -, h⟩
      · exact ⟨[], p, v, rfl, isOwn_definedTail _ _ _ _ htail, rfl, hdefined, readBefore_nil v⟩
      · cases h

/-- **What a message points to.** The message of a refused definition points at a command; the
entry of that command by itself is refused with the rest of the message, and those in front of it on
the way can be read. -/
theorem refuses_commandAt {message : Text} (h : Refuses v message) :
    (∃ is rest, PointsTo message is rest) ∧
    ∀ is rest, PointsTo message is rest →
      ∃ e, commandAt? v is = some e ∧ Refuses e ("root".toList ++ rest) ∧ ReadBefore v is := by
  obtain ⟨p, r, hv, rfl⟩ := h
  obtain ⟨is, q, e, rfl, hown, he, hrefused, hbefore⟩ :=
    exists_of_definedWithin_eq_error (Nat.le_refl _) hv
  have hmessage : (Fault.entry (commandPlace is ++ q) r).message =
      (commandPlace is).text ++ (q.flatMap Step.text ++ r.message) := by
    rw [Fault.message, Place.text, Place.text, List.flatMap_append, List.append_assoc,
      List.append_assoc, List.append_assoc]
  rw [hmessage]
  refine ⟨⟨is, _, pointsTo_text_append hown⟩, fun js rest hpoints => ?_⟩
  obtain ⟨rfl, rfl⟩ := pointsTo_unique hown hpoints
  refine ⟨e, he, ⟨q, r, hrefused, ?_⟩, hbefore⟩
  rw [Fault.message, Place.text, List.append_assoc]

/-- A flag without a name, two levels down and behind a command that can be read. -/
theorem refuses_commandAt_of_nameless_flag :
    let named (name : String) (es : Entries) : Value :=
      .map ((.text "name".toList, .text name.toList) :: es)
    let v : Value := named "app" [(.text "commands".toList, .list [named "get" [],
      named "set" [(.text "commands".toList, .list
        [named "all" [(.text "flags".toList, .list [.map []])]])]])]
    let rest : Text := ".flags[0]: Flag requires at least one non-empty name".toList
    let message : Text := "root.commands[1].commands[0]".toList ++ rest
    Refuses v message ∧ PointsTo message [1, 0] rest ∧
      ∃ e, commandAt? v [1, 0] = some e ∧ Refuses e ("root".toList ++ rest) ∧
        ReadBefore v [1, 0] := by
  intro named v rest message
  have hrefused : Refuses v message :=
    ⟨[.command 1, .command 0, .flag 0], .flag .nameless, by rfl, by rfl⟩
  have hrest : ¬ commandMark <+: rest := by decide
  have hmessage : message = (commandPlace [1, 0]).text ++ rest := by rfl
  have hpoints : PointsTo message [1, 0] rest := by
    rw [hmessage]
    exact pointsTo_text_append hrest
  exact ⟨hrefused, hpoints, (refuses_commandAt hrefused).2 _ _ hpoints⟩

end First

end Definition

end CommandManual
