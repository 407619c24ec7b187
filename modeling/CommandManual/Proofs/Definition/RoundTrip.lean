import CommandManual.Command.Definition
import CommandManual.Proofs.Outcome

/-!
# Trees that are written down as definitions

A tree is written down field by field: every command, flag and author is a mapping with all of its
fields, none of them in a short form. What is written down so is read as the tree it was made of.
A definition may use short forms, a text in place of a list or a name with its aliases; but what it
is read as can be written down, and is read as the same tree again.

A definition can say only what is a text among the names of a flag, no command in it is without a
name, and it has a limit to its levels. These are the only trees that no definition describes.

## Main definitions

* `Author.toDefinition`, `Flag.toDefinition`, `Command.toDefinition`: what is written down.
* `Command.IsDefinable`: trees that definitions describe.

## Main results

* `Definition.readAll_eq_ok_iff`: a list of entries is read entry by entry.
* `Command.definedWithin_toDefinition`: what is written down is read as the tree.
* `Command.isDefinable_of_definedWithin`: what is read can be written down.
* `Command.definition_round_trip`: the two together.
-/

namespace CommandManual

/-! ### Writing a tree down -/

namespace Definition

/-- An entry of a mapping. -/
def entry (key : String) (v : Value) : Value × Value := (.text key.toList, v)

/-- A list of texts. -/
def textList (ts : List Text) : Value := .list (ts.map .text)

end Definition

open Definition

/-- The fields of an author. -/
def Author.toEntries (a : Author) : Entries :=
  [entry "name" (.text a.name), entry "email" (.text a.email)]

/-- An author, field by field. -/
def Author.toDefinition (a : Author) : Value := .map a.toEntries

/-- The fields of a flag. -/
def Flag.toEntries (f : Flag) : Entries :=
  [entry "names" (.list f.givenNames), entry "type" (.text f.kind.label),
    entry "default" f.defaultValue, entry "default_text" (.text f.defaultText),
    entry "usage" (.text f.usage), entry "env_vars" (textList f.envVars),
    entry "category" (.text f.category), entry "required" (.bool f.required),
    entry "hidden" (.bool f.hidden), entry "deprecated" (.bool f.deprecated)]

/-- A flag, field by field. -/
def Flag.toDefinition (f : Flag) : Value := .map f.toEntries

/-- The fields of a command, with what is written down of the commands below it. -/
def CommandDetails.toEntries (d : CommandDetails) (below : List Value) : Entries :=
  [entry "name" (.text d.name), entry "aliases" (textList d.aliases),
    entry "usage" (.text d.usage), entry "usage_text" (.text d.usageText),
    entry "args_usage" (.text d.argsUsage), entry "description" (.text d.description),
    entry "flags" (.list (d.flags.map Flag.toDefinition)), entry "commands" (.list below),
    entry "hidden" (.bool d.hidden), entry "category" (.text d.category),
    entry "authors" (.list (d.authors.map Author.toDefinition)),
    entry "copyright" (.text d.copyright)]

mutual

/-- A tree, command by command and field by field. -/
def Command.toDefinition : Command → Value
  | .mk d cs => .map (d.toEntries (Command.toDefinitions cs))

/-- The trees of a list. -/
def Command.toDefinitions : List Command → List Value
  | [] => []
  | c :: cs => Command.toDefinition c :: Command.toDefinitions cs

end

theorem Command.toDefinitions_eq_map (cs : List Command) :
    Command.toDefinitions cs = cs.map Command.toDefinition := by
  induction cs with
  | nil => rfl
  | cons c cs ih => rw [toDefinitions, ih, List.map_cons]

/-! ### Trees that can be written down -/

/-- Everything among the names is a text. -/
structure Flag.IsDefinable (f : Flag) : Prop where
  strays : f.strays = []
  keyed : f.keyed = false

/-- The command has a name, and so has every flag of it. -/
structure CommandDetails.IsDefinable (d : CommandDetails) : Prop where
  name : d.name.isBlankText = false
  flags : ∀ f ∈ d.flags, f.IsDefinable

/-- A tree of at most so many levels, all commands of which can be written down. -/
def Command.IsDefinable : (levels : Nat) → Command → Prop
  | 0, _ => False
  | levels + 1, c => c.details.IsDefinable ∧ ∀ b ∈ c.commands, IsDefinable levels b

namespace Definition

variable {es : Entries} {key k : String} {v : Value} {t : Text}

/-! ### Reading an entry's fields -/

@[simp] theorem get?_entry_cons :
    get? (entry k v :: es) key = if k = key then some v else get? es key := by
  rw [get?, entry, Value.lookup, Value.sameKey]
  simp only [beq_iff_eq, String.toList_inj]
  rfl

theorem text_of_get? (h : get? es key = some (.text t)) : text es key = .ok t := by
  rw [text, open?, h]
  rfl

theorem truth_of_get? {b : Bool} (h : get? es key = some (.bool b)) : truth es key = .ok b := by
  rw [truth, open?, h]
  rfl

/-- A list counts as none only if it is empty. -/
theorem filled?_of_get? {vs : List Value} (h : get? es key = some (.list vs)) :
    filled? es key = if vs = [] then none else some (.list vs) := by
  rw [filled?, open?, h]
  cases vs <;> rfl

theorem list_of_get? {vs : List Value} (h : get? es key = some (.list vs)) :
    list es key = .ok vs := by
  rw [list, filled?_of_get? h]
  by_cases hvs : vs = []
  · rw [if_pos hvs, hvs]
  · rw [if_neg hvs]

theorem texts_of_get? {ts : List Text} (h : get? es key = some (textList ts)) :
    texts es key = .ok ts := by
  have hts : (ts.map Value.text).mapM Value.text? = some ts := by
    rw [List.mapM_map]
    exact List.mapM_pure.trans (congrArg some (List.map_id ts))
  rw [texts, filled?_of_get? h]
  by_cases hnil : ts.map Value.text = []
  · rw [if_pos hnil, List.map_eq_nil_iff.1 hnil]
  · rw [if_neg hnil]
    simp only [hts]

theorem authorList_of_get? {vs : List Value} (h : get? es "authors" = some (.list vs)) :
    authorList es = .ok vs := by
  have hlist := list_of_get? h
  rw [authorList, filled?_of_get? h]
  by_cases hvs : vs = []
  · rw [if_pos hvs]
    exact hlist
  · rw [if_neg hvs]
    exact hlist

/-- Entries under keys that are read are let pass. -/
theorem onlyKeys_of_subset {known : List String} (keys : List String)
    (hes : es.map Prod.fst = keys.map fun k => .text k.toList) (h : keys ⊆ known) :
    onlyKeys known es = .ok () := by
  have hknown : es.filter (fun e => !known.any fun k => Value.sameKey e.1 (.text k.toList)) = [] := by
    refine List.filter_eq_nil_iff.2 fun e he => ?_
    obtain ⟨k, hk, hkey⟩ := List.mem_map.1 (hes ▸ List.mem_map_of_mem (f := Prod.fst) he)
    have hsame : Value.sameKey e.1 (.text k.toList) = true := by
      rw [← hkey, Value.sameKey, beq_self_eq_true]
    simp only [Bool.not_eq_true', Bool.not_eq_false, List.any_eq_true]
    exact ⟨k, h hk, hsame⟩
  rw [onlyKeys, hknown]

/-! ### Reading a list of entries -/

/-- **A list of entries is read entry by entry.** -/
theorem readAll_eq_ok_iff {α : Type} {step : Nat → Step} {read : Value → Except Fault α} {i : Nat}
    {vs : List Value} {as : List α} :
    readAll step read i vs = .ok as ↔ List.Forall₂ (fun v a => read v = .ok a) vs as := by
  induction vs generalizing i as with
  | nil =>
    rw [readAll, List.forall₂_nil_left_iff]
    exact ⟨fun h => (Except.ok.inj h).symm, fun h => congrArg Except.ok h.symm⟩
  | cons v vs ih =>
    rw [readAll, Except.bind_eq_ok_iff, List.forall₂_cons_left_iff]
    constructor
    · rintro ⟨a, ha, h⟩
      obtain ⟨as', has', h⟩ := Except.bind_eq_ok_iff.1 h
      exact ⟨a, as', Except.mapError_eq_ok_iff.1 ha, ih.1 has', (Except.ok.inj h).symm⟩
    · rintro ⟨a, as', ha, has', rfl⟩
      exact ⟨a, Except.mapError_eq_ok_iff.2 ha, Except.bind_eq_ok_iff.2 ⟨as', ih.2 has', rfl⟩⟩

/-- What is written down for every item of a list is read again if each of them is. -/
theorem readAll_map {α : Type} {step : Nat → Step} {read : Value → Except Fault α} {i : Nat}
    {write : α → Value} {as : List α} (h : ∀ a ∈ as, read (write a) = .ok a) :
    readAll step read i (as.map write) = .ok as := by
  rw [readAll_eq_ok_iff, List.forall₂_map_left_iff, List.forall₂_same]
  exact h

/-- What is read from every item of a list has what reading gives to each. -/
theorem forall_of_readAll {α : Type} {step : Nat → Step} {read : Value → Except Fault α} {i : Nat}
    {vs : List Value} {as : List α} {P : α → Prop} (h : readAll step read i vs = .ok as)
    (hP : ∀ v a, read v = .ok a → P a) : ∀ a ∈ as, P a := by
  have hread := readAll_eq_ok_iff.1 h
  clear h
  induction hread with
  | nil => exact List.forall_mem_nil P
  | cons hv _ ih => exact List.forall_mem_cons.2 ⟨hP _ _ hv, ih⟩

end Definition

/-! ### Authors and flags -/

theorem Author.ofDefinition_toDefinition (a : Author) :
    Author.ofDefinition a.toDefinition = .ok a := by
  have hkeys : onlyKeys ["name", "email"] a.toEntries = .ok () :=
    onlyKeys_of_subset ["name", "email"] rfl (List.Subset.refl _)
  have hname : text a.toEntries "name" = .ok a.name := text_of_get? (by simp [toEntries])
  have hemail : text a.toEntries "email" = .ok a.email := text_of_get? (by simp [toEntries])
  simp only [toDefinition, Author.ofDefinition, entries, Value.opened, hkeys, hname, hemail,
    Except.ok_bind]
  rfl

namespace Flag

variable {f : Flag}

theorem ofDefinition_toDefinition (h : f.IsDefinable) : Flag.ofDefinition f.toDefinition = .ok f := by
  have hgiven : f.givenNames = f.names.toList.map .text := by rw [givenNames, h.strays]; rfl
  have hkeys : onlyKeys definitionKeys f.toEntries = .ok () :=
    onlyKeys_of_subset ["names", "type", "default", "default_text", "usage", "env_vars",
      "category", "required", "hidden", "deprecated"] rfl (by decide)
  have hnames : definedNames f.toEntries = .ok f.names.toList := by
    have hget : get? f.toEntries "names" = some (textList f.names.toList) := by
      simp [toEntries, hgiven, textList]
    rw [definedNames, hget, Option.isSome_some, if_pos rfl, texts_of_get? hget]
  have hkind : FlagKind.ofEntries f.toEntries = .ok f.kind := by
    have hget : get? f.toEntries "type" = some (.text f.kind.label) := by simp [toEntries]
    rw [FlagKind.ofEntries, hget]
    simp [FlagKind.ofValue?]
  have hshown : text f.toEntries "default_text" = .ok f.defaultText :=
    text_of_get? (by simp [toEntries])
  have husage : text f.toEntries "usage" = .ok f.usage := text_of_get? (by simp [toEntries])
  have henv : texts f.toEntries "env_vars" = .ok f.envVars := texts_of_get? (by simp [toEntries])
  have hcategory : text f.toEntries "category" = .ok f.category :=
    text_of_get? (by simp [toEntries])
  have hrequired : truth f.toEntries "required" = .ok f.required :=
    truth_of_get? (by simp [toEntries])
  have hhidden : truth f.toEntries "hidden" = .ok f.hidden := truth_of_get? (by simp [toEntries])
  have hdeprecated : truth f.toEntries "deprecated" = .ok f.deprecated :=
    truth_of_get? (by simp [toEntries])
  have hdefault : (get? f.toEntries "default").getD .null = f.defaultValue := by simp [toEntries]
  have hlist : FlagNames.ofList f.names.toList = .ok f.names := by simp [FlagNames.ofList]
  simp only [toDefinition, ofDefinition, entries, Value.opened, hkeys, hnames, hkind, hshown,
    husage, henv, hcategory, hrequired, hhidden, hdeprecated, hdefault, hlist, Except.ok_bind]
  obtain ⟨names, strays, keyed⟩ := f
  obtain ⟨rfl, rfl⟩ := h
  rfl

/-- Among the names of a flag that is read there is nothing but texts. -/
theorem isDefinable_of_ofDefinition {v : Value} (h : Flag.ofDefinition v = .ok f) :
    f.IsDefinable := by
  simp only [ofDefinition, Except.bind_eq_ok_iff] at h
  obtain ⟨es, -, _, -, names, -, kind, -, shown, -, usage, -, env, -, category, -, required, -,
    hidden, -, deprecated, -, h⟩ := h
  cases hnames : FlagNames.ofList names with
  | error g =>
    rw [hnames] at h
    cases h
  | ok ns =>
    rw [hnames] at h
    cases h
    exact ⟨rfl, rfl⟩

end Flag

/-! ### Commands -/

namespace CommandDetails

variable {d : CommandDetails} {below : List Value}

theorem definedHead_toEntries (h : d.IsDefinable) (below : List Value) :
    definedHead (d.toEntries below) =
      .ok ({ d with hidden := false, category := [], authors := [], copyright := [] },
        d.authors.map Author.toDefinition) := by
  have hkeys : onlyKeys Command.definitionKeys (d.toEntries below) = .ok () :=
    onlyKeys_of_subset Command.definitionKeys rfl (List.Subset.refl _)
  have hname : text (d.toEntries below) "name" = .ok d.name := text_of_get? (by simp [toEntries])
  have hflags : list (d.toEntries below) "flags" = .ok (d.flags.map Flag.toDefinition) :=
    list_of_get? (by simp [toEntries])
  have hbelow : list (d.toEntries below) "commands" = .ok below :=
    list_of_get? (by simp [toEntries])
  have hauthors : authorList (d.toEntries below) = .ok (d.authors.map Author.toDefinition) :=
    authorList_of_get? (by simp [toEntries])
  have haliases : texts (d.toEntries below) "aliases" = .ok d.aliases :=
    texts_of_get? (by simp [toEntries])
  have husage : text (d.toEntries below) "usage" = .ok d.usage :=
    text_of_get? (by simp [toEntries])
  have husageText : text (d.toEntries below) "usage_text" = .ok d.usageText :=
    text_of_get? (by simp [toEntries])
  have hargsUsage : text (d.toEntries below) "args_usage" = .ok d.argsUsage :=
    text_of_get? (by simp [toEntries])
  have hdescription : text (d.toEntries below) "description" = .ok d.description :=
    text_of_get? (by simp [toEntries])
  have hread : readAll .flag Flag.ofDefinition 0 (d.flags.map Flag.toDefinition) = .ok d.flags :=
    readAll_map fun f hf => Flag.ofDefinition_toDefinition (h.flags f hf)
  simp only [definedHead, hkeys, hname, h.name, hflags, hbelow, hauthors, haliases, husage,
    husageText, hargsUsage, hdescription, hread, Except.ok_bind]
  rfl

theorem definedTail_toEntries (d head : CommandDetails) (below : List Value) :
    head.definedTail (d.toEntries below) (d.authors.map Author.toDefinition) =
      .ok { head with hidden := d.hidden, category := d.category, authors := d.authors,
                      copyright := d.copyright } := by
  have hhidden : truth (d.toEntries below) "hidden" = .ok d.hidden :=
    truth_of_get? (by simp [toEntries])
  have hcategory : text (d.toEntries below) "category" = .ok d.category :=
    text_of_get? (by simp [toEntries])
  have hcopyright : text (d.toEntries below) "copyright" = .ok d.copyright :=
    text_of_get? (by simp [toEntries])
  have hread : readAll .author Author.ofDefinition 0 (d.authors.map Author.toDefinition) =
      .ok d.authors := readAll_map fun a _ => Author.ofDefinition_toDefinition a
  simp only [definedTail, hhidden, hcategory, hcopyright, hread, Except.ok_bind]
  rfl

/-- A command that is read has a name, and so have its flags. What is read after the commands below
it changes neither. -/
theorem isDefinable_of_defined {es : Entries} {head : CommandDetails} {authors : List Value}
    (hhead : definedHead es = .ok (head, authors)) (htail : head.definedTail es authors = .ok d) :
    d.IsDefinable := by
  simp only [definedHead, Except.bind_eq_ok_iff] at hhead
  obtain ⟨-, -, name, -, hhead⟩ := hhead
  split at hhead
  · cases hhead
  · next hname =>
    simp only [Except.bind_eq_ok_iff] at hhead
    obtain ⟨vs, -, _, -, _, -, aliases, -, usage, -, usageText, -, argsUsage, -, description, -,
      flags, hflags, hhead⟩ := hhead
    simp only [definedTail, Except.bind_eq_ok_iff] at htail
    obtain ⟨hidden, -, category, -, authors, -, copyright, -, htail⟩ := htail
    cases hhead
    cases htail
    exact ⟨Bool.eq_false_iff.2 hname, forall_of_readAll hflags fun _ _ hf =>
      Flag.isDefinable_of_ofDefinition hf⟩

end CommandDetails

namespace Command

variable {levels : Nat} {t : Command} {v : Value}

/-- **What is written down of a tree is read as the tree.** -/
theorem definedWithin_toDefinition (h : t.IsDefinable levels) :
    definedWithin levels t.toDefinition = .ok t := by
  induction levels generalizing t with
  | zero => exact h.elim
  | succ levels ih =>
    obtain ⟨d, cs⟩ := t
    obtain ⟨hd, hcs⟩ := h
    have hbelow : list (d.toEntries (cs.map toDefinition)) "commands" = .ok (cs.map toDefinition) :=
      list_of_get? (by simp [CommandDetails.toEntries])
    have hread : readAll .command (definedWithin levels) 0 (cs.map toDefinition) = .ok cs :=
      readAll_map fun c hc => ih (hcs c hc)
    rw [details_mk] at hd
    simp only [toDefinition, toDefinitions_eq_map, definedWithin, entries, Value.opened,
      CommandDetails.definedHead_toEntries hd, CommandDetails.definedTail_toEntries, hbelow, hread,
      Except.ok_bind]
    rfl

/-- **What is read can be written down.** -/
theorem isDefinable_of_definedWithin (h : definedWithin levels v = .ok t) :
    t.IsDefinable levels := by
  induction levels generalizing v t with
  | zero => cases h
  | succ levels ih =>
    simp only [definedWithin, Except.bind_eq_ok_iff] at h
    obtain ⟨es, -, ⟨head, authors⟩, hhead, vs, -, below, hbelow, d, htail, h⟩ := h
    cases h
    exact ⟨CommandDetails.isDefinable_of_defined hhead htail,
      forall_of_readAll hbelow fun _ _ hb => ih hb⟩

/-- **Reading a definition loses nothing and alters nothing.** What is written down of the tree that
is read, field by field, is read as the same tree. And this holds of every tree that can be written
down at all, whatever is in its fields, so that no field is passed over. -/
theorem definition_round_trip (v : Value) (t : Command) :
    (ofDefinition v = .ok t → ofDefinition t.toDefinition = .ok t) ∧
      (ofDefinition t.toDefinition = .ok t ↔ t.IsDefinable maxLevels) :=
  ⟨fun h => definedWithin_toDefinition (isDefinable_of_definedWithin h),
    isDefinable_of_definedWithin, definedWithin_toDefinition⟩

/-- A flag with a name and an alias, a single environment variable and a single author. -/
theorem definition_round_trip_of_short_forms :
    let flag : Value := .map [(.text "name".toList, .text "level".toList),
      (.text "aliases".toList, .text "l".toList), (.text "env_vars".toList, .text "LEVEL".toList),
      (.text "default".toList, .int 3), (.text "usage".toList, .null)]
    let below : Value := .map [(.text "name".toList, .text "run".toList),
      (.text "hidden".toList, .bool true)]
    let v : Value := .map [(.text "name".toList, .text "app".toList),
      (.text "authors".toList, .text "Ada".toList), (.text "flags".toList, .list [flag]),
      (.text "commands".toList, .list [below])]
    let t : Command := .mk
      { name := "app".toList, authors := [{ name := "Ada".toList }],
        flags := [{ names := ⟨["level".toList, "l".toList], rfl⟩, envVars := ["LEVEL".toList],
                    defaultValue := .int 3 }] }
      [.mk { name := "run".toList, hidden := true } []]
    ofDefinition v = .ok t ∧ ofDefinition t.toDefinition = .ok t := by
  intro flag below v t
  have hv : ofDefinition v = .ok t := by rfl
  exact ⟨hv, (definition_round_trip v t).1 hv⟩

end Command

end CommandManual
